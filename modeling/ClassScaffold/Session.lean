import ClassScaffold.Disk.Operation
import ClassScaffold.Host
/-!
A machine whose disk is a value, and which keeps a history of what it was asked for. Operations are
numbered by their place in the history, and any of them may be given a mishap; removing a tree always
succeeds. The identifiers it hands out are given as well.
-/
namespace ClassScaffold
open Text.Utf8 (Bytes)

structure Mishap where
  fault : Disk.Fault
  /-- How far the operation has come: how many parts of a path were made, or bytes written. -/
  progress : Option Nat
  deriving DecidableEq, Repr

inductive Operation
  | makeDirectory (path : Path)
  | makeDirectories (path : Path)
  | writeFile (path : Path)
  | appendFile (path : Path)
  | readFile (path : Path)
  | nodesBelow (path : Path)
  | readBelow (path : Path) (location : Disk.Location)
  | enterBelow (path : Path) (location : Disk.Location)
  | removeTree (path : Path)
  | grant (count : Nat)
  deriving DecidableEq, Repr

structure Record where
  operation : Operation
  fault : Option Disk.Fault
  deriving DecidableEq, Repr

structure Session where
  disk : Disk
  mishaps : Nat → Option Mishap
  history : List Record
  ids : Nat → Uuid
  idsTaken : Nat

namespace Session

def start (disk : Disk) (ids : Nat → Uuid) : Session := ⟨disk, fun _ => none, [], ids, 0⟩

def record (s : Session) (o : Operation) (fault : Option Disk.Fault) (disk : Disk) : Session :=
  { s with disk, history := s.history ++ [⟨o, fault⟩] }

def faultOf {α : Type} : Except Disk.Fault α → Option Disk.Fault
  | .ok _ => none
  | .error e => some e

/-- The next operation: what it does, and what is left of it when a mishap stops it. -/
def perform {α : Type} (o : Operation) (run : Disk → Except Disk.Fault α × Disk)
    (stopped : Nat → Disk → Disk) : StateM Session (Except Disk.Fault α) := fun s =>
  match s.mishaps s.history.length with
  | some mishap =>
    let disk := match mishap.progress with
      | none => s.disk
      | some n => stopped n s.disk
    (.error mishap.fault, s.record o (some mishap.fault) disk)
  | none =>
    let (result, disk) := run s.disk
    (result, s.record o (faultOf result) disk)

def change (o : Operation) (f : Disk → Except Disk.Fault Disk) (stopped : Nat → Disk → Disk) :
    StateM Session (Except Disk.Fault Unit) :=
  perform o (fun d =>
    match f d with
    | .ok d => (.ok (), d)
    | .error e => (.error e, d)) stopped

def look {α : Type} (o : Operation) (f : Disk → Except Disk.Fault α) :
    StateM Session (Except Disk.Fault α) :=
  perform o (fun d => (f d, d)) fun _ d => d

def orSame (d : Disk) (r : Except Disk.Fault Disk) : Disk := r.toOption.getD d

instance : Host (StateM Session) where
  makeDirectory p := change (.makeDirectory p) (·.makeDirectory p) fun _ d => d
  makeDirectories p := perform (.makeDirectories p) (·.makeDirectories p) fun n d =>
    (d.makeDirectories (Path.ofParts (p.parts.take n))).2
  writeFile p contents := change (.writeFile p) (·.write p contents) fun n d =>
    orSame d (d.write p (contents.take n))
  appendFile p contents := change (.appendFile p) (·.append p contents) fun n d =>
    orSame d (d.append p (contents.take n))
  readFile p := look (.readFile p) (·.read p)
  nodesBelow p := look (.nodesBelow p) fun d => do
    let l ← d.find p
    .ok (Archive.nodesBelow d l)
  readBelow p l := look (.readBelow p l) (·.readBelow p l)
  enterBelow p l := look (.enterBelow p l) (·.enterBelow p l)
  removeTree p := modify fun s => s.record (.removeTree p) none (s.disk.remove p)
  grant n := look (.grant n) fun _ => .ok n
  newId := modifyGet fun s => (s.ids s.idsTaken, { s with idsTaken := s.idsTaken + 1 })

end Session
end ClassScaffold
