import ClassScaffold.Workspace
/-!
A finished archive on its way to the reader. The stream owns the workspace: when the archive is at its
end or cannot be read, it is closed and the workspace is removed, and only then the reader is told. A
stream that is given up early has its workspace removed as well.
-/
namespace ClassScaffold
open Text.Utf8 (Bytes)

structure Stream where
  fileName : String
  length : Nat
  unread : Option Bytes
  workspace : Option Workspace
  /-- The workspace whose removal has begun and is not known to be over. -/
  removal : Option Workspace
  fault : Option Disk.Fault
  deriving DecidableEq, Repr

namespace Stream

inductive Answer
  | pending
  | granted (count : Nat)
  | failed (fault : Disk.Fault)
  deriving DecidableEq, Repr

inductive Outcome
  | pending
  | delivered (bytes : Bytes)
  | ended
  | failed (fault : Disk.Fault)
  deriving DecidableEq, Repr

structure Turn where
  stream : Stream
  removes : Option Workspace
  outcome : Outcome
  deriving DecidableEq, Repr

def openOn (fileName : String) (contents : Bytes) (w : Workspace) : Stream :=
  ⟨fileName, contents.length, some contents, some w, none, none⟩

def contentDisposition (s : Stream) : String := "attachment; filename=\"" ++ s.fileName ++ "\""

def settle (s : Stream) (gone : Bool) : Stream × Outcome :=
  if s.removal.isSome && !gone then (s, .pending)
  else ({ s with removal := none, fault := none },
    match s.fault with
    | some fault => .failed fault
    | none => .ended)

def finish (s : Stream) (fault : Option Disk.Fault) (gone : Bool) : Turn :=
  let (next, outcome) :=
    settle { s with unread := none, workspace := none, removal := s.workspace, fault } gone
  ⟨next, s.workspace, outcome⟩

def given (left : Bytes) (room count : Nat) : Bytes := left.take (min room (max 1 count))

/-- A reader asks for bytes. `gone` says that a removal that is going on has come to its end. -/
def poll (s : Stream) (room : Nat) (answer : Answer) (gone : Bool) : Turn :=
  match s.unread, answer with
  | none, _ =>
    let (next, outcome) := s.settle gone
    ⟨next, none, outcome⟩
  | some _, .pending => ⟨s, none, .pending⟩
  | some _, .failed fault => s.finish (some fault) gone
  | some left, .granted count =>
    let bytes := given left room count
    if 0 < room ∧ bytes = [] then s.finish none gone
    else ⟨{ s with unread := some (left.drop bytes.length) }, none, .delivered bytes⟩

def giveUp (s : Stream) : Option Workspace := s.workspace

/- Reading on a machine -/

variable {m : Type → Type} [Monad m] [Host m]

def removeAll (w : Option Workspace) : m Unit :=
  match w with
  | some w => w.release
  | none => pure ()

def close (s : Stream) : m Unit := removeAll s.giveUp

def answerFor (s : Stream) (room : Nat) : m Answer :=
  match s.unread with
  | none => pure .pending
  | some _ => do
    match ← (Host.grant room : m (Except Disk.Fault Nat)) with
    | .ok count => pure (.granted count)
    | .error fault => pure (.failed fault)

def read (s : Stream) (room : Nat) : m (Stream × Outcome) := do
  let turn := s.poll room (← s.answerFor room) true
  removeAll turn.removes
  pure (turn.stream, turn.outcome)

def chunk : Nat := 8192

def drainWithin (s : Stream) : Nat → m (Stream × Except Disk.Fault Bytes)
  | 0 => pure (s, .ok [])
  | reads + 1 => do
    let (s, outcome) ← s.read chunk
    match outcome with
    | .delivered bytes => do
      let (s, rest) ← drainWithin s reads
      pure (s, rest.map (bytes ++ ·))
    | .failed fault => pure (s, .error fault)
    | _ => pure (s, .ok [])

/-- Reads to the end. Every read gives a byte at least, so there are not more reads than that. -/
def drain (s : Stream) : m (Stream × Except Disk.Fault Bytes) :=
  drainWithin s (((s.unread.map List.length).getD 0) + 1)

end Stream
end ClassScaffold
