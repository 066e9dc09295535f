import ClassScaffold.Disk.Fault
import ClassScaffold.Path
import ClassScaffold.Text.Utf8
/-!
A disk: what stands at each location. A location is a list of names, the innermost first, a name being
bytes; the root is the empty list and always a directory. Paths are resolved name by name, through
symbolic links.
-/
namespace ClassScaffold
open Text.Utf8 (Bytes)

namespace Disk

abbrev Name := Bytes

abbrev Location := List Name

inductive Entry
  | directory
  | file (contents : Bytes)
  | link (target : String)
  deriving DecidableEq, Repr

structure Limits where
  name : Option Nat
  path : Option Nat
  deriving DecidableEq, Repr

def Limits.usual : Limits := ⟨some 255, some 4095⟩

def Limits.unlimited : Limits := ⟨none, none⟩

def Limits.allowName (l : Limits) (name : Name) : Bool := l.name.all (name.length ≤ ·)

def Limits.allowPath (l : Limits) (path : Bytes) : Bool := l.path.all (path.length ≤ ·)

def linkLimit : Nat := 40

end Disk

structure Disk where
  entries : List (Disk.Location × Disk.Entry)
  here : Disk.Location
  limits : Disk.Limits
  deriving DecidableEq, Repr

namespace Disk

def empty (limits : Limits) : Disk := ⟨[], [], limits⟩

def get? (d : Disk) (place : Location) : Option Entry :=
  if place = [] then some .directory else d.entries.lookup place

def put (d : Disk) (place : Location) (e : Entry) : Disk :=
  { d with entries := (place, e) :: d.entries.filter (·.1 != place) }

def removeTree (d : Disk) (place : Location) : Disk :=
  { d with entries := d.entries.filter fun e => !place.isSuffixOf e.1 }

def below (d : Disk) (place : Location) : List (Location × Entry) :=
  d.entries.filterMap fun (l, e) =>
    match place.isSuffixOf? l with
    | some (name :: rest) => some (name :: rest, e)
    | _ => none

/- The way that a path describes -/

inductive Step
  | here
  | up
  | down (name : Name)
  /-- What has been come to has to be a directory. -/
  | inside
  deriving DecidableEq, Repr

structure Route where
  absolute : Bool
  steps : List Step
  closed : Bool
  deriving DecidableEq, Repr

def stepOf (name : List Char) : Option Step :=
  if name = [] then none
  else if name = ['.'] then some .here
  else if name = ['.', '.'] then some .up
  else some (.down (Text.Utf8.encode (String.ofList name)))

def Route.ofText (s : String) : Route :=
  ⟨s.toList.head? == some '/', (Text.splitAt '/' s.toList).filterMap stepOf,
    s.toList.getLast? == some '/'⟩

def route (d : Disk) (p : Path) : Except Fault Route :=
  if p.text.toList.contains '\x00' then .error .nulInPath
  else if p.text.isEmpty then .error .notFound
  else if d.limits.allowPath (Text.Utf8.encode p.text) then .ok (.ofText p.text)
  else .error .nameTooLong

def Route.start (r : Route) (here : Location) : Location := if r.absolute then [] else here

def Route.all (r : Route) : List Step := if r.closed then r.steps ++ [.inside] else r.steps

inductive Purpose
  | reach
  /-- A file that may still be missing; its path does not end in a separator. -/
  | write
  deriving DecidableEq, Repr

def walkWith (d : Disk) (purpose : Purpose) (follow : Location → List Step → Except Fault Location) :
    Location → List Step → Except Fault Location
  | base, [] => .ok base
  | base, .here :: rest | base, .inside :: rest => walkWith d purpose follow base rest
  | base, .up :: rest => walkWith d purpose follow base.tail rest
  | base, .down name :: rest =>
    if purpose = .write ∧ rest = [.inside] then .error .isADirectory
    else if !d.limits.allowName name then .error .nameTooLong
    else match d.get? (name :: base) with
      | none => if purpose = .write ∧ rest = [] then .ok (name :: base) else .error .notFound
      | some .directory => walkWith d purpose follow (name :: base) rest
      | some (.file _) => if rest = [] then .ok (name :: base) else .error .notADirectory
      | some (.link target) =>
        let route := Route.ofText target
        follow (route.start base) (route.all ++ rest)

def walkThrough (d : Disk) (purpose : Purpose) : Nat → Location → List Step → Except Fault Location
  | 0 => walkWith d purpose fun _ _ => .error .tooManyLinks
  | links + 1 => walkWith d purpose (walkThrough d purpose links)

def walk (d : Disk) (purpose : Purpose) (base : Location) (steps : List Step) :
    Except Fault Location :=
  d.walkThrough purpose linkLimit base steps

def find (d : Disk) (p : Path) : Except Fault Location := do
  let route ← d.route p
  d.walk .reach (route.start d.here) route.all

def isDirectory (d : Disk) (p : Path) : Bool :=
  match d.find p with
  | .ok l => d.get? l == some .directory
  | .error _ => false

inductive Spot
  | entry (directory : Location) (name : Name)
  | directory (location : Location)
  deriving DecidableEq, Repr

def spotFrom (d : Disk) (base : Location) (steps : List Step) : Except Fault Spot :=
  match steps.getLast? with
  | some (.down name) => do
    let directory ← d.walk .reach base (steps.dropLast ++ [.inside])
    if d.limits.allowName name then .ok (.entry directory name) else .error .nameTooLong
  | _ => (d.walk .reach base steps).map .directory

def spot (d : Disk) (p : Path) : Except Fault Spot := do
  let route ← d.route p
  d.spotFrom (route.start d.here) route.steps

end Disk
end ClassScaffold
