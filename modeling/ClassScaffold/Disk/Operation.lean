import ClassScaffold.Disk.Basic
/-!
Operations on a disk. Each of them succeeds and changes the disk, or fails; making directories one
below the other keeps those that were made before one of them failed.
-/
namespace ClassScaffold.Disk
open Text.Utf8 (Bytes)

def makeDirectory (d : Disk) (p : Path) : Except Fault Disk := do
  match ← d.spot p with
  | .directory _ => .error .alreadyThere
  | .entry parent name =>
    match d.get? (name :: parent) with
    | some _ => .error .alreadyThere
    | none => .ok (d.put (name :: parent) .directory)

def makeOrKeep (d : Disk) (p : Path) : Except Fault Disk :=
  match d.makeDirectory p with
  | .ok d => .ok d
  | .error e => if d.isDirectory p then .ok d else .error e

def makeWithin (d : Disk) (p : Path) : Nat → Except Fault Unit × Disk
  | 0 => (.error .notFound, d)
  | depth + 1 =>
    if p.text.isEmpty then (.ok (), d)
    else match d.makeDirectory p with
      | .ok d => (.ok (), d)
      | .error .notFound =>
        match p.parent? with
        | none => (.error .notFound, d)
        | some parent =>
          match d.makeWithin parent depth with
          | (.error e, d) => (.error e, d)
          | (.ok (), d) =>
            match d.makeOrKeep p with
            | .ok d => (.ok (), d)
            | .error e => (.error e, d)
      | .error e => if d.isDirectory p then (.ok (), d) else (.error e, d)

def makeDirectories (d : Disk) (p : Path) : Except Fault Unit × Disk :=
  d.makeWithin p (p.parts.length + 1)

def writePlace (d : Disk) (p : Path) : Except Fault Location := do
  let route ← d.route p
  let l ← d.walk .write (route.start d.here) route.all
  if d.get? l = some .directory then .error .isADirectory else .ok l

def write (d : Disk) (p : Path) (contents : Bytes) : Except Fault Disk := do
  .ok (d.put (← d.writePlace p) (.file contents))

def contentsAt (d : Disk) (l : Location) : Except Fault Bytes :=
  match d.get? l with
  | some (.file contents) => .ok contents
  | some .directory => .error .isADirectory
  | _ => .error .notFound

def read (d : Disk) (p : Path) : Except Fault Bytes := do d.contentsAt (← d.find p)

def append (d : Disk) (p : Path) (contents : Bytes) : Except Fault Disk := do
  d.write p ((← d.read p) ++ contents)

/-- The path with all names of the location joined to it. -/
def pathBelow (p : Path) (l : Location) : Bytes :=
  Text.Utf8.encode (p.join "").text ++ [0x2F].intercalate l.reverse

def findBelow (d : Disk) (p : Path) (l : Location) : Except Fault Location := do
  let route ← d.route p
  if d.limits.allowPath (pathBelow p l) then
    d.walk .reach (route.start d.here) (route.all ++ l.reverse.map .down)
  else .error .nameTooLong

def readBelow (d : Disk) (p : Path) (l : Location) : Except Fault Bytes := do
  d.contentsAt (← d.findBelow p l)

def enterBelow (d : Disk) (p : Path) (l : Location) : Except Fault Unit := do
  match d.get? (← d.findBelow p l) with
  | some .directory => .ok ()
  | _ => .error .notADirectory

def remove (d : Disk) (p : Path) : Disk :=
  match d.spot p with
  | .ok (.entry parent name) =>
    match d.get? (name :: parent) with
    | some (.file _) => d
    | _ => d.removeTree (name :: parent)
  | .ok (.directory l) => if l = [] then d else d.removeTree l
  | .error _ => d

end ClassScaffold.Disk
