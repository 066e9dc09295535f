import ClassScaffold.Command.Run
import ClassScaffold.Environment.Assignments
/-!
The program on a real machine: its files, its random identifiers, its variables and its output.
-/
namespace ClassScaffold.Main
open Text.Utf8 (Bytes)

def faultOf (code : UInt32) (details : String) : Disk.Fault :=
  match code.toNat with
  | 2 => .notFound
  | 17 => .alreadyThere
  | 20 => .notADirectory
  | 21 => .isADirectory
  | 36 => .nameTooLong
  | 40 => .tooManyLinks
  | n => .other (details ++ " (os error " ++ Naming.decimal n ++ ")")

def fault : IO.Error → Disk.Fault
  | .alreadyExists _ code details | .invalidArgument _ code details
  | .permissionDenied _ code details | .resourceExhausted _ code details
  | .inappropriateType _ code details | .noSuchThing _ code details
  | .noFileOrDirectory _ code details | .interrupted _ code details
  | .otherError code details | .resourceBusy code details | .resourceVanished code details
  | .unsupportedOperation code details | .hardwareFault code details
  | .unsatisfiedConstraints code details | .illegalOperation code details
  | .protocolError code details | .timeExpired code details => faultOf code details
  | .unexpectedEof => .other "unexpected end of file"
  | .userError text => .other text

def trying {α : Type} (p : Path) (act : IO α) : IO (Except Disk.Fault α) := do
  if p.text.toList.contains '\x00' then return .error .nulInPath
  try
    return .ok (← act)
  catch e =>
    return .error (fault e)

def bytesOf (contents : Bytes) : ByteArray := ⟨contents.toArray⟩

def isDirectory (p : Path) : IO Bool := do
  try
    return (← ((← IO.currentDir) / p.text).metadata).type == .dir
  catch _ => return false

def makeDirectory (p : Path) : IO (Except Disk.Fault Unit) := trying p (IO.FS.createDir p.text)

def makeOrKeep (p : Path) : IO (Except Disk.Fault Unit) := do
  match ← makeDirectory p with
  | .ok () => return .ok ()
  | .error e => if ← isDirectory p then return .ok () else return .error e

def makeWithin (p : Path) : Nat → IO (Except Disk.Fault Unit)
  | 0 => return .error .notFound
  | depth + 1 => do
    if p.text.isEmpty then return .ok ()
    match ← makeOrKeep p, p.parent? with
    | .error .notFound, some parent =>
      match ← makeWithin parent depth with
      | .ok () => makeOrKeep p
      | .error e => return .error e
    | answer, _ => return answer

def append (p : Path) (contents : Bytes) : IO Unit := do
  let file ← IO.FS.Handle.mk p.text .append
  file.write (bytesOf contents)

/-- What is below a directory that cannot be listed is left out; entering it tells why. -/
partial def nodesWithin (p : Path) (above : Disk.Location) : IO (List Archive.Node) := do
  let entries ← ((← IO.currentDir) / p.text).readDir
  let nodes ← entries.toList.mapM fun entry => do
    let location := Text.Utf8.encode entry.fileName :: above
    if (← entry.path.symlinkMetadata).type == .dir then
      let inner ← try nodesWithin (p.join entry.fileName) location catch _ => pure []
      return ⟨location, .directory⟩ :: inner
    else return [⟨location, .file⟩]
  return nodes.flatten

def nodesBelow (p : Path) : IO (List Archive.Node) := do
  if (← ((← IO.currentDir) / p.text).metadata).type == .dir then
    return Archive.inOrder (← nodesWithin p [])
  else return []

def enter (p : Path) : IO Unit := do
  let _ ← ((← IO.currentDir) / p.text).readDir

def read (p : Path) : IO Bytes := return (← IO.FS.readBinFile p.text).data.toList

def number (bytes : ByteArray) : Nat := bytes.data.toList.foldl (fun n b => n * 256 + b.toNat) 0

instance : Host IO where
  makeDirectory := makeDirectory
  makeDirectories p := makeWithin p (p.parts.length + 1)
  writeFile p contents := trying p (IO.FS.writeBinFile p.text (bytesOf contents))
  appendFile p contents := trying p (append p contents)
  readFile p := trying p (read p)
  nodesBelow p := trying p (nodesBelow p)
  readBelow p l := trying p (read (p.join (Archive.Node.path ⟨l, .file⟩)))
  enterBelow p l := trying p (enter (p.join (Archive.Node.path ⟨l, .directory⟩)))
  removeTree p := do
    try
      IO.FS.removeDirAll p.text
    catch _ => pure ()
  grant n := return .ok n
  newId := return ⟨number (← IO.getRandomBytes 16)⟩

def environment : IO Environment := do
  let known ← ["UMLFORGE_TEMP_DIR", "UMLFORGE_DATABASE", "TMPDIR"].mapM fun name => do
    return (← IO.getEnv name).map (name, ·)
  let listed ← trying ⟨"/proc/self/environ"⟩ (read ⟨"/proc/self/environ"⟩)
  let entries := (listed.toOption.getD []).splitOnP (· == 0)
  let others := entries.filterMap fun entry =>
    (Text.Utf8.decode? entry).bind fun text => (Text.cutFirst '=' text.toList).map fun (name, value) =>
      (String.ofList name, String.ofList value)
  return ⟨known.filterMap id ++ others⟩

def around (p : Path) : Nat → List Path
  | 0 => [p]
  | depth + 1 =>
    match p.parent? with
    | some parent => p :: around parent depth
    | none => [p]

def run (arguments : List String) : IO UInt32 := do
  let here : Path := ⟨(← IO.currentDir).toString⟩
  let environment ← (← environment).addNearest (around here here.parts.length)
  let outcome ← (Command.runArguments environment arguments : IO Command.Outcome)
  IO.print outcome.output
  IO.eprint outcome.errorOutput
  return UInt32.ofNat outcome.code

end ClassScaffold.Main

def main (arguments : List String) : IO UInt32 := ClassScaffold.Main.run arguments
