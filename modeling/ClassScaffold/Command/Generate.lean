import ClassScaffold.Command
import ClassScaffold.Command.Outcome
import ClassScaffold.Environment
import ClassScaffold.Request.Load
/-!
Generating the archive of a request file and copying it to where it is wanted. The output is made when
the archive is finished, and filled while the archive is read.
-/
namespace ClassScaffold.Command
open Text.Utf8 (Bytes)

namespace Report

def generating (request : Path) : String := "🔧 Generating project from " ++ request.text ++ "..."

def loaded (r : Request) : String :=
  "  ✓ Loaded '" ++ r.project ++ "' (" ++ Naming.decimal r.classes.length ++ " classes)"

def database (d : Database) : String := "  ℹ Database: " ++ d.name

def wrote (output : Path) (length : Nat) : String :=
  "  ✓ Wrote " ++ output.text ++ " (" ++ Naming.decimal length ++ " bytes)"

def complete : String := "✨ Generation complete!"

def notCreated (output : Path) (e : Disk.Fault) : String :=
  "Failed to create " ++ output.text ++ ": " ++ e.message

def notWritten (output : Path) (e : Disk.Fault) : String :=
  "Failed to write " ++ output.text ++ ": " ++ e.message

end Report

def generatorFor (e : Environment) (o : GenerateOptions) : Except Database.Unsupported Generator := do
  let database ← match o.database with
    | some name => Database.ofName name
    | none => .ok e.database
  .ok ⟨o.sharedRoot.getD e.sharedRoot, database⟩

variable {m : Type → Type} [Monad m] [Host m]

def copyWithin (output : Path) (s : Stream) : Nat → m (Stream × Except Disk.Fault Nat)
  | 0 => pure (s, .ok 0)
  | reads + 1 => do
    let (s, outcome) ← s.read Stream.chunk
    match outcome with
    | .delivered bytes => do
      match ← (Host.appendFile output bytes : m (Except Disk.Fault Unit)) with
      | .error e => pure (s, .error e)
      | .ok () => do
        let (s, rest) ← copyWithin output s reads
        pure (s, rest.map (bytes.length + ·))
    | .failed e => pure (s, .error e)
    | _ => pure (s, .ok 0)

def deliver (s : Stream) (output : Path) : m (Except String Nat) := do
  match ← (Host.writeFile output [] : m (Except Disk.Fault Unit)) with
  | .error e => do
    s.close
    return .error (Report.notCreated output e)
  | .ok () => do
    let (s, copied) ← copyWithin output s (s.length + 1)
    s.close
    return copied.mapError (Report.notWritten output)

def writeArchive (e : Environment) (o : GenerateOptions) : m Outcome := do
  let heading := [Report.generating o.request]
  match ← (Request.load o.request).run with
  | .error fault => return .failed heading fault.message
  | .ok r =>
    let loaded := heading ++ [Report.loaded r]
    match generatorFor e o with
    | .error unsupported => return .failed loaded unsupported.message
    | .ok g =>
      let started := loaded ++ [Report.database g.database]
      match ← (g.generate r).run with
      | .error failure => return .failed started failure.message
      | .ok s =>
        let output := o.output.getD ⟨s.fileName⟩
        match ← deliver s output with
        | .error message => return .failed started message
        | .ok length => return .done (started ++ [Report.wrote output length, Report.complete])

end ClassScaffold.Command
