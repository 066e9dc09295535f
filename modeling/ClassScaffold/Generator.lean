import ClassScaffold.Archive.Pack
import ClassScaffold.Scaffold
import ClassScaffold.Stream
import ClassScaffold.Text.SafeName
/-!
From a request to its archive: a workspace, the project in it, the archive of the project, the stream
of the archive. Whatever fails on the way, the workspace is removed before the failure is told.
-/
namespace ClassScaffold

structure Generator where
  sharedRoot : Path
  database : Database
  deriving DecidableEq, Repr

namespace Generator
open Host (attempt)
open Text.Utf8 (Bytes)

def fileName (r : Request) : String := Text.safeName r.project ++ ".zip"

variable {m : Type → Type} [Monad m] [Host m]

def inPhase {ε α : Type} (phase : Phase) (cause : ε → Cause) (step : ExceptT ε m α) :
    ExceptT Failure m α :=
  step.adapt fun e => ⟨phase, cause e⟩

def build (g : Generator) (w : Workspace) (r : Request) : ExceptT Failure m Bytes := do
  let _ ← inPhase (m := m) .scaffold .filing (Scaffold.fill w.project r g.database)
  let _ ← inPhase (m := m) .package .archive (Archive.pack w.project w.archive)
  attempt (fun e => ⟨.stream, .archive (.file w.archive e)⟩) (Host.readFile w.archive)

def generateIn (g : Generator) (w : Workspace) (r : Request) : ExceptT Failure m Stream :=
  ExceptT.mk do
    match ← (g.build w r).run with
    | .ok contents => return .ok (Stream.openOn (fileName r) contents w)
    | .error e =>
      w.release
      return .error e

def generate (g : Generator) (r : Request) : ExceptT Failure m Stream := do
  let w ← inPhase (m := m) .createWorkspace .filing (Workspace.create g.sharedRoot)
  g.generateIn w r

end Generator
end ClassScaffold
