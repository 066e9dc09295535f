import ClassScaffold.Failure
import ClassScaffold.Host
import ClassScaffold.Plan
/-!
Carrying out a plan: first its directories, then its files, each of them with the directories it
needs. When a request is refused nothing has been touched.
-/
namespace ClassScaffold.Scaffold
open Host (attempt)

variable {m : Type → Type} [Monad m] [Host m]

def makeDirectories (p : Path) : ExceptT FilingFault m Unit :=
  attempt (.createDirectory p) (Host.makeDirectories p)

def write (f : PlannedFile) : ExceptT FilingFault m Unit := do
  match f.path.parent? with
  | some parent => makeDirectories parent
  | none => pure ()
  attempt (.write f.path) (Host.writeFile f.path (Text.Utf8.encode f.text))

def carryOut (p : Plan) : ExceptT FilingFault m Unit := do
  p.directories.forM makeDirectories
  p.files.forM write

def fill (root : Path) (r : Request) (database : Database) : ExceptT FilingFault m (List Path) := do
  match Plan.ofRequest root r database with
  | .error segment => throw (.invalidSegment segment)
  | .ok plan =>
    carryOut plan
    pure (plan.files.map PlannedFile.path)

end ClassScaffold.Scaffold
