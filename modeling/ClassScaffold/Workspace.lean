import ClassScaffold.Failure
import ClassScaffold.Host
/-!
A directory of its own for every request, below a root that all of them share. In it are the project
and the archive, and it is removed as a whole. A directory that is there already is never used.
-/
namespace ClassScaffold

structure Workspace where
  root : Path
  deriving DecidableEq, Repr

namespace Workspace
open Host (attempt)

def stem : String := "umlforge-"

def directoryName (id : Uuid) : String := stem ++ id.text

def project (w : Workspace) : Path := w.root.join "project"

def archive (w : Workspace) : Path := w.root.join "project.zip"

variable {m : Type → Type} [Monad m] [Host m]

def release (w : Workspace) : m Unit := Host.removeTree w.root

def create (sharedRoot : Path) : ExceptT FilingFault m Workspace := do
  let fault := FilingFault.createWorkspace sharedRoot
  attempt fault (Host.makeDirectories sharedRoot)
  let id ← (Host.newId : m Uuid)
  let w : Workspace := ⟨sharedRoot.join (directoryName id)⟩
  attempt fault (Host.makeDirectory w.root)
  match ← (Host.makeDirectory w.project : m (Except Disk.Fault Unit)) with
  | .ok () => pure w
  | .error e =>
    (release w : m Unit)
    throw (fault e)

end Workspace
end ClassScaffold
