import ClassScaffold.Entity
import ClassScaffold.Layer.Files
import ClassScaffold.Layout
/-!
What is to be put on the disk for a request. All names of the request are checked here, so a plan
exists only when none of them is refused, and nothing has been written when one is.
-/
namespace ClassScaffold

structure PlannedFile where
  path : Path
  text : String
  deriving DecidableEq, Repr

structure Plan where
  directories : List Path
  /-- Files that are written side by side; a group starts when the one before it is finished. -/
  groups : List (List PlannedFile)
  deriving DecidableEq, Repr

namespace Plan
open ClassScaffold.Path (InvalidSegment)

def files (p : Plan) : List PlannedFile := p.groups.flatten

def projectGroup (l : Layout) (p : Project) (e : Layout.Entries) : List PlannedFile :=
  Project.File.all.map fun f => ⟨l.projectPath e f, p.text f⟩

def classGroup (directory : Path) (e : Entity) : List PlannedFile :=
  Layer.all.map fun layer => ⟨Layout.layerPath directory e.naming layer, layer.text e⟩

def namings (r : Request) : List Naming := Naming.assign (r.classes.map ClassModel.canonicalName)

def ofRequest (root : Path) (r : Request) (database : Database) : Except InvalidSegment Plan := do
  let layout ← Layout.ofPackage root r.package
  let project : Project := ⟨r.project, layout.package, database⟩
  let entries ← layout.entries project
  let namings := namings r
  let classDirectories ← namings.mapM layout.classDirectory
  let entities := (r.classes.zip namings).map fun (c, n) => Entity.ofClass c n layout.package
  .ok ⟨layout.directories,
    projectGroup layout project entries :: List.zipWith classGroup classDirectories entities⟩

end Plan
end ClassScaffold
