import ClassScaffold.Layer
import ClassScaffold.Naming
import ClassScaffold.Package
import ClassScaffold.Path
import ClassScaffold.Project
/-!
Where the files of a project lie below its root. Every name that comes from a request has to be one
part of a path, and each of them is refused with the role that it was to play.
-/
namespace ClassScaffold

namespace Layout

def sourceRoot : String := "src/main/java"

def resourceRoot : String := "src/main/resources"

def testSourceRoot : String := "src/test/java"

def testResourceRoot : String := "src/test/resources"

def buildDescriptor : String := "pom.xml"

def propertiesFile : String := "application.properties"

end Layout

structure Layout where
  root : Path
  package : String
  packageDirectory : Path
  testPackageDirectory : Path
  deriving DecidableEq, Repr

namespace Layout
open ClassScaffold.Path (InvalidSegment)

def descend (start : Path) (segments : List String) : Except InvalidSegment Path :=
  segments.foldlM (fun p segment => p.joinSegment segment "package segment") start

def ofPackage (root : Path) (package : String) : Except InvalidSegment Layout :=
  let segments := Package.segments package
  if segments.isEmpty then .error ⟨"package name", package⟩
  else do
    let main ← descend (root.join sourceRoot) segments
    let test ← descend (root.join testSourceRoot) segments
    .ok ⟨root, Package.ofSegments segments, main, test⟩

def resourceDirectory (l : Layout) : Path := l.root.join resourceRoot

def testResourceDirectory (l : Layout) : Path := l.root.join testResourceRoot

def directories (l : Layout) : List Path :=
  [l.packageDirectory, l.testPackageDirectory, l.resourceDirectory, l.testResourceDirectory]

def classDirectory (l : Layout) (n : Naming) : Except InvalidSegment Path :=
  l.packageDirectory.joinSegment n.group "class name"

structure Entries where
  main : Path
  test : Path
  deriving DecidableEq, Repr

def entries (l : Layout) (p : Project) : Except InvalidSegment Entries := do
  let main ← l.packageDirectory.joinSegment p.entryFile "project name"
  let test ← l.testPackageDirectory.joinSegment p.entryTestFile "project name"
  .ok ⟨main, test⟩

def layerPath (classDirectory : Path) (n : Naming) (layer : Layer) : Path :=
  (classDirectory.join layer.directory).join (layer.fileName n.typeName)

def projectPath (l : Layout) (e : Entries) : Project.File → Path
  | .pom => l.root.join buildDescriptor
  | .properties => l.resourceDirectory.join propertiesFile
  | .entry => e.main
  | .entryTest => e.test

end Layout
end ClassScaffold
