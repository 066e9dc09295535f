import ClassScaffold.Text.Blank
/-!
A generation request: the names of the project and of its package, and the class models in order.
Blank and missing names have defaults. Of the fragments of a class name only the first one counts.
-/
namespace ClassScaffold
open Text (trimmed)

structure ClassModel where
  name : List String
  attributes : List String
  methods : List String
  deriving DecidableEq, Repr

structure Request where
  projectName : Option String
  packageName : Option String
  classes : List ClassModel
  deriving DecidableEq, Repr

def defaultProjectName : String := "demo"

def defaultPackageName : String := "com.example.demo"

def nameOr (default : String) (written : Option String) : String :=
  let name := trimmed (written.getD "")
  if name.isEmpty then default else name

namespace ClassModel

def canonicalName (c : ClassModel) : String := trimmed (c.name.headD "")

end ClassModel

namespace Request

def empty : Request := ⟨none, none, []⟩

def project (r : Request) : String := nameOr defaultProjectName r.projectName

def package (r : Request) : String := nameOr defaultPackageName r.packageName

end Request
end ClassScaffold
