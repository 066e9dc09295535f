import ClassScaffold.Json.Printer
import ClassScaffold.Request
/-!
The JSON text of a request, with every member and in one order. An absent name is null.
-/
namespace ClassScaffold
open Json.Printer (object array strings string)

def ClassModel.toJson (c : ClassModel) : String :=
  object [("name", strings c.name), ("attributes", strings c.attributes),
    ("methods", strings c.methods)]

def Request.nameToJson (name : Option String) : String := (name.map string).getD "null"

def Request.toJson (r : Request) : String :=
  object [("projectName", nameToJson r.projectName), ("packageName", nameToJson r.packageName),
    ("classes", array (r.classes.map ClassModel.toJson))]

end ClassScaffold
