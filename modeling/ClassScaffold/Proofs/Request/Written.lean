import ClassScaffold.Proofs.Json.Grammar
import ClassScaffold.Request
/-! The texts that write a request as JSON. The members of an object come in any order; a field that has nothing
to tell can be left out, and members of other names tell nothing. -/
namespace ClassScaffold.Request
open Json

def WritesStrings : List String → List Char → Prop := WritesList .list WritesString

def WritesName : Option String → List Char → Prop
  | none, text => text = "null".toList
  | some name, text => WritesString name text

/-- The one member of a name has this value; `absent` says when there may be none. -/
def Tells (members : List (String × List Char)) (name : String) (value : List Char → Prop) (absent : Prop) : Prop :=
  match members.filter (·.1 = name) with
  | [] => absent
  | [member] => value member.2
  | _ => False

structure ClassMembers (c : ClassModel) (members : List (String × List Char)) : Prop where
  name : Tells members "name" (WritesStrings c.name) False
  attributes : Tells members "attributes" (WritesStrings c.attributes) (c.attributes = [])
  methods : Tells members "methods" (WritesStrings c.methods) (c.methods = [])
  others : ∀ m ∈ members, m.1 ∉ ["name", "attributes", "methods"] → IsWritten .value m.2

def WritesClass (c : ClassModel) (text : List Char) : Prop :=
  ∃ members, ClassMembers c members ∧ WritesList .object WritesMember members text

structure Members (r : Request) (members : List (String × List Char)) : Prop where
  projectName : Tells members "projectName" (WritesName r.projectName) (r.projectName = none)
  packageName : Tells members "packageName" (WritesName r.packageName) (r.packageName = none)
  classes : Tells members "classes" (WritesList .list WritesClass r.classes) (r.classes = [])
  others : ∀ m ∈ members, m.1 ∉ ["projectName", "packageName", "classes"] → IsWritten .value m.2

def IsWrittenAs (r : Request) (text : List Char) : Prop :=
  ∃ before members object after, IsSpaces before ∧ Members r members ∧
    WritesList .object WritesMember members object ∧ IsSpaces after ∧ text = before ++ (object ++ after)

end ClassScaffold.Request
