import ClassScaffold.Request
import ClassScaffold.Yaml.Node
/-!
Requests written as YAML. Any scalar is a text, whatever it looks like; only a missing name may also
be written as a plain null. A collection that is wanted may be left empty. Names of no interest are
passed over; a name that counts may come only once. References may be followed so often only as the
size of the document allows.
-/
namespace ClassScaffold.Request.Yaml
open ClassScaffold.Text.Utf8 (Bytes)
open ClassScaffold.Yaml (Node Document)

abbrev Read := StateT Nat Option

def refuse {α : Type} : Read α := fun _ => none

def resolve (d : Document) (n : Node) : Read Node := fun left =>
  match n, left with
  | .reference _, 0 => none
  | .reference number, left + 1 => (d.node? number).map (·, left)
  | n, left => some (n, left)

def text (d : Document) (n : Node) : Read String := do
  match ← resolve d n with
  | .scalar text _ _ => pure text
  | _ => refuse

def nullTag : Bytes := ClassScaffold.Text.Utf8.encode "tag:yaml.org,2002:null"

def isNull (text : String) : Bool := ["null", "Null", "NULL", "~"].contains text

def optionalText (d : Document) (n : Node) : Read (Option String) := do
  match ← resolve d n with
  | .scalar text true tag =>
    match tag with
    | some tag =>
      if tag != nullTag then pure (some text) else if isNull text then pure none else refuse
    | none => pure (if text.isEmpty || isNull text then none else some text)
  | .scalar text false _ => pure (some text)
  | _ => refuse

def items (d : Document) (n : Node) : Read (List Node) := do
  match ← resolve d n with
  | .sequence items => pure items
  | .scalar text plain _ => if plain && text.isEmpty then pure [] else refuse
  | _ => refuse

def entries (d : Document) (n : Node) : Read (List (Node × Node)) := do
  match ← resolve d n with
  | .mapping entries => pure entries
  | .scalar text plain _ => if plain && text.isEmpty then pure [] else refuse
  | _ => refuse

def texts (d : Document) (n : Node) : Read (List String) := do (← items d n).mapM (text d)

def value? (name : String) (members : List (String × Node)) : Read (Option Node) :=
  match members.filter (·.1 == name) with
  | [] => pure none
  | [(_, node)] => pure (some node)
  | _ => refuse

def members (d : Document) (n : Node) : Read (List (String × Node)) := do
  (← entries d n).mapM fun (key, value) => do pure (← text d key, value)

def textsAt (d : Document) (name : String) (ms : List (String × Node)) :
    Read (Option (List String)) := do
  match ← value? name ms with
  | some node => pure (some (← texts d node))
  | none => pure none

def nameAt (d : Document) (name : String) (ms : List (String × Node)) : Read (Option String) := do
  match ← value? name ms with
  | some node => optionalText d node
  | none => pure none

def classOf (d : Document) (n : Node) : Read ClassModel := do
  let ms ← members d n
  match ← textsAt d "name" ms with
  | none => refuse
  | some name =>
    pure ⟨name, (← textsAt d "attributes" ms).getD [], (← textsAt d "methods" ms).getD []⟩

def classesAt (d : Document) (ms : List (String × Node)) : Read (List ClassModel) := do
  match ← value? "classes" ms with
  | some node => (← items d node).mapM (classOf d)
  | none => pure []

def requestOf (d : Document) (root : Node) : Read Request := do
  let ms ← members d root
  let classes ← classesAt d ms
  pure ⟨← nameAt d "projectName" ms, ← nameAt d "packageName" ms, classes⟩

def ofDocument (d : Document) : Option Request :=
  match d.root with
  | none => some .empty
  | some root => (requestOf d root).run' d.referenceLimit

def read (text : String) : Option Request := (Document.ofText text).bind ofDocument

end ClassScaffold.Request.Yaml
