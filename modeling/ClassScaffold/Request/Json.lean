import ClassScaffold.Json.Value
import ClassScaffold.Request
/-!
Requests written as JSON. The text is read once from left to right and the first fault ends the
reading. A request or a class is an object, whose members may come in any order, or an array of its
fields in their order. Members of other names are passed over; a name that counts may come only once.
-/
namespace ClassScaffold.Request.Json
open ClassScaffold.Json

/- Strings and lists -/

def readString : Reader String := fun s =>
  match skipSpace s with
  | [] => .error .endInValue
  | '"' :: rest => Text.read rest
  | s => .error (wrongType "a string" s)

def readOptional : Reader (Option String) := fun s =>
  match skipSpace s with
  | 'n' :: rest => (readWord ['u', 'l', 'l'] rest).map (none, ·)
  | s => (readString s).map fun (text, rest) => (some text, rest)

def nextElement (first : Bool) (s : List Char) : Except Fault (Option (List Char)) :=
  match skipSpace s with
  | [] => .error .endInList
  | ']' :: _ => .ok none
  | c :: rest =>
    if first then .ok (some (c :: rest))
    else if c = ',' then
      match skipSpace rest with
      | [] => .error .endInValue
      | ']' :: _ => .error .trailingComma
      | s => .ok (some s)
    else .error .expectedListEnd

def endArray (s : List Char) : Except Fault (List Char) :=
  match skipSpace s with
  | [] => .error .endInList
  | ']' :: rest => .ok rest
  | ',' :: rest =>
    if (skipSpace rest).head? = some ']' then .error .trailingComma else .error .trailingCharacters
  | _ => .error .trailingCharacters

def elements {α : Type} (element : Reader α) : Nat → Bool → Reader (List α)
  | 0, _, s => (endArray s).map ([], ·)
  | count + 1, first, s => do
    match ← nextElement first s with
    | none => (endArray s).map ([], ·)
    | some s =>
      let (x, rest) ← element s
      let (xs, rest) ← elements element count false rest
      .ok (x :: xs, rest)

def readList {α : Type} (element : Reader α) : Reader (List α) := fun s =>
  match skipSpace s with
  | [] => .error .endInValue
  | '[' :: rest => elements element rest.length true rest
  | s => .error (wrongType "a sequence" s)

/- Objects -/

def nextMember (first : Bool) (s : List Char) : Except Fault (Option (List Char)) :=
  match skipSpace s with
  | [] => .error .endInObject
  | '\x7d' :: _ => .ok none
  | c :: rest =>
    if first then if c = '"' then .ok (some rest) else .error .keyNotString
    else if c = ',' then
      match skipSpace rest with
      | [] => .error .endInValue
      | '"' :: rest => .ok (some rest)
      | '\x7d' :: _ => .error .trailingComma
      | _ => .error .keyNotString
    else .error .expectedObjectEnd

def readColon (s : List Char) : Except Fault (List Char) :=
  match skipSpace s with
  | [] => .error .endInObject
  | ':' :: rest => .ok rest
  | _ => .error .expectedColon

def members {δ : Type} (member : δ → String → Except Fault (Reader δ)) : Nat → Bool → δ → Reader δ
  | 0, _, _, _ => .error .endInObject
  | count + 1, first, draft, s => do
    match ← nextMember first s with
    | none => .ok (draft, skipSpace s)
    | some s =>
      let (name, rest) ← Text.read s
      let value ← member draft name
      let rest ← readColon rest
      let (draft, rest) ← value rest
      members member count false draft rest

def pass {δ : Type} (draft : δ) : Reader δ := fun s => (skipValue s).map (draft, ·)

def once {α δ : Type} (name : String) (seen : Option α) (read : Reader α) (put : α → δ) :
    Except Fault (Reader δ) :=
  if seen.isSome then .error (.duplicateField name)
  else .ok fun s => (read s).map fun (x, rest) => (put x, rest)

/- Classes -/

structure ClassDraft where
  name : Option (List String)
  attributes : Option (List String)
  methods : Option (List String)

def classMember (d : ClassDraft) (name : String) : Except Fault (Reader ClassDraft) :=
  if name = "name" then once name d.name (readList readString) fun x => { d with name := some x }
  else if name = "attributes" then
    once name d.attributes (readList readString) fun x => { d with attributes := some x }
  else if name = "methods" then
    once name d.methods (readList readString) fun x => { d with methods := some x }
  else .ok (pass d)

def ClassDraft.finish (d : ClassDraft) : Except Fault ClassModel :=
  match d.name with
  | none => .error (.missingField "name")
  | some name => .ok ⟨name, d.attributes.getD [], d.methods.getD []⟩

def place {α : Type} (first : Bool) (read : Reader α) (absent : Except Fault α) : Reader α :=
  fun s => do
    match ← nextElement first s with
    | none => absent.map (·, s)
    | some s => read s

def classPlaces : Reader ClassModel := fun s => do
  let (name, s) ← place true (readList readString)
    (.error (.tooFewElements 0 "struct ClassModel with 3 elements")) s
  let (attributes, s) ← place false (readList readString) (.ok []) s
  let (methods, s) ← place false (readList readString) (.ok []) s
  let rest ← endArray s
  .ok (⟨name, attributes, methods⟩, rest)

def readClass : Reader ClassModel := fun s =>
  match skipSpace s with
  | [] => .error .endInValue
  | '[' :: rest => classPlaces rest
  | '\x7b' :: rest => do
    let (draft, rest) ← members classMember (rest.length + 1) true ⟨none, none, none⟩ rest
    let c ← draft.finish
    .ok (c, rest.drop 1)
  | s => .error (wrongType "struct ClassModel" s)

/- Requests -/

structure Draft where
  projectName : Option (Option String)
  packageName : Option (Option String)
  classes : Option (List ClassModel)

def member (d : Draft) (name : String) : Except Fault (Reader Draft) :=
  if name = "projectName" then
    once name d.projectName readOptional fun x => { d with projectName := some x }
  else if name = "packageName" then
    once name d.packageName readOptional fun x => { d with packageName := some x }
  else if name = "classes" then
    once name d.classes (readList readClass) fun x => { d with classes := some x }
  else .ok (pass d)

def Draft.finish (d : Draft) : Request :=
  ⟨d.projectName.getD none, d.packageName.getD none, d.classes.getD []⟩

/-- An array may end early, and then `first` says that not even its first element was there. -/
def places : Reader Request := fun s => do
  let (projectName, afterProject) ← place true readOptional (.ok none) s
  let (packageName, afterPackage) ← place false readOptional (.ok none) afterProject
  let (classes, rest) ← place false (readList readClass) (.ok []) afterPackage
  let rest ← endArray rest
  .ok (⟨projectName, packageName, classes⟩, rest)

def readRequest : Reader Request := fun s =>
  match skipSpace s with
  | [] => .error .endInValue
  | '[' :: rest => places rest
  | '\x7b' :: rest => do
    let (draft, rest) ← members member (rest.length + 1) true ⟨none, none, none⟩ rest
    .ok (draft.finish, rest.drop 1)
  | s => .error (wrongType "struct ProjectRequest" s)

def read (text : String) : Except Fault Request := do
  let (request, rest) ← readRequest text.toList
  if (skipSpace rest).isEmpty then .ok request else .error .trailingCharacters

end ClassScaffold.Request.Json
