import ClassScaffold.Proofs.Layer.Model
/-! The file of an entity with its types apart from the text around them. What the blocks print is what their
outlines say, so the types that a reader sees can be listed. -/
namespace ClassScaffold.Layer.Model

/-- A stretch of a source: text, or a type. -/
inductive Stretch
  | text (content : String)
  | type (javaType : String)
  deriving DecidableEq, Repr

abbrev Outline := List Stretch

namespace Stretch

def source : Stretch → String
  | text content => content
  | type javaType => javaType

def type? : Stretch → Option String
  | text _ => none
  | type javaType => some javaType

end Stretch

namespace Outline

def source (o : Outline) : String := String.join (o.map Stretch.source)

def types (o : Outline) : List String := o.filterMap Stretch.type?

def separated (separator : String) (blocks : List Outline) : Outline := [.text separator].intercalate blocks

@[simp] theorem sourceNil : source [] = "" := by simp [source]

@[simp] theorem sourceText (content : String) (o : Outline) : source (.text content :: o) = content ++ source o := by
  simp [source, Stretch.source]

@[simp] theorem sourceType (javaType : String) (o : Outline) : source (.type javaType :: o) = javaType ++ source o := by
  simp [source, Stretch.source]

@[simp] theorem sourceAppend (a b : Outline) : source (a ++ b) = source a ++ source b := by simp [source]

@[simp] theorem typesNil : types [] = [] := rfl

@[simp] theorem typesText (content : String) (o : Outline) : types (.text content :: o) = types o := rfl

@[simp] theorem typesType (javaType : String) (o : Outline) : types (.type javaType :: o) = javaType :: types o := rfl

@[simp] theorem typesAppend (a b : Outline) : types (a ++ b) = types a ++ types b := List.filterMap_append

theorem sourceSeparated (separator : String) (blocks : List Outline) :
    source (separated separator blocks) = separator.intercalate (blocks.map source) := by
  unfold separated
  induction blocks with
  | nil => simp
  | cons block rest ih =>
    cases rest with
    | nil => simp
    | cons next others => simpa [List.intercalate_cons_cons, String.append_assoc] using ih

theorem typesSeparated (separator : String) (blocks : List Outline) :
    types (separated separator blocks) = blocks.flatMap types := by
  unfold separated
  induction blocks with
  | nil => rfl
  | cons block rest ih =>
    cases rest with
    | nil => simp
    | cons next others => simpa [List.intercalate_cons_cons] using ih

end Outline
open Outline (source separated types)

/- Fields -/

def declared (marks : String) (f : StoredField) : Outline :=
  [.text (marks ++ "    private "), .type f.javaType, .text (" " ++ f.identifier ++ ";")]

def declaredAll (marks : String) : List StoredField → List Outline
  | [] => []
  | f :: rest =>
    if f.identifier = "id" then declared marks f :: rest.map (declared "")
    else declared "" f :: declaredAll marks rest

def fieldsOutline (e : Entity) : Outline := separated "\n" (declaredAll (keyMarks e.key) (storedFields e))

theorem fieldsSource (e : Entity) : source (fieldsOutline e) = fields e := by
  have each (marks : String) (f : StoredField) : source (declared marks f) = marks ++ declaration f := by
    simp [declared, declaration, String.append_assoc]
  have all (marks : String) (fs : List StoredField) : (declaredAll marks fs).map source = declarations marks fs := by
    induction fs with
    | nil => rfl
    | cons f rest ih =>
      by_cases named : f.identifier = "id"
      · simp [declaredAll, declarations, keyField, named, each]
      · simp [declaredAll, declarations, keyField, named, each, ih]
  rw [fieldsOutline, Outline.sourceSeparated, all, fields, lineSeparated]

theorem fieldsTypes (e : Entity) : types (fieldsOutline e) = (storedFields e).map StoredField.javaType := by
  have each (marks : String) (f : StoredField) : types (declared marks f) = [f.javaType] := rfl
  rw [fieldsOutline, Outline.typesSeparated]
  induction storedFields e with
  | nil => rfl
  | cons f rest ih =>
    unfold declaredAll
    split
    · simp [each, List.flatMap_map, ← List.map_eq_flatMap]
    · simp [each, ih]

/- Methods -/

def parameterOutline (p : Parameter) : Outline :=
  match p.declaredType with
  | some type => [.type (JavaType.ofName type), .text (" " ++ p.identifier)]
  | none => [.text p.identifier]

def stubOutline (m : Method) : Outline :=
  .text "    public " :: .type (JavaType.ofName m.returnType) :: .text (" " ++ m.identifier ++ "(") ::
    (separated ", " (m.parameters.map parameterOutline) ++
      [.text (") \x7b\n        " ++ stubMarker ++ " " ++ m.identifier ++ "\n    \x7d")])

def methodsOutline (e : Entity) : Outline :=
  if e.methods = [] then [] else separated "\n\n" (e.methods.map stubOutline) ++ [.text "\n\n"]

theorem parameterSource (p : Parameter) : source (parameterOutline p) = parameter p := by
  obtain ⟨name, type⟩ := p
  cases type with
  | none => simp [parameterOutline, parameter]
  | some type => simp [parameterOutline, parameter, String.append_assoc]

theorem stubSource (m : Method) : source (stubOutline m) = stub m := by
  have list : (m.parameters.map parameterOutline).map source = m.parameters.map parameter := by
    simp only [List.map_map, Function.comp_def, parameterSource]
  unfold stubOutline stub
  simp only [Outline.sourceText, Outline.sourceType, Outline.sourceAppend, Outline.sourceSeparated, list,
    Outline.sourceNil, String.append_assoc, String.append_empty]

theorem methodsSource (e : Entity) : source (methodsOutline e) = methods e := by
  have stubs : (e.methods.map stubOutline).map source = e.methods.map stub := by
    simp only [List.map_map, Function.comp_def, stubSource]
  unfold methodsOutline methods
  by_cases none : e.methods = []
  · simp [none]
  · simp only [List.isEmpty_iff, none, if_false, Outline.sourceAppend, Outline.sourceSeparated, stubs, paragraphs,
      Outline.sourceText, Outline.sourceNil, String.append_empty]

theorem stubTypes (m : Method) : types (stubOutline m) = JavaType.ofName m.returnType :: parameterTypes m := by
  have each (p : Parameter) : types (parameterOutline p) = (p.declaredType.map JavaType.ofName).toList := by
    obtain ⟨name, type⟩ := p
    cases type <;> rfl
  unfold stubOutline parameterTypes
  simp only [Outline.typesText, Outline.typesType, Outline.typesAppend, Outline.typesNil, Outline.typesSeparated,
    List.flatMap_map, each, List.append_nil, List.filterMap_eq_flatMap_toList]

theorem methodsTypes (e : Entity) : types (methodsOutline e) =
    e.methods.flatMap fun m => JavaType.ofName m.returnType :: parameterTypes m := by
  unfold methodsOutline
  by_cases none : e.methods = []
  · simp [none]
  · simp only [none, if_false, Outline.typesAppend, Outline.typesSeparated, Outline.typesText, Outline.typesNil,
      List.flatMap_map, stubTypes, List.append_nil]

/- Accessors -/

def getterOutline (f : StoredField) : Outline :=
  [.text "    public ", .type f.javaType, .text (" get" ++ Text.capitalized f.identifier ++
    "() \x7b\n        return " ++ f.identifier ++ ";\n    \x7d")]

def setterOutline (f : StoredField) : Outline :=
  [.text ("    public void set" ++ Text.capitalized f.identifier ++ "("), .type f.javaType,
    .text (" " ++ f.identifier ++ ") \x7b\n        this." ++ f.identifier ++ " = " ++ f.identifier ++ ";\n    \x7d")]

def accessorsOutline (e : Entity) : Outline :=
  separated "\n\n" ((storedFields e).flatMap fun f => [getterOutline f, setterOutline f])

theorem accessorsSource (e : Entity) : source (accessorsOutline e) = accessors e := by
  have gets (f : StoredField) : source (getterOutline f) = getter f := by
    simp only [getterOutline, getter, Outline.sourceText, Outline.sourceType, Outline.sourceNil, String.append_assoc,
      String.append_empty]
  have sets (f : StoredField) : source (setterOutline f) = setter f := by
    unfold setterOutline setter
    simp only [Outline.sourceText, Outline.sourceType, Outline.sourceNil, String.append_assoc]
    simp only [String.append_empty]
  simp only [accessorsOutline, accessors, paragraphs, Outline.sourceSeparated, List.map_flatMap, List.map_cons,
    List.map_nil, gets, sets]

theorem accessorsTypes (e : Entity) : types (accessorsOutline e) =
    (storedFields e).flatMap fun f => [f.javaType, f.javaType] := by
  unfold accessorsOutline
  rw [Outline.typesSeparated, List.flatMap_assoc]
  rfl

/- The whole file -/

def shownTypes (e : Entity) : List String := types (fieldsOutline e ++ methodsOutline e ++ accessorsOutline e)

theorem memShown {e : Entity} {type : String} : type ∈ shownTypes e ↔
    (∃ f ∈ storedFields e, f.javaType = type) ∨ ∃ m ∈ e.methods, JavaType.ofName m.returnType = type ∨
      ∃ p ∈ m.parameters, ∃ name, p.declaredType = some name ∧ JavaType.ofName name = type := by
  have stored : type ∈ types (accessorsOutline e) ↔ type ∈ types (fieldsOutline e) := by
    rw [accessorsTypes, fieldsTypes]
    simp [eq_comm]
  have shown : type ∈ shownTypes e ↔ type ∈ types (fieldsOutline e) ∨ type ∈ types (methodsOutline e) := by
    rw [shownTypes, Outline.typesAppend, Outline.typesAppend, List.mem_append, List.mem_append, stored]
    exact ⟨fun | .inl either => either | .inr again => .inl again, .inl⟩
  rw [shown, fieldsTypes, methodsTypes]
  simp [parameterTypes, eq_comm]

end ClassScaffold.Layer.Model
