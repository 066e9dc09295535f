import ClassScaffold.Proofs.Layer.Agree
import ClassScaffold.Proofs.Member.Entry
/-! The entity type of a class, block by block. Fields, stubs and accessors are written from the tokens of the class
one by one and in their order; a method token without a name is the only one that leaves nothing. -/
namespace ClassScaffold.Layer.Model

/- The file around its blocks -/

def file (e : Entity) (imports fields methods accessors : String) : String :=
  "package " ++ e.package ++ "." ++ e.naming.group ++ ".model;\n\n" ++ imports ++ "\n@Entity\n@Table(name = \"" ++
    e.naming.group ++ "\")\npublic class " ++ e.layerType .model ++ " \x7b\n\n" ++ fields ++ "\n\n" ++ methods ++
    "    // Getters and Setters\n\n" ++ accessors ++ "\n\x7d\n"

theorem modelText (e : Entity) : text e = file e (imports e) (fields e) (methods e) (accessors e) := by
  have filled : template.map (Piece.fill (bindings e)) = ["package ", e.basePackage, ".model;\n\n", imports e, "\n",
      "@Entity\n", "@Table(name = \"", e.naming.group, "\")\n", "public class ", e.layerType .model, " \x7b\n\n",
      fields e, "\n\n", methods e, "    // Getters and Setters\n\n", accessors e, "\n", "\x7d\n"] := by cbv
  have table : "\n@Entity\n@Table(name = \"" = "\n" ++ ("@Entity\n" ++ "@Table(name = \"") := by decide
  have type : "\")\npublic class " = "\")\n" ++ "public class " := by decide
  have ending : "\n\x7d\n" = "\n" ++ "\x7d\n" := by decide
  unfold text Template.fill file
  rw [filled]
  simp only [String.join_cons, String.join_nil, String.append_assoc, String.append_empty, table, type, ending,
    Entity.basePackage]

/- Stored fields -/

def storedAs (token : String) : StoredField :=
  ⟨(Field.ofToken token).identifier, JavaType.ofName (Field.ofToken token).declaredType⟩

/-- What a class stores: its attributes, behind a key of its own when none of them is named as the key. -/
def storedOf (attributes : List String) : List StoredField :=
  (if ∃ token ∈ attributes, (Field.ofToken token).identifier = "id" then [] else [⟨"id", "Long"⟩]) ++
    attributes.map storedAs

theorem addedType {e : Entity} (added : e.key.declared = false) : e.key.javaType = "Long" := by
  revert added
  unfold Entity.key
  split <;> simp [defaultKeyType]

theorem storedFieldsOf (c : ClassModel) (n : Naming) (package : String) :
    storedFields (Entity.ofClass c n package) = storedOf c.attributes := by
  have declared : (Entity.ofClass c n package).key.declared = true ↔
      ∃ token ∈ c.attributes, (Field.ofToken token).identifier = "id" := by
    unfold Entity.key
    split
    · next field found =>
      obtain ⟨token, member, same⟩ := List.mem_map.1 (List.mem_of_find?_eq_some found)
      have named := List.find?_some found
      exact ⟨fun _ => ⟨token, member, by rw [same]; simpa [keyField] using named⟩, fun _ => rfl⟩
    · next none =>
      have unnamed := List.find?_eq_none.1 none
      simpa [Entity.ofClass, keyField] using unnamed
  have fields : (Entity.ofClass c n package).fields.map (fun f => StoredField.mk f.identifier f.javaType) =
      c.attributes.map storedAs := List.map_map
  rw [storedFields, storedOf, fields]
  congr 1
  by_cases some : ∃ token ∈ c.attributes, (Field.ofToken token).identifier = "id"
  · rw [if_pos some, if_pos (declared.2 some)]
  · have missing := mt declared.1 some
    rw [if_neg some, if_neg missing, addedType (by simpa using missing)]
    rfl

/-- The key stands first among the fields that are named as it is. -/
theorem keyStored (e : Entity) : ∃ before key after, storedFields e = before ++ key :: after ∧
    key.identifier = "id" ∧ key.javaType = e.key.javaType ∧ ∀ f ∈ before, f.identifier ≠ "id" := by
  unfold storedFields Entity.key
  cases found : e.fields.find? (·.identifier == keyField) with
  | none => exact ⟨[], ⟨keyField, defaultKeyType⟩, _, rfl, rfl, rfl, by simp⟩
  | some field =>
    obtain ⟨named, before, after, whole, first⟩ := List.find?_eq_some_iff_append.1 found
    refine ⟨before.map fun f => ⟨f.identifier, f.javaType⟩, ⟨field.identifier, field.javaType⟩,
      after.map fun f => ⟨f.identifier, f.javaType⟩, by simp [whole], by simpa [keyField] using named, rfl, ?_⟩
    simpa [keyField] using first

theorem declarationsFirst {marks : String} {key : StoredField} {before : List StoredField} (named : key.identifier = "id")
    (first : ∀ f ∈ before, f.identifier ≠ "id") (after : List StoredField) :
    declarations marks (before ++ key :: after) =
      before.map declaration ++ (marks ++ declaration key) :: after.map declaration := by
  induction before with
  | nil => simp [declarations, keyField, named]
  | cons f rest ih =>
    have other := first f List.mem_cons_self
    have tail := ih fun g member => first g (List.mem_cons_of_mem _ member)
    simp [declarations, keyField, other, tail]

/- Blocks -/

inductive ShowsField (f : StoredField) : String → Prop
  | plain : ShowsField f ("    private " ++ f.javaType ++ " " ++ f.identifier ++ ";")
  | key (named : f.identifier = "id") {generated} (mark : generated = "" ∨
      generated = "    @GeneratedValue(strategy = GenerationType.IDENTITY)\n") :
    ShowsField f ("    @Id\n" ++ generated ++ "    private " ++ f.javaType ++ " " ++ f.identifier ++ ";")

inductive ShowsParameter : Parameter → String → Prop
  | typed {name type} :
    ShowsParameter ⟨name, some type⟩ (JavaType.ofName (Text.trimmed type) ++ " " ++ Text.trimmed name)
  | bare {name} : ShowsParameter ⟨name, none⟩ (Text.trimmed name)

/-- The list of parameters is shown entry by entry, less the blank ones. -/
inductive ShowsMethod (m : Method) : String → Prop
  | stub {entries pieces shown} (list : m.parameterList = ",".intercalate pieces)
    (spread : Parameter.IsSpread entries pieces) (writable : ∀ p ∈ entries, Parameter.IsWritable p)
    (each : List.Forall₂ ShowsParameter entries shown) :
    ShowsMethod m ("    public " ++ JavaType.ofName m.returnType ++ " " ++ m.identifier ++ "(" ++
      ", ".intercalate shown ++ ") \x7b\n        // TODO: implement " ++ m.identifier ++ "\n    \x7d")

inductive ShowsMethods : List String → List String → Prop
  | nil : ShowsMethods [] []
  | dropped {token tokens stubs} (read : Method.ofToken token = none) (rest : ShowsMethods tokens stubs) :
    ShowsMethods (token :: tokens) stubs
  | kept {token m stub tokens stubs} (read : Method.ofToken token = some m) (shows : ShowsMethod m stub)
    (rest : ShowsMethods tokens stubs) : ShowsMethods (token :: tokens) (stub :: stubs)

/-- The name with its first character in upper case, which can be more than one. -/
inductive IsRaised : String → String → Prop
  | nothing : IsRaised "" ""
  | first {c rest} : IsRaised (String.ofList (c :: rest)) (String.ofList (Text.upper c ++ rest))

inductive ShowsAccessors (f : StoredField) : String × String → Prop
  | both {raised} (name : IsRaised f.identifier raised) : ShowsAccessors f
    ("    public " ++ f.javaType ++ " get" ++ raised ++ "() \x7b\n        return " ++ f.identifier ++ ";\n    \x7d",
      "    public void set" ++ raised ++ "(" ++ f.javaType ++ " " ++ f.identifier ++ ") \x7b\n        this." ++
        f.identifier ++ " = " ++ f.identifier ++ ";\n    \x7d")

theorem fieldsShown (e : Entity) : ∃ lines, fields e = "\n".intercalate lines ∧
    List.Forall₂ ShowsField (storedFields e) lines := by
  obtain ⟨before, key, after, whole, named, _, first⟩ := keyStored e
  have plain (fs : List StoredField) : List.Forall₂ ShowsField fs (fs.map declaration) :=
    List.forall₂_map_right_iff.2 (List.forall₂_same.2 fun f _ => .plain)
  refine ⟨_, by rw [fields, lineSeparated, whole, declarationsFirst named first], ?_⟩
  rw [whole]
  refine List.rel_append (plain before) (.cons ?_ (plain after))
  have mark : (if e.key.isGenerated then "    @GeneratedValue(strategy = GenerationType.IDENTITY)\n" else "") = "" ∨
      (if e.key.isGenerated then "    @GeneratedValue(strategy = GenerationType.IDENTITY)\n" else "") =
        "    @GeneratedValue(strategy = GenerationType.IDENTITY)\n" := by
    split <;> simp
  have marked := ShowsField.key named mark
  simpa only [keyMarks, declaration, String.append_assoc] using marked

theorem parameterShown (p : Parameter) : ShowsParameter p (parameter p.trimmed) := by
  obtain ⟨name, type⟩ := p
  cases type with
  | none => exact .bare
  | some type => exact .typed

theorem stubShown (m : Method) : ShowsMethod m (stub m) := by
  obtain ⟨entries, pieces, list, spread, writable⟩ := Parameter.spreadSome m.parameterList
  have each : List.Forall₂ ShowsParameter entries (m.parameters.map parameter) := by
    rw [Method.parameters, list, Parameter.ofListSpread spread writable, List.map_map]
    exact List.forall₂_map_right_iff.2 (List.forall₂_same.2 fun p _ => parameterShown p)
  have marker : ") \x7b\n        // TODO: implement " = ") \x7b\n        " ++ (stubMarker ++ " ") := by decide
  have shows := ShowsMethod.stub list spread writable each
  unfold stub
  simp only [marker, String.append_assoc] at shows ⊢
  exact shows

theorem methodsShown (tokens : List String) : ShowsMethods tokens ((tokens.filterMap Method.ofToken).map stub) := by
  induction tokens with
  | nil => exact .nil
  | cons token rest ih =>
    cases read : Method.ofToken token with
    | none => simpa [read] using ShowsMethods.dropped read ih
    | some m => simpa [read] using ShowsMethods.kept read (stubShown m) ih

theorem accessorsShown (f : StoredField) : ShowsAccessors f (getter f, setter f) := by
  have raised : IsRaised f.identifier (Text.capitalized f.identifier) := by
    rw [← String.ofList_toList (s := f.identifier)]
    cases f.identifier.toList with
    | nil => exact .nothing
    | cons c rest => simpa [Text.capitalized, Text.capitalize] using @IsRaised.first c rest
  exact .both raised

/-- All that stands in the file of an entity, in the order of its tokens. -/
theorem modelShows (c : ClassModel) (n : Naming) (package : String) : ∃ lines stubs accessors,
    List.Forall₂ ShowsField (storedOf c.attributes) lines ∧
    ShowsMethods c.methods stubs ∧
    List.Forall₂ ShowsAccessors (storedOf c.attributes) accessors ∧
    Layer.text .model (Entity.ofClass c n package) = file (Entity.ofClass c n package)
      (imports (Entity.ofClass c n package)) ("\n".intercalate lines)
      (if stubs = [] then "" else "\n\n".intercalate stubs ++ "\n\n")
      ("\n\n".intercalate (accessors.flatMap fun pair => [pair.1, pair.2])) := by
  have stored := storedFieldsOf c n package
  obtain ⟨lines, block, each⟩ := fieldsShown (Entity.ofClass c n package)
  have stubs : methods (Entity.ofClass c n package) =
      if (c.methods.filterMap Method.ofToken).map stub = [] then "" else
        "\n\n".intercalate ((c.methods.filterMap Method.ofToken).map stub) ++ "\n\n" := by
    simp only [methods, paragraphs, Entity.ofClass, List.isEmpty_iff, List.map_eq_nil_iff]
  have pairs : accessors (Entity.ofClass c n package) = "\n\n".intercalate
      (((storedOf c.attributes).map fun f => (getter f, setter f)).flatMap fun pair => [pair.1, pair.2]) := by
    rw [accessors, stored, paragraphs, List.flatMap_map]
  refine ⟨lines, _, _, stored ▸ each, methodsShown c.methods,
    List.forall₂_map_right_iff.2 (List.forall₂_same.2 fun f _ => accessorsShown f), ?_⟩
  rw [← block, ← stubs, ← pairs]
  exact modelText _

end ClassScaffold.Layer.Model
