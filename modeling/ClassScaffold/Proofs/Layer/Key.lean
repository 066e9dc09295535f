import ClassScaffold.Proofs.Layer.Model
/-! The key of an entity. One stored field is marked with it, the first that is named as the key, and all other
layers name the type of that field. -/
namespace ClassScaffold.Layer
open Java (bindings template)
open Model (StoredField declaration fields storedAs storedFields storedOf)

/- Lines of the other layers -/

def keyLines (e : Entity) (type : String) : Layer → List (List String)
  | .model => []
  | .repository => [
    ["public interface ", e.layerType .repository, " extends JpaRepository<", e.layerType .model, ", ", type, "> \x7b"]]
  | .service => [
    ["    public Optional<", e.layerType .model, "> findById(", type, " id) \x7b"],
    ["    public void deleteById(", type, " id) \x7b"]]
  | .controller => [
    ["    public ResponseEntity<", e.layerType .model, "> get", e.naming.typeName, "ById(@PathVariable ", type,
      " id) \x7b"],
    ["    public ResponseEntity<", e.layerType .model, "> update", e.naming.typeName, "(@PathVariable ", type,
      " id, @RequestBody ", e.layerType .model, " ", e.naming.group, ") \x7b"],
    ["    public ResponseEntity<?> delete", e.naming.typeName, "(@PathVariable ", type, " id) \x7b"]]

theorem keyFilled (e : Entity) (l : Layer) :
    (linesWith ["key_type"] l).map (List.map (Piece.fill (bindings e l))) = keyLines e e.key.javaType l := by
  cases l <;> cbv

/- Lines of the field block -/

theorem intercalateWithin {separator : String} {lines : List String} (some : lines ≠ []) (before after : List String) :
    separator.intercalate (before ++ separator.intercalate lines :: after) =
      separator.intercalate (before ++ (lines ++ after)) := by
  have tail : separator.intercalate (separator.intercalate lines :: after) = separator.intercalate (lines ++ after) := by
    by_cases last : after = []
    · simp [last]
    · rw [String.intercalate_cons_of_ne_nil last, String.intercalate_append_of_ne_nil some last]
  by_cases first : before = []
  · simpa [first] using tail
  · rw [String.intercalate_append_of_ne_nil first (by simp), tail,
      String.intercalate_append_of_ne_nil first (by simp [some])]

def annotations (type : String) : List String :=
  "    @Id" :: if type = "Long" ∨ type = "Integer" then ["    @GeneratedValue(strategy = GenerationType.IDENTITY)"] else []

def fieldLines (before : List StoredField) (key : StoredField) (after : List StoredField) : List String :=
  before.map declaration ++ (annotations key.javaType ++ declaration key :: after.map declaration)

variable {e : Entity} {before after : List StoredField} {key : StoredField}

theorem marksLines (k : Key) (line : String) :
    Model.keyMarks k ++ line = "\n".intercalate (annotations k.javaType ++ [line]) := by
  by_cases numbered : k.javaType = "Long" ∨ k.javaType = "Integer"
  · have generated : k.isGenerated = true := by simpa [Key.isGenerated] using numbered
    have first : "    @Id\n" = "    @Id" ++ "\n" := by decide
    have second : "    @GeneratedValue(strategy = GenerationType.IDENTITY)\n" =
      "    @GeneratedValue(strategy = GenerationType.IDENTITY)" ++ "\n" := by decide
    simp only [Model.keyMarks, annotations, if_pos numbered, if_pos generated, first, second, List.cons_append,
      List.nil_append, String.intercalate_cons_cons, String.intercalate_singleton, String.append_assoc]
  · have generated : ¬ k.isGenerated = true := by simpa [Key.isGenerated] using numbered
    have first : "    @Id\n" = "    @Id" ++ "\n" := by decide
    simp only [Model.keyMarks, annotations, if_neg numbered, if_neg generated, first, List.cons_append, List.nil_append,
      String.intercalate_cons_cons, String.intercalate_singleton, String.append_empty]

theorem fieldsLines (stored : storedFields e = before ++ key :: after) (named : key.identifier = "id")
    (first : ∀ f ∈ before, f.identifier ≠ "id") (type : key.javaType = e.key.javaType) :
    fields e = "\n".intercalate (fieldLines before key after) := by
  rw [fields, Model.lineSeparated, stored, Model.declarationsFirst named first, marksLines, ← type,
    intercalateWithin (by simp), fieldLines, List.append_assoc, List.singleton_append]

theorem markedOnce : (fieldLines before key after).count "    @Id" = 1 := by
  have other (f : StoredField) : declaration f ≠ "    @Id" := by
    intro same
    have start := congrArg (fun s => s.toList[4]?) same
    simp [declaration] at start
  have none (fs : List StoredField) : (fs.map declaration).count "    @Id" = 0 := by
    refine List.count_eq_zero.2 fun member => ?_
    obtain ⟨f, _, same⟩ := List.mem_map.1 member
    exact other f same
  have marks : (annotations key.javaType).count "    @Id" = 1 := by
    unfold annotations
    split <;> decide
  rw [fieldLines, List.count_append, List.count_append, List.count_cons_of_ne (other key), none, none, marks]

/-- The lines of the block are what was put into it, unless a name or a type goes over several lines itself. -/
theorem fieldLinesCut (block : fields e = "\n".intercalate (fieldLines before key after))
    (unbroken : ∀ f ∈ before ++ key :: after, '\n' ∉ f.identifier.toList ∧ '\n' ∉ f.javaType.toList) :
    Text.splitAt '\n' (fields e).toList = (fieldLines before key after).map String.toList := by
  have plain {f : StoredField} (member : f ∈ before ++ key :: after) : '\n' ∉ (declaration f).toList := by
    obtain ⟨name, type⟩ := unbroken f member
    simp [declaration, name, type]
  have marks : ∀ line ∈ annotations key.javaType, '\n' ∉ line.toList := by
    unfold annotations
    split <;> decide
  rw [block, String.toList_intercalate]
  refine Text.splitAtIntercalate (by simp [fieldLines]) fun part inside => ?_
  obtain ⟨line, member, rfl⟩ := List.mem_map.1 inside
  simp only [fieldLines, List.mem_append, List.mem_cons, List.mem_map] at member
  obtain ⟨f, here, rfl⟩ | mark | rfl | ⟨f, here, rfl⟩ := member
  · exact plain (List.mem_append_left _ here)
  · exact marks line mark
  · exact plain (by simp)
  · exact plain (by simp [here])

/- The key of a class -/

structure IsKeyed (c : ClassModel) (e : Entity) (before : List StoredField) (key : StoredField)
    (after : List StoredField) : Prop where
  added : storedFields e =
    if ∃ token ∈ c.attributes, (Field.ofToken token).identifier = "id" then c.attributes.map storedAs
    else ⟨"id", "Long"⟩ :: c.attributes.map storedAs
  stored : storedFields e = before ++ key :: after
  named : key.identifier = "id"
  first : ∀ f ∈ before, f.identifier ≠ "id"
  file : Layer.text .model e =
    Model.file e (Model.imports e) (fields e) (Model.methods e) (Model.accessors e)
  block : fields e = "\n".intercalate (fieldLines before key after)
  marked : (fieldLines before key after).count "    @Id" = 1
  unbroken : (∀ f ∈ storedFields e, '\n' ∉ f.identifier.toList ∧ '\n' ∉ f.javaType.toList) →
    Text.splitAt '\n' (fields e).toList = (fieldLines before key after).map String.toList
  lines : ∀ l : Layer, l.text e = "\n".intercalate (((template l).cut '\n').map (·.fill (bindings e l)))
  layers : ∀ l, (linesWith ["key_type"] l).map (·.fill (bindings e l)) = (keyLines e key.javaType l).map String.join

theorem keyMarked (c : ClassModel) (n : Naming) (package : String) :
    ∃ before key after, IsKeyed c (Entity.ofClass c n package) before key after := by
  obtain ⟨before, key, after, stored, named, type, first⟩ := Model.keyStored (Entity.ofClass c n package)
  have block := fieldsLines stored named first type
  refine ⟨before, key, after, ?_, stored, named, first, Model.modelText _, block, markedOnce,
    fun unbroken => fieldLinesCut block (stored ▸ unbroken), fun l => ?_, fun l => ?_⟩
  · rw [Model.storedFieldsOf, storedOf]
    split <;> rfl
  · rw [layerText, Template.cutFill '\n']
    rfl
  · have filled := congrArg (List.map String.join) (keyFilled (Entity.ofClass c n package) l)
    rw [List.map_map] at filled
    rwa [type]

theorem keyMarkedRepeated :
    let e := Entity.ofClass ⟨[], ["- ID:string", "- id : INT", "- id:date"], []⟩ ⟨"Order", "order"⟩ "p"
    (∀ f ∈ storedFields e, '\n' ∉ f.identifier.toList ∧ '\n' ∉ f.javaType.toList) ∧
      (Text.splitAt '\n' (fields e).toList).count "    @Id".toList = 1 := by
  intro e
  have plain : ∀ f ∈ storedFields e, '\n' ∉ f.identifier.toList ∧ '\n' ∉ f.javaType.toList := by decide +kernel
  obtain ⟨before, key, after, keyed⟩ :=
    keyMarked ⟨[], ["- ID:string", "- id : INT", "- id:date"], []⟩ ⟨"Order", "order"⟩ "p"
  refine ⟨plain, ?_⟩
  rw [keyed.unbroken plain, List.count_map_of_injective _ _ fun _ _ => String.toList_inj.1]
  exact keyed.marked

end ClassScaffold.Layer
