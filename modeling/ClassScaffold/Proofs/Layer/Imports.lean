import ClassScaffold.Proofs.Layer.Outline
import ClassScaffold.Proofs.Member.Report
/-! The imports of an entity against the types that its file shows, and against the type names that were written for
the class. -/
namespace ClassScaffold

/- Type names that bring an import -/

namespace JavaType

/-- Names of the table whose types have to be imported. -/
def importedNames : List (String × String) := [
  ("date", "java.time.LocalDate"), ("datetime", "java.time.LocalDateTime"), ("timestamp", "java.time.LocalDateTime"),
  ("time", "java.time.LocalTime"), ("decimal", "java.math.BigDecimal"), ("bigdecimal", "java.math.BigDecimal")]

def importedTypes : List (String × String) := [
  ("LocalDate", "java.time.LocalDate"), ("LocalDateTime", "java.time.LocalDateTime"),
  ("LocalTime", "java.time.LocalTime"), ("BigDecimal", "java.math.BigDecimal")]

/-- By a name of the table in any letter case, or by the type itself. -/
def Brings (name qualified : String) : Prop :=
  importedNames.lookup (Text.lowered (Text.trimmed name)) = some qualified ∨ importedTypes.lookup name = some qualified

theorem lookupAbsent {entries : List (String × String)} {key : String} (absent : key ∉ entries.map Prod.fst) :
    entries.lookup key = none := by
  refine List.lookup_eq_none_iff.2 fun entry inside => ?_
  simpa using fun same : key = entry.1 => absent (same ▸ List.mem_map_of_mem inside)

theorem importLookup (type : String) : import? type = importedTypes.lookup type := by
  by_cases member : type ∈ importedTypes.map Prod.fst
  · have each : ∀ type ∈ importedTypes.map Prod.fst, import? type = importedTypes.lookup type := by decide
    exact each type member
  · rw [lookupAbsent member]
    simp only [importedTypes, List.map_cons, List.map_nil, List.mem_cons, List.not_mem_nil, or_false, not_or] at member
    obtain ⟨date, dateTime, time, decimal⟩ := member
    simp [import?, date, dateTime, time, decimal]

theorem tableImport (key : String) : (table.lookup key).bind import? = importedNames.lookup key := by
  by_cases member : key ∈ table.map Prod.fst
  · have each : ∀ key ∈ table.map Prod.fst, (table.lookup key).bind import? = importedNames.lookup key := by decide
    exact each key member
  · have within : ∀ key ∈ importedNames.map Prod.fst, key ∈ table.map Prod.fst := by decide
    rw [lookupAbsent member, lookupAbsent fun inside => member (within key inside)]
    rfl

theorem bringsIff {name qualified : String} : import? (ofName name) = some qualified ↔ Brings name qualified := by
  by_cases direct : name ∈ importedTypes.map Prod.fst
  · -- a type that is written as it is may stand in the table as well, for itself
    have each : ∀ name ∈ importedTypes.map Prod.fst, ofName name = name ∧
        (importedNames.lookup (key name) = none ∨ importedNames.lookup (key name) = importedTypes.lookup name) := by
      decide +kernel
    obtain ⟨kept, either⟩ := each name direct
    rw [kept, importLookup]
    refine ⟨.inr, fun brings => brings.elim (fun named => ?_) id⟩
    rcases either with none | same
    · exact absurd (none.symm.trans named) (by simp)
    · exact same ▸ named
  · have other : importedTypes.lookup name = none := lookupAbsent direct
    have brings : Brings name qualified ↔ (table.lookup (key name)).bind import? = some qualified := by
      rw [Brings, other, tableImport]
      simp [key]
    rw [brings, ofName]
    split
    · next blank =>
      have empty : key name = "" := blankKey.2 (blankIff.1 blank)
      have neither : import? defaultType = none ∧ (table.lookup "").bind import? = none := by decide
      rw [empty, neither.1, neither.2]
    · unfold listed?
      cases table.lookup (key name) with
      | none => simp [importLookup, other]
      | some type => rfl

theorem bringsFilled {name qualified : String} (brings : Brings name qualified) : ¬ Text.AllBlank name.toList := by
  intro blank
  have imported := bringsIff.2 brings
  rw [ofName, if_pos (blankIff.2 blank)] at imported
  contradiction

end JavaType

theorem Member.typeOrBrings {missing : Anomaly} {type : List Char} {qualified : String} :
    JavaType.import? (JavaType.ofName (typeOr missing (Text.trim type))) = some qualified ↔
      ¬ Text.AllBlank type ∧ JavaType.Brings (String.ofList (Text.trim type)) qualified := by
  by_cases blank : Text.AllBlank type
  · have none : JavaType.import? (JavaType.ofName missing.substitute) = none := by cases missing <;> decide +kernel
    rw [typeOrBlank blank, none]
    simp [blank]
  · rw [typeOrFilled blank, JavaType.bringsIff]
    simp [blank]

namespace Layer.Model

/- Sorted imports -/

theorem memInsertOnce {x s : String} {names : List String} : x ∈ insertOnce s names ↔ x = s ∨ x ∈ names := by
  induction names with
  | nil => simp [insertOnce]
  | cons y rest ih =>
    simp only [insertOnce]
    split
    · simp
    · split
      · next same => simp [same]
      · simp only [List.mem_cons, ih, or_left_comm]

theorem insertOnceIncreasing {s : String} {names : List String} (increasing : names.Pairwise (· < ·)) :
    (insertOnce s names).Pairwise (· < ·) := by
  induction names with
  | nil => simp [insertOnce]
  | cons y rest ih =>
    obtain ⟨first, tail⟩ := List.pairwise_cons.1 increasing
    simp only [insertOnce]
    split
    · next less =>
      refine List.pairwise_cons.2 ⟨fun x member => ?_, increasing⟩
      rcases List.mem_cons.1 member with rfl | later
      · exact less
      · exact less.trans (first x later)
    · next notLess =>
      split
      · exact increasing
      · next other =>
        refine List.pairwise_cons.2 ⟨fun x member => ?_, ih tail⟩
        rcases memInsertOnce.1 member with rfl | later
        · exact lt_of_le_of_ne (not_lt.1 notLess) (Ne.symm other)
        · exact first x later

theorem neededIncreasing (e : Entity) : (neededImports e).Pairwise (· < ·) := by
  unfold neededImports
  induction (mentionedTypes e).filterMap JavaType.import? with
  | nil => exact .nil
  | cons name rest ih => exact insertOnceIncreasing ih

theorem memNeeded {e : Entity} {qualified : String} :
    qualified ∈ neededImports e ↔ ∃ type ∈ mentionedTypes e, JavaType.import? type = some qualified := by
  rw [← List.mem_filterMap, neededImports]
  induction (mentionedTypes e).filterMap JavaType.import? with
  | nil => rfl
  | cons name rest ih => rw [List.foldr_cons, memInsertOnce, ih, List.mem_cons]

end Layer.Model

/- Types of a class -/

/-- The types of what is stored for a class, of what its methods return, and of their typed parameters. -/
inductive ClassModel.Mentions (c : ClassModel) : String → Prop
  | stored {f} (member : f ∈ Layer.Model.storedOf c.attributes) : Mentions c f.javaType
  | returned {token m} (member : token ∈ c.methods) (read : Method.ofToken token = some m) :
    Mentions c (JavaType.ofName m.returnType)
  | parameter {token m p name} (member : token ∈ c.methods) (read : Method.ofToken token = some m)
    (listed : p ∈ m.parameters) (typed : p.declaredType = some name) : Mentions c (JavaType.ofName name)

namespace Layer.Model

variable (c : ClassModel) (n : Naming) (package : String)

theorem memMethods {m : Method} :
    m ∈ (Entity.ofClass c n package).methods ↔ ∃ token ∈ c.methods, Method.ofToken token = some m := List.mem_filterMap

theorem shownMentioned {type : String} : type ∈ shownTypes (Entity.ofClass c n package) ↔ c.Mentions type := by
  rw [memShown, storedFieldsOf]
  constructor
  · rintro (⟨f, member, rfl⟩ | ⟨m, kept, shown⟩)
    · exact .stored member
    · obtain ⟨token, member, read⟩ := (memMethods c n package).1 kept
      obtain rfl | ⟨p, listed, name, typed, rfl⟩ := shown
      · exact .returned member read
      · exact .parameter member read listed typed
  · intro mentions
    cases mentions with
    | stored member => exact .inl ⟨_, member, rfl⟩
    | returned member read => exact .inr ⟨_, (memMethods c n package).2 ⟨_, member, read⟩, .inl rfl⟩
    | parameter member read listed typed =>
      exact .inr ⟨_, (memMethods c n package).2 ⟨_, member, read⟩, .inr ⟨_, listed, _, typed, rfl⟩⟩

theorem memMentioned {e : Entity} {type : String} : type ∈ mentionedTypes e ↔
    (∃ f ∈ e.fields, f.javaType = type) ∨ ∃ m ∈ e.methods, JavaType.ofName m.returnType = type ∨
      ∃ p ∈ m.parameters, ∃ name, p.declaredType = some name ∧ JavaType.ofName name = type := by
  simp [mentionedTypes, parameterTypes, eq_comm]

theorem neededShown (e : Entity) (qualified : String) :
    qualified ∈ neededImports e ↔ ∃ type ∈ shownTypes e, JavaType.import? type = some qualified := by
  rw [memNeeded]
  refine exists_congr fun type => and_congr_left fun imported => ?_
  rw [memMentioned, memShown]
  refine or_congr_left ⟨?_, ?_⟩
  · rintro ⟨f, member, rfl⟩
    have stored : StoredField.mk f.identifier f.javaType ∈ storedFields e := by
      unfold storedFields
      exact List.mem_append_right _ (List.mem_map.2 ⟨f, member, rfl⟩)
    exact ⟨_, stored, by dsimp only⟩
  · rintro ⟨f, member, rfl⟩
    unfold storedFields at member
    rcases List.mem_append.1 member with key | field
    · -- a key that was added is of a type that needs no import
      split at key
      · contradiction
      · next undeclared =>
        obtain rfl := List.mem_singleton.1 key
        rw [addedType (by simpa using undeclared)] at imported
        contradiction
    · obtain ⟨g, inside, rfl⟩ := List.mem_map.1 field
      exact ⟨g, inside, by dsimp only⟩

theorem neededWritten (qualified : String) : qualified ∈ neededImports (Entity.ofClass c n package) ↔
    ∃ name, c.Writes name ∧ JavaType.Brings name qualified := by
  rw [memNeeded]
  constructor
  · rintro ⟨type, mentioned, imported⟩
    rcases memMentioned.1 mentioned with ⟨f, member, rfl⟩ | ⟨m, kept, shown⟩
    · obtain ⟨token, inside, rfl⟩ := List.mem_map.1 member
      obtain ⟨type, behind⟩ := Member.behindSome (Member.body token)
      rw [Field.javaType, Field.declaredBehind behind, Member.typeOrBrings] at imported
      exact ⟨_, .field inside behind imported.1, imported.2⟩
    · obtain ⟨token, inside, read⟩ := (memMethods c n package).1 kept
      obtain rfl | ⟨p, listed, name, typed, rfl⟩ := shown
      · obtain ⟨type, returns⟩ := Method.returnsSome (Member.body token)
        rw [Method.returnTypeRead read returns, Member.typeOrBrings] at imported
        exact ⟨_, .method inside read (.returned returns imported.1), imported.2⟩
      · have brings := JavaType.bringsIff.1 imported
        exact ⟨name, .method inside read (.parameter listed typed (JavaType.bringsFilled brings)), brings⟩
  · rintro ⟨name, writes, brings⟩
    have imported := JavaType.bringsIff.2 brings
    refine ⟨_, memMentioned.2 ?_, imported⟩
    cases writes with
    | @field token type member behind filled =>
      refine .inl ⟨_, List.mem_map_of_mem member, ?_⟩
      rw [Field.javaType, Field.declaredBehind behind, Member.typeOrFilled filled]
    | method member read writes =>
      refine .inr ⟨_, (memMethods c n package).2 ⟨_, member, read⟩, ?_⟩
      cases writes with
      | returned returns filled => exact .inl (by rw [Method.returnTypeRead read returns, Member.typeOrFilled filled])
      | parameter listed typed _ => exact .inr ⟨_, listed, _, typed, rfl⟩

theorem importsText (e : Entity) : imports e = "import javax.persistence.*;\n" ++
    if neededImports e = [] then "" else
      "\n" ++ String.join ((neededImports e).map fun qualified => "import " ++ qualified ++ ";\n") := by
  have first : Entity.importLine "javax.persistence.*" = "import javax.persistence.*;\n" := by decide
  rw [imports, first]
  simp only [List.isEmpty_iff]
  rfl

structure ImportsFit (e : Entity) (extra : List String) : Prop where
  file : Layer.text .model e = file e
    ("import javax.persistence.*;\n" ++
      if extra = [] then "" else "\n" ++ String.join (extra.map fun qualified => "import " ++ qualified ++ ";\n"))
    (Outline.source (fieldsOutline e)) (Outline.source (methodsOutline e)) (Outline.source (accessorsOutline e))
  increasing : extra.Pairwise (· < ·)
  shown : ∀ qualified, qualified ∈ extra ↔ ∃ type ∈ shownTypes e, JavaType.import? type = some qualified
  mentioned : ∀ type, type ∈ shownTypes e ↔ c.Mentions type
  written : ∀ qualified, qualified ∈ extra ↔ ∃ name, c.Writes name ∧ JavaType.Brings name qualified

theorem importsFit : ∃ extra, ImportsFit c (Entity.ofClass c n package) extra := by
  refine ⟨neededImports (Entity.ofClass c n package), ?_, neededIncreasing _, neededShown _,
    fun type => shownMentioned c n package, neededWritten c n package⟩
  rw [fieldsSource, methodsSource, accessorsSource, ← importsText]
  exact modelText _

end Layer.Model
end ClassScaffold
