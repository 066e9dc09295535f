import ClassScaffold.Proofs.Layer.Model
import ClassScaffold.Proofs.Text.Recase
/-! The names of the accessors. A class without an attribute that is named as the key gets a key of its own, and the
two are told apart by identifier; an accessor is named after the identifier in its raised form, in which more names
are the same. -/
namespace ClassScaffold

namespace Text
open Property (CaseRun)

/- The letters whose capital is an I, checked over the tables -/

theorem upperLongNotId : (Property.upperLong.all fun entry =>
    !(entry.2.map Char.ofNat).isPrefixOf ['I', 'd']) = true := by decide +kernel

theorem upperRunsToI : ((asciiRun :: Property.upperRuns).all fun r => (CaseRun.points r).all fun n =>
    (CaseRun.imageOf? r n).all fun m => Char.ofNat m != 'I' || n == 0x69 || n == 0x131) = true := by
  decide +kernel

theorem capitalizeId {s : List Char} :
    capitalize s = ['I', 'd'] ↔ s = ['i', 'd'] ∨ s = ['I', 'd'] ∨ s = ['ı', 'd'] := by
  constructor
  · intro raised
    cases s with
    | nil => contradiction
    | cons c rest =>
      rw [capitalize] at raised
      cases upperCases c with
      | @long ns member same =>
        have checked := List.all_eq_true.1 upperLongNotId _ member
        simp [← same, List.isPrefixOf_iff_prefix.2 ⟨rest, raised⟩] at checked
      | @run r n member image same =>
        rw [same, List.singleton_append] at raised
        obtain ⟨first, rfl⟩ := List.cons.inj raised
        have checked := List.all_eq_true.1 (List.all_eq_true.1 upperRunsToI r member) _ (memPoints image)
        simp only [image, Option.all_some, first, bne_self_eq_false, Bool.false_or, Bool.or_eq_true,
          beq_iff_eq] at checked
        rcases checked with small | dotless
        · exact .inl (by rw [← Char.ofNat_toNat c, small])
        · exact .inr (.inr (by rw [← Char.ofNat_toNat c, dotless]))
      | none same =>
        rw [same, List.singleton_append] at raised
        exact .inr (.inl raised)
  · rintro (rfl | rfl | rfl) <;> decide +kernel

end Text

namespace Layer.Model

def getterName (f : StoredField) : String := "get" ++ Text.capitalized f.identifier

def setterName (f : StoredField) : String := "set" ++ Text.capitalized f.identifier

def getterText (name : String) (f : StoredField) : String :=
  "    public " ++ f.javaType ++ " " ++ name ++ "() \x7b\n        return " ++ f.identifier ++ ";\n    \x7d"

def setterText (name : String) (f : StoredField) : String :=
  "    public void " ++ name ++ "(" ++ f.javaType ++ " " ++ f.identifier ++ ") \x7b\n        this." ++ f.identifier ++
    " = " ++ f.identifier ++ ";\n    \x7d"

theorem getterNamed (f : StoredField) : getter f = getterText (getterName f) f := by
  have start : " get" = " " ++ "get" := by decide
  unfold getter getterText getterName
  simp only [start, String.append_assoc]

theorem setterNamed (f : StoredField) : setter f = setterText (setterName f) f := by
  have start : "    public void set" = "    public void " ++ "set" := by decide
  unfold setter setterText setterName
  simp only [start, String.append_assoc]

def IsRaisedKey (identifier : String) : Prop := identifier = "id" ∨ identifier = "Id" ∨ identifier = "ıd"

theorem raisedKey {identifier : String} : Text.capitalized identifier = "Id" ↔ IsRaisedKey identifier := by
  have text (s : String) : identifier = s ↔ identifier.toList = s.toList := String.toList_inj.symm
  rw [← String.toList_inj, Text.toListCapitalized, IsRaisedKey, text, text, text]
  exact Text.capitalizeId

theorem getterOfKey {f : StoredField} : getterName f = "getId" ↔ IsRaisedKey f.identifier := by
  have key : "getId" = "get" ++ "Id" := by decide
  rw [← raisedKey, getterName, key, String.append_right_inj]

theorem setterOfKey {f : StoredField} : setterName f = "setId" ↔ IsRaisedKey f.identifier := by
  have key : "setId" = "set" ++ "Id" := by decide
  rw [← raisedKey, setterName, key, String.append_right_inj]

theorem accessorsDiffer (f g : StoredField) : getterName f ≠ setterName g := by
  intro same
  have first := congrArg (fun s : String => s.toList.head?) same
  simp [getterName, setterName] at first

def addedKey : StoredField := ⟨"id", "Long"⟩

/-- The accessors of a class that gets a key of its own, the key first. -/
structure AddsKey (c : ClassModel) (e : Entity) : Prop where
  stored : storedFields e = addedKey :: c.attributes.map storedAs
  written : accessors e = "\n\n".intercalate ((storedFields e).flatMap fun f =>
    [getterText (getterName f) f, setterText (setterName f) f])
  names : getterName addedKey = "getId" ∧ setterName addedKey = "setId"

theorem addsKey {c : ClassModel} (n : Naming) (package : String)
    (unnamed : ∀ token ∈ c.attributes, (Field.ofToken token).identifier ≠ "id") :
    AddsKey c (Entity.ofClass c n package) := by
  refine ⟨?_, ?_, getterOfKey.2 (.inl rfl), setterOfKey.2 (.inl rfl)⟩
  · have none : ¬ ∃ token ∈ c.attributes, (Field.ofToken token).identifier = "id" := fun ⟨token, member, named⟩ =>
      unnamed token member named
    rw [storedFieldsOf, storedOf, if_neg none]
    rfl
  · simp only [accessors, paragraphs, getterNamed, setterNamed]

/-- The key that is added has its accessors to itself, except where an attribute is named `Id`, with or without a dot
on its first letter: it counts as another identifier and is raised to the same name. -/
theorem addedKeyApart {c : ClassModel} (n : Naming) (package : String)
    (unnamed : ∀ token ∈ c.attributes, (Field.ofToken token).identifier ≠ "id") :
    AddsKey c (Entity.ofClass c n package) ∧ ∀ token ∈ c.attributes,
      (getterName (storedAs token) = getterName addedKey ↔ (Field.ofToken token).identifier ∈ ["Id", "ıd"]) ∧
      (setterName (storedAs token) = setterName addedKey ↔ (Field.ofToken token).identifier ∈ ["Id", "ıd"]) ∧
      getterName (storedAs token) ≠ setterName addedKey ∧ setterName (storedAs token) ≠ getterName addedKey := by
  have adds := addsKey n package unnamed
  refine ⟨adds, fun token member => ?_⟩
  have other : IsRaisedKey (storedAs token).identifier ↔ (Field.ofToken token).identifier ∈ ["Id", "ıd"] := by
    have different := unnamed token member
    simp [IsRaisedKey, storedAs, different]
  rw [adds.names.1, adds.names.2, getterOfKey, setterOfKey]
  exact ⟨other, other, adds.names.2 ▸ accessorsDiffer _ _, adds.names.1 ▸ (accessorsDiffer _ _).symm⟩

def raised : ClassModel := ⟨["order"], ["- Id:number", "- total:number"], []⟩

theorem raisedUnnamed : ∀ token ∈ raised.attributes, (Field.ofToken token).identifier ≠ "id" := by
  simp only [raised, List.forall_mem_cons]
  decide +kernel

theorem addedKeyApartRaised : (∀ token ∈ raised.attributes, (Field.ofToken token).identifier ≠ "id") ∧
    getterName (storedAs "- Id:number") = getterName addedKey ∧
    getterName (storedAs "- total:number") ≠ getterName addedKey := by
  obtain ⟨_, each⟩ := addedKeyApart ⟨"Order", "order"⟩ "p" raisedUnnamed
  refine ⟨raisedUnnamed, (each _ (by simp [raised])).1.2 (by decide +kernel), fun same => ?_⟩
  exact absurd ((each _ (by simp [raised])).1.1 same) (by decide +kernel)

/-- Both the key that is added and an attribute `Id` have a getter `getId` and a setter `setId`. -/
theorem addedKeyMeets : ¬ ∀ (c : ClassModel),
    (∀ token ∈ c.attributes, (Field.ofToken token).identifier ≠ "id") → ∀ token ∈ c.attributes,
      getterName (storedAs token) ≠ "getId" ∧ setterName (storedAs token) ≠ "setId" := by
  intro all
  exact (all raised raisedUnnamed "- Id:number" (by simp [raised])).1 (by decide +kernel)

end Layer.Model
end ClassScaffold
