import ClassScaffold.JavaType
import ClassScaffold.Proofs.Text.Casing
import ClassScaffold.Proofs.Text.Padded
/-! Type names against the table. A name is listed, blank, or kept as it is written, and the spelling of a name that is
not kept does not matter. A type of the table is listed for itself or not at all, so what a name was mapped to is mapped
to itself. -/
namespace ClassScaffold.JavaType
open Text (AllBlank lowered trimmed)

variable {name other : String}

theorem blankIff : isBlank name = true ↔ AllBlank name.toList := by
  simp [isBlank, trimmed, Text.trimNothing]

theorem unknownIff : isKnown name = false ↔ ¬ AllBlank name.toList ∧ listed? name = none := by
  rw [← blankIff]
  simp [isKnown]

theorem unlistedKept (filled : ¬ AllBlank name.toList) (unlisted : listed? name = none) : ofName name = name := by
  rw [← blankIff] at filled
  simp [ofName, filled, unlisted]

/- Names of the table -/

/-- No name stands in the table twice. -/
theorem tableFinds {key type : String} : table.lookup key = some type ↔ (key, type) ∈ table := by
  have each : ∀ entry ∈ table, table.lookup entry.1 = some entry.2 := by decide
  exact ⟨Text.lookupMember, each (key, type)⟩

theorem listedIff {type : String} : listed? name = some type ↔ (lowered (trimmed name), type) ∈ table := by
  rw [listed?, key, tableFinds]

theorem unlistedIff : listed? name = none ↔ ∀ type, (lowered (trimmed name), type) ∉ table := by
  rw [Option.eq_none_iff_forall_ne_some]
  exact forall_congr' fun type => not_congr listedIff

theorem blankKey : lowered (trimmed name) = "" ↔ AllBlank name.toList := by
  rw [← Text.trimNothing, ← String.toList_inj, Text.toListLowered, Text.toListTrimmed, String.toList_empty]
  constructor
  · -- no character has an empty image
    contrapose!
    exact Text.lowerAfterNonempty
  · intro nothing
    rw [nothing]
    rfl

theorem listedFilled {type : String} (entry : (lowered (trimmed name), type) ∈ table) : ¬ AllBlank name.toList := by
  intro blank
  rw [blankKey.2 blank] at entry
  have absent : "" ∉ table.map Prod.fst := by decide
  exact absent (List.mem_map_of_mem entry)

/- What a name is mapped to -/

/-- The type that stands for a name, and whether the name is known. -/
inductive Denotes (name : String) : String → Bool → Prop
  | listed {type} (entry : (lowered (trimmed name), type) ∈ table) : Denotes name type true
  | blank (blank : AllBlank name.toList) : Denotes name "String" true
  | other (filled : ¬ AllBlank name.toList) (absent : ∀ type, (lowered (trimmed name), type) ∉ table) :
    Denotes name name false

variable {type : String} {known : Bool}

theorem denotesMapped (denotes : Denotes name type known) :
    ofName name = type ∧ isKnown name = known := by
  cases denotes with
  | listed entry =>
    have filled : ¬ isBlank name = true := blankIff.not.2 (listedFilled entry)
    have found := listedIff.2 entry
    exact ⟨by simp [ofName, filled, found], by simp [isKnown, found]⟩
  | blank blank =>
    have blank := blankIff.2 blank
    exact ⟨by simp [ofName, blank, defaultType], by simp [isKnown, blank]⟩
  | other filled absent =>
    have unlisted := unlistedIff.2 absent
    exact ⟨unlistedKept filled unlisted, unknownIff.2 ⟨filled, unlisted⟩⟩

theorem mappedDenotes (name : String) : Denotes name (ofName name) (isKnown name) := by
  have some : ∃ type known, Denotes name type known := by
    by_cases blank : AllBlank name.toList
    · exact ⟨_, _, .blank blank⟩
    · cases found : listed? name with
      | none => exact ⟨_, _, .other blank (unlistedIff.1 found)⟩
      | some type => exact ⟨_, _, .listed (listedIff.1 found)⟩
  obtain ⟨type, known, denotes⟩ := some
  obtain ⟨rfl, rfl⟩ := denotesMapped denotes
  exact denotes

theorem denotesIff : Denotes name type known ↔ ofName name = type ∧ isKnown name = known := by
  refine ⟨denotesMapped, ?_⟩
  rintro ⟨rfl, rfl⟩
  exact mappedDenotes name

theorem denotesAlike (same : lowered (trimmed other) = lowered (trimmed name)) (denotes : Denotes name type true) :
    Denotes other type true := by
  cases denotes with
  | listed entry =>
    rw [← same] at entry
    exact .listed entry
  | blank blank => exact .blank (blankKey.1 (same.trans (blankKey.2 blank)))

theorem mappedAlike (same : lowered (trimmed other) = lowered (trimmed name)) (known : isKnown name = true) :
    isKnown other = true ∧ ofName other = ofName name := by
  obtain ⟨mapped, alsoKnown⟩ := denotesMapped (denotesAlike same (known ▸ mappedDenotes name))
  exact ⟨alsoKnown, mapped⟩

/- Types of the table -/

theorem mappedCases (name : String) : ofName name = name ∨ ofName name ∈ table.map Prod.snd := by
  have denotes := mappedDenotes name
  generalize ofName name = type, isKnown name = known at denotes
  cases denotes with
  | listed entry => exact .inr (List.mem_map_of_mem entry)
  | blank => exact .inr (by decide)
  | other => exact .inl rfl

theorem mappedAgain (name : String) : ofName (ofName name) = ofName name := by
  rcases mappedCases name with kept | listed
  · rw [kept, kept]
  · have each : ∀ type ∈ table.map Prod.snd, ofName type = type := by decide +kernel
    exact each _ listed

/-- What holds of a name and of every type of the table holds of the type that stands for the name. -/
theorem mappedKeeps {P : String → Prop} (types : ∀ type ∈ table.map Prod.snd, P type) (holds : P name) :
    P (ofName name) := by
  rcases mappedCases name with kept | listed
  · rwa [kept]
  · exact types _ listed

structure IsMapped (name : String) : Prop where
  stands : ∀ type known, Denotes name type known ↔ ofName name = type ∧ isKnown name = known
  alike : ∀ other, lowered (trimmed other) = lowered (trimmed name) → isKnown name = true →
    isKnown other = true ∧ ofName other = ofName name
  again : ofName (ofName name) = ofName name
  imported : import? (ofName (ofName name)) = import? (ofName name)

theorem nameMapped (name : String) : IsMapped name :=
  ⟨fun _ _ => denotesIff, fun _ => mappedAlike, mappedAgain name, congrArg import? (mappedAgain name)⟩

end ClassScaffold.JavaType
