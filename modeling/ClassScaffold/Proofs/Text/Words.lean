import ClassScaffold.Proofs.Text.Casing
import ClassScaffold.Text.Words
import Mathlib.Data.List.Basic
/-! What is left of a text when it is cut into words. Put together again, the words are the text without its
separators, so a text has no word exactly when it is made of separators, and then both of its spellings are
empty. -/
namespace ClassScaffold.Text

def separators : List Char := ['_', '-', ' ']

def HasWord (s : List Char) : Prop := ∃ c ∈ s, c ∉ separators
instance (s) : Decidable (HasWord s) := List.decidableBEx (· ∉ separators) s

theorem separatorShape {g : List Char} : isSeparator g = true ↔ ∃ c ∈ separators, g = [c] := by
  simp [isSeparator, separators, or_assoc]

/- Clusters -/

theorem separatorKind : ∀ c ∈ separators, seamKind c = .other := by
  simp only [separators, List.forall_mem_cons, List.not_mem_nil, false_implies, implies_true, and_true]
  decide

theorem othersApart {c d : Char} (first : seamKind c = .other) (second : seamKind d = .other) :
    (Seam.before c).joins d = false := by
  have unlinked : conjunctAfter .idle .other c ≠ .linked := by
    unfold conjunctAfter
    split <;> simp
  simp [Seam.joins, Seam.before, first, second, unlinked]

theorem clustersSeparated {c : Char} {s : List Char} (first : c ∈ separators) (all : ∀ d ∈ s, d ∈ separators) :
    clustersFrom (.before c) [c] s = [c] :: s.map fun d => [d] := by
  induction s generalizing c with
  | nil => rfl
  | cons d rest ih =>
    obtain ⟨next, later⟩ := List.forall_mem_cons.1 all
    simp [clustersFrom, othersApart (separatorKind c first) (separatorKind d next), ih next later]

theorem clustersBare {s : List Char} (all : ∀ c ∈ s, c ∈ separators) : ∀ g ∈ clusters s, isSeparator g = true := by
  cases s with
  | nil => simp [clusters]
  | cons c rest =>
    obtain ⟨first, later⟩ := List.forall_mem_cons.1 all
    intro g member
    rw [clusters, clustersSeparated first later] at member
    obtain ⟨d, inside, rfl⟩ := List.mem_map.1 (by simpa using member : g ∈ (c :: rest).map fun d => [d])
    exact separatorShape.2 ⟨d, all d inside, rfl⟩

/- Words -/

theorem wordsAfterFlatten (before : Option (List Char)) (gs : List (List Char)) :
    (wordsAfter before gs).1 ++ (wordsAfter before gs).2.flatten =
      (gs.filter fun g => !isSeparator g).flatten := by
  induction gs generalizing before with
  | nil => rfl
  | cons g rest ih =>
    have tail := ih (some g)
    simp only [wordsAfter]
    split
    · next separates => simpa [separates] using tail
    · next kept => split <;> simp [kept, tail]

theorem wordsFlatten (s : List Char) :
    (words s).flatten = ((clusters s).filter fun g => !isSeparator g).flatten := by
  have whole := wordsAfterFlatten none (clusters s)
  rw [← List.flatten_cons] at whole
  rw [← whole, words]
  exact List.flatten_filter_not_isEmpty

theorem wordNonempty {s word : List Char} (member : word ∈ words s) : word ≠ [] := by
  have kept := (List.mem_filter.1 member).2
  simpa using kept

theorem wordsNone {s : List Char} : words s = [] ↔ ¬ HasWord s := by
  have flat : words s = [] ↔ (words s).flatten = [] := by
    refine ⟨fun none => by rw [none]; rfl, fun none => List.eq_nil_iff_forall_not_mem.2 fun word member => ?_⟩
    exact wordNonempty member (List.flatten_eq_nil_iff.1 none word member)
  rw [flat, wordsFlatten]
  constructor
  · rintro none ⟨c, member, other⟩
    rw [← flattenClusters s] at member
    obtain ⟨g, cluster, inside⟩ := List.mem_flatten.1 member
    cases separates : isSeparator g with
    | true =>
      obtain ⟨d, listed, rfl⟩ := separatorShape.1 separates
      exact other (List.mem_singleton.1 inside ▸ listed)
    | false =>
      have empty := List.flatten_eq_nil_iff.1 none g (List.mem_filter.2 ⟨cluster, by simp [separates]⟩)
      simp [empty] at inside
  · intro bare
    have all : ∀ c ∈ s, c ∈ separators := fun c member => by
      by_contra other
      exact bare ⟨c, member, other⟩
    have none : (clusters s).filter (fun g => !isSeparator g) = [] := by
      simpa using clustersBare all
    rw [none]
    rfl

/- Spellings -/

theorem kebabNone {s : String} : kebab s = "" ↔ ¬ HasWord s.toList := by
  rw [← wordsNone, kebab, String.ofList_eq_empty_iff]
  cases whole : words s.toList with
  | nil => simp
  | cons word rest =>
    have first : lowerAll word ≠ [] := lowerAfterNonempty (wordNonempty (whole ▸ List.mem_cons_self))
    cases rest <;> simp [first, List.intercalate_cons_cons]

theorem capitalizeWordNonempty {word : List Char} (some : word ≠ []) : capitalizeWord word ≠ [] := by
  cases word with
  | nil => contradiction
  | cons c rest => simp [capitalizeWord, upperNonempty c]

theorem pascalNone {s : String} : pascal s = "" ↔ ¬ HasWord s.toList := by
  rw [← wordsNone, pascal, String.ofList_eq_empty_iff]
  cases whole : words s.toList with
  | nil => simp
  | cons word rest => simp [capitalizeWordNonempty (wordNonempty (whole ▸ List.mem_cons_self))]

end ClassScaffold.Text
