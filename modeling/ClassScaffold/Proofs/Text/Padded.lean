import ClassScaffold.Package
import ClassScaffold.Proofs.Text.Blank
import ClassScaffold.Proofs.Text.Split
import Mathlib.Data.List.TakeWhile
/-! Texts that differ in white space only: around the whole, or around the pieces between the dots of a package
name, where empty pieces may stand as well. Trimming tells no two of them apart. -/
namespace ClassScaffold
namespace Text

def AllBlank (s : List Char) : Prop := ∀ c ∈ s, isBlank c = true

def IsPadded (core s : List Char) : Prop :=
  ∃ before after, AllBlank before ∧ AllBlank after ∧ s = before ++ core ++ after

theorem trimStartPadded {before : List Char} (blank : AllBlank before) (s : List Char) :
    trimStart (before ++ s) = trimStart s := List.dropWhile_append_of_pos blank

theorem trimEndPadded {after : List Char} (blank : AllBlank after) (s : List Char) :
    trimEnd (s ++ after) = trimEnd s := by
  unfold trimEnd
  rw [List.reverse_append, List.dropWhile_append_of_pos]
  exact fun c member => blank c (List.mem_reverse.1 member)

theorem trimPadded {core s : List Char} (padded : IsPadded core s) : trim s = trim core := by
  obtain ⟨before, after, start, stop, rfl⟩ := padded
  rw [List.append_assoc, trim, trimStartPadded start, trim]
  unfold trimStart
  rw [List.dropWhile_append]
  split
  · -- a core of white space only is cut off with what is around it
    next none => rw [List.isEmpty_iff.1 none, List.dropWhile_eq_nil_iff.2 stop]
  · exact trimEndPadded stop _

theorem paddedTrim (s : List Char) : IsPadded (trim s) s := by
  have all (t : List Char) : AllBlank (t.takeWhile isBlank) := fun c => List.mem_takeWhile_imp
  refine ⟨s.takeWhile isBlank, ((trimStart s).reverse.takeWhile isBlank).reverse, all s, ?_, ?_⟩
  · exact fun c member => all _ c (List.mem_reverse.1 member)
  · have stop : trim s ++ ((trimStart s).reverse.takeWhile isBlank).reverse = trimStart s := by
      rw [trim, trimEnd, ← List.reverse_append, List.takeWhile_append_dropWhile, List.reverse_reverse]
    rw [List.append_assoc, stop, trimStart, List.takeWhile_append_dropWhile]

theorem trimNothing {s : List Char} : trim s = [] ↔ AllBlank s := by
  constructor
  · intro nothing
    obtain ⟨before, after, start, stop, whole⟩ := paddedTrim s
    rw [nothing, List.append_nil] at whole
    rw [whole]
    exact fun c member => (List.mem_append.1 member).elim (start c) (stop c)
  · intro blank
    have padded : IsPadded [] s := ⟨s, [], blank, by simp [AllBlank], by simp⟩
    rw [trimPadded padded]
    rfl

def SameCore (a b : String) : Prop := ∃ core, IsPadded core a.toList ∧ IsPadded core b.toList

theorem sameCoreIff {a b : String} : SameCore a b ↔ trimmed a = trimmed b := by
  constructor
  · rintro ⟨core, one, other⟩
    rw [trimmed, trimmed, trimPadded one, trimPadded other]
  · intro same
    have cores := congrArg String.toList same
    rw [toListTrimmed, toListTrimmed] at cores
    exact ⟨trim a.toList, paddedTrim _, cores ▸ paddedTrim _⟩

theorem splitPadded {x : Char} (dark : isBlank x = false) {core s : List Char} (padded : IsPadded core s) :
    (splitAt x s).map trim = (splitAt x core).map trim := by
  obtain ⟨before, after, start, stop, rfl⟩ := padded
  have absent {t : List Char} (blank : AllBlank t) : x ∉ t := fun member => by simp [blank x member] at dark
  obtain ⟨parts, last, whole, cut⟩ := splitAtEnd (absent stop) (before ++ core)
  have ending : trim (last ++ after) = trim last := trimPadded ⟨[], after, by simp [AllBlank], stop, rfl⟩
  rw [cut, List.map_append, List.map_singleton, ending, ← List.map_singleton (f := trim), ← List.map_append, ← whole]
  cases cuts : splitAt x core with
  | nil => exact absurd cuts (splitAtNonempty x core)
  | cons head rest =>
    have beginning : trim (before ++ head) = trim head :=
      trimPadded ⟨before, [], start, by simp [AllBlank], by simp⟩
    rw [splitAtStart (absent start) cuts, List.map_cons, List.map_cons, beginning]

/-- The pieces are the cores, with white space around them, and any number of pieces that are white space only. -/
inductive Spells : List (List Char) → List (List Char) → Prop where
  | nil : Spells [] []
  | blank {piece cores pieces} (blank : AllBlank piece) (rest : Spells cores pieces) : Spells cores (piece :: pieces)
  | core {core piece cores pieces} (some : ¬ AllBlank core) (padded : IsPadded core piece)
      (rest : Spells cores pieces) : Spells (core :: cores) (piece :: pieces)

theorem spelledTrim {cores pieces : List (List Char)} (spells : Spells cores pieces) :
    (pieces.map trim).filter (fun piece => !piece.isEmpty) = cores.map trim := by
  induction spells with
  | nil => rfl
  | blank blank _ ih => simpa [trimNothing.2 blank] using ih
  | core some padded _ ih =>
    have filled : trim _ ≠ [] := fun nothing => some (trimNothing.1 nothing)
    rw [List.map_cons, trimPadded padded, List.filter_cons_of_pos (by simpa using filled), ih, List.map_cons]

theorem spellsTrim (pieces : List (List Char)) :
    Spells ((pieces.map trim).filter fun piece => !piece.isEmpty) pieces := by
  induction pieces with
  | nil => exact .nil
  | cons piece rest ih =>
    by_cases blank : AllBlank piece
    · simpa [trimNothing.2 blank] using ih.blank blank
    · have filled : trim piece ≠ [] := fun nothing => blank (trimNothing.1 nothing)
      rw [List.map_cons, List.filter_cons_of_pos (by simpa using filled)]
      refine .core (fun all => filled ?_) (paddedTrim piece) ih
      rw [← trimFixed (trimIsTrimmed piece)]
      exact trimNothing.2 all

end Text

namespace Package
open Text (splitAt trim trimmed Spells)

def SameSegments (p p' : String) : Prop :=
  ∃ cores, Spells cores (splitAt '.' p.toList) ∧ Spells cores (splitAt '.' p'.toList)

theorem sameSegmentsIff {p p' : String} : SameSegments p p' ↔ segments p = segments p' := by
  constructor
  · rintro ⟨cores, one, other⟩
    rw [segments, segments, Text.spelledTrim one, Text.spelledTrim other]
  · intro same
    have pieces := List.map_injective_iff.2 (fun _ _ => String.ofList_injective) same
    exact ⟨_, Text.spellsTrim _, pieces ▸ Text.spellsTrim _⟩

theorem segmentsTrimmed (p : String) : segments (trimmed p) = segments p := by
  have dark : Text.isBlank '.' = false := by decide
  have same := Text.splitPadded dark (Text.paddedTrim p.toList)
  rw [segments, segments, Text.toListTrimmed, same]

end Package
end ClassScaffold
