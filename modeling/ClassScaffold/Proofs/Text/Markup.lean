import ClassScaffold.Text.Markup
import ClassScaffold.Proofs.Text.Split
import Mathlib.Data.List.Basic
/-! Escaped text and the reading of markup. The replacements go over the text one after the other, yet each
character ends up as what it alone is replaced by, because no entity holds a character of a later one. -/
namespace ClassScaffold.Text.Markup

/- Escaping -/

def replaceAll (table : List (Char × List Char)) (s : List Char) : List Char :=
  table.foldl (fun text (c, written) => replace c written text) s

theorem replaceAllAppend (table : List (Char × List Char)) (s t : List Char) :
    replaceAll table (s ++ t) = replaceAll table s ++ replaceAll table t := by
  induction table generalizing s t with
  | nil => rfl
  | cons entry rest ih =>
    have first : replace entry.1 entry.2 (s ++ t) = replace entry.1 entry.2 s ++ replace entry.1 entry.2 t :=
      List.flatMap_append
    simp only [replaceAll, List.foldl_cons, first] at ih ⊢
    exact ih _ _

theorem replaceAllOther {table : List (Char × List Char)} {c : Char} (other : c ∉ table.map Prod.fst) :
    replaceAll table [c] = [c] := by
  induction table with
  | nil => rfl
  | cons entry rest ih =>
    simp only [List.map_cons, List.mem_cons, not_or] at other
    have kept : replace entry.1 entry.2 [c] = [c] := by simp [replace, other.1]
    simp only [replaceAll, List.foldl_cons, kept] at ih ⊢
    exact ih other.2

def special : List Char := entities.map Prod.fst

theorem entityOther {c : Char} (other : c ∉ special) : entity c = [c] := by
  have none : entities.lookup c = none := List.lookup_eq_none_iff.2 fun entry member => by
    have : entry.1 ∈ special := List.mem_map_of_mem member
    simpa using fun same : c = entry.1 => other (same ▸ this)
  simp [entity, none]

theorem entitySpecial : ∀ c ∈ special, escape [c] = entity c := by
  simp [special, entities, escape, replace, entity, List.lookup_cons]

theorem escapeOne (c : Char) : escape [c] = entity c := by
  by_cases held : c ∈ special
  · exact entitySpecial c held
  · rw [entityOther held]
    exact replaceAllOther held

/-- The replacements one after the other are one pass over the characters. -/
theorem escapeOnePass (s : List Char) : escape s = s.flatMap entity := by
  induction s with
  | nil => rfl
  | cons c rest ih =>
    have split : escape ([c] ++ rest) = escape [c] ++ escape rest := replaceAllAppend entities [c] rest
    rw [List.singleton_append] at split
    rw [split, escapeOne, ih, List.flatMap_cons]

/-- What a character is written as: itself, or an entity, which holds an ampersand only at its start. -/
theorem entityShape (c : Char) : entity c = [c] ∧ c ∉ special ∨
    ∃ written, (c, '&' :: written) ∈ entities ∧ entity c = '&' :: written ∧ ∀ d ∈ special, d ∉ written := by
  by_cases held : c ∈ special
  · refine .inr ?_
    have each : ∀ entry ∈ entities, entity entry.1 = entry.2 ∧ entry.2 = '&' :: entry.2.tail ∧
        ∀ d ∈ special, d ∉ entry.2.tail := by simp [special, entities, entity, List.lookup_cons]
    obtain ⟨entry, member, rfl⟩ := List.mem_map.1 held
    obtain ⟨same, start, plain⟩ := each entry member
    exact ⟨entry.2.tail, by rwa [← start], by rw [same, ← start], plain⟩
  · exact .inl ⟨entityOther held, held⟩

theorem escapeSpares {c : Char} (held : c ∈ special) (other : c ≠ '&') (s : List Char) : c ∉ escape s := by
  rw [escapeOnePass]
  intro within
  obtain ⟨d, _, inside⟩ := List.mem_flatMap.1 within
  rcases entityShape d with ⟨same, plain⟩ | ⟨written, _, same, plain⟩
  · rw [same, List.mem_singleton] at inside
    exact plain (inside ▸ held)
  · rw [same] at inside
    rcases List.mem_cons.1 inside with start | later
    · exact other start
    · exact plain c held later

theorem escapeAmpersand {s before after : List Char} (split : escape s = before ++ '&' :: after) :
    ∃ entry ∈ entities, entry.2 <+: '&' :: after := by
  rw [escapeOnePass] at split
  induction s generalizing before with
  | nil => simp at split
  | cons c rest ih =>
    rw [List.flatMap_cons] at split
    rcases List.append_eq_append_iff.1 split with ⟨between, rfl, tail⟩ | ⟨between, whole, tail⟩
    · exact ih tail
    · cases between with
      | nil => exact @ih [] (by simpa using tail.symm)
      | cons d between =>
        obtain ⟨rfl, rfl⟩ := List.cons.inj tail
        rcases entityShape c with ⟨same, plain⟩ | ⟨written, member, same, plain⟩
        · rw [same] at whole
          have inside : '&' ∈ [c] := by simp [whole]
          obtain rfl := List.mem_singleton.1 inside
          exact absurd (by decide) plain
        · rw [same] at whole
          cases before with
          | nil =>
            obtain rfl := (List.cons.inj whole).2
            exact ⟨_, member, List.prefix_append _ _⟩
          | cons e before =>
            obtain ⟨_, rfl⟩ := List.cons.inj whole
            exact absurd (by simp) (plain '&' (by decide))

/- Unescaping -/

theorem unescapePassed (s after : List Char) : unescapeFrom s.length (s ++ after) = unescapeFrom 0 after := by
  induction s with
  | nil => rfl
  | cons c rest ih => simpa [unescapeFrom] using ih

theorem readEntityWritten {c : Char} {written : List Char} (member : (c, written) ∈ entities) (after : List Char) :
    readEntity (written ++ after) = some (c, after) := by
  have each : ∀ entry ∈ entities, ∀ after, readEntity (entry.2 ++ after) = some (entry.1, after) := by
    simp [entities, readEntity, List.findSome?_cons, List.isPrefixOf?]
  exact each _ member after

theorem readEntityOther {c : Char} (other : c ≠ '&') (after : List Char) : readEntity (c :: after) = none := by
  have other : ('&' == c) = false := by simpa using other.symm
  simp [readEntity, entities, List.isPrefixOf?, other]

theorem unescapeEntity (c : Char) (after : List Char) :
    unescapeFrom 0 (entity c ++ after) = c :: unescapeFrom 0 after := by
  rcases entityShape c with ⟨same, plain⟩ | ⟨written, member, same, _⟩
  · have other : c ≠ '&' := fun ampersand => plain (ampersand ▸ by decide)
    simp [same, unescapeFrom, readEntityOther other]
  · have found := readEntityWritten member after
    rw [same, List.cons_append] at *
    have count : (written ++ after).length - after.length = written.length := by simp
    rw [unescapeFrom, found]
    simp only [count, unescapePassed]

theorem unescapeEscape (s : List Char) : unescape (escape s) = s := by
  rw [escapeOnePass]
  induction s with
  | nil => rfl
  | cons c rest ih =>
    rw [List.flatMap_cons, unescape, unescapeEntity]
    exact congrArg (c :: ·) ih

end ClassScaffold.Text.Markup
