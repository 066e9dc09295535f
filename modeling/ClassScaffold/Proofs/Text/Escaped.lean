import ClassScaffold.Proofs.Text.Markup
import ClassScaffold.Proofs.Text.Setting
/-! Text that is escaped as markup and then read as a setting. No entity holds a character with a meaning there,
so the text keeps its breaks and its backslashes, and its escapes stay whole. -/
namespace ClassScaffold.Text.Setting
open Markup (entities entity entityShape escape escapeOnePass special)

theorem entityPlain {c d : Char} (held : d ∈ entity c) (other : d ≠ c) : d ≠ '\\' ∧ d ≠ '\n' ∧ d ≠ '\r' := by
  have each : ∀ entry ∈ entities, ∀ d ∈ entry.2, d ≠ '\\' ∧ d ≠ '\n' ∧ d ≠ '\r' := by simp [entities]
  rcases entityShape c with ⟨same, _⟩ | ⟨written, member, same, _⟩
  · rw [same, List.mem_singleton] at held
    contradiction
  · exact each _ member d (same ▸ held)

theorem entityKept {c : Char} (plain : c ∈ ['\\', '\n', '\r']) : entity c = [c] := by
  have apart : ∀ c ∈ special, c ∉ ['\\', '\n', '\r'] := by simp [special, entities]
  exact Text.Markup.entityOther fun held => apart c held plain

theorem escapeMember {c : Char} (plain : c ∈ ['\\', '\n', '\r']) (s : List Char) : c ∈ escape s ↔ c ∈ s := by
  rw [escapeOnePass, List.mem_flatMap]
  constructor
  · rintro ⟨d, member, held⟩
    by_cases same : c = d
    · exact same ▸ member
    · have other := entityPlain held same
      simp [other] at plain
  · intro member
    exact ⟨c, member, by simp [entityKept plain]⟩

theorem escapeOpen (s : List Char) : isOpen (escape s) = isOpen s := by
  rw [escapeOnePass]
  unfold isOpen
  generalize false = before
  induction s generalizing before with
  | nil => rfl
  | cons c rest ih =>
    have each : ∀ entry ∈ entities, ∀ before, entry.2.foldl (fun before c => c == '\\' && !before) before =
        (entry.1 == '\\' && !before) := by decide
    have first : (entity c).foldl (fun before c => c == '\\' && !before) before = (c == '\\' && !before) := by
      rcases entityShape c with ⟨same, _⟩ | ⟨written, member, same, _⟩
      · rw [same]
        rfl
      · rw [same]
        exact each _ member before
    rw [List.flatMap_cons, List.foldl_append, ih, List.foldl_cons, first]

theorem keepsEscaped (s : List Char) : KeepsLine (escape s) ↔ KeepsLine s := by
  unfold KeepsLine
  rw [escapeOpen, escapeMember (by decide), escapeMember (by decide)]

/-- What is written for a character starts with itself, or with an ampersand where it means nothing in a file of
settings. -/
theorem entityStart (c : Char) : ∃ d more, entity c = d :: more ∧ '\\' ∉ more ∧
    (d = c ∧ more = [] ∨ d = '&' ∧ isHex c = false ∧ c ≠ '\\' ∧ c ≠ 'u') := by
  have each : ∀ entry ∈ entities, '\\' ∉ entry.2 ∧ isHex entry.1 = false ∧ entry.1 ≠ '\\' ∧ entry.1 ≠ 'u' := by decide
  rcases entityShape c with ⟨same, _⟩ | ⟨written, member, same, _⟩
  · exact ⟨c, [], same, by simp, .inl ⟨rfl, rfl⟩⟩
  · obtain ⟨plain, other⟩ := each _ member
    exact ⟨'&', written, same, fun within => plain (List.mem_cons_of_mem _ within), .inr ⟨rfl, other⟩⟩

theorem takeWhileEscaped (s : List Char) : (s.flatMap entity).takeWhile isHex = s.takeWhile isHex := by
  induction s with
  | nil => rfl
  | cons c rest ih =>
    have ampersand : isHex '&' = false := by decide
    obtain ⟨d, more, whole, _, ⟨rfl, rfl⟩ | ⟨rfl, other, _⟩⟩ := entityStart c
    · rw [List.flatMap_cons, whole, List.singleton_append, List.takeWhile_cons, List.takeWhile_cons, ih]
    · rw [List.flatMap_cons, whole, List.cons_append, List.takeWhile_cons, List.takeWhile_cons, ampersand, other]
      rfl

theorem dropEscaped {s : List Char} {n : Nat} (hex : n ≤ (s.takeWhile isHex).length) :
    (s.flatMap entity).drop n = (s.drop n).flatMap entity := by
  induction s generalizing n with
  | nil => simp
  | cons c rest ih =>
    cases n with
    | zero => rfl
    | succ n =>
      obtain ⟨d, more, whole, _, ⟨rfl, rfl⟩ | ⟨rfl, other, _⟩⟩ := entityStart c
      · have fewer : n ≤ (rest.takeWhile isHex).length := by
          cases hexed : isHex d <;> simp_all
        simp [whole, ih fewer]
      · simp [other] at hex

/-- Escaping as markup breaks no escape of a file of settings, and makes none. -/
theorem decodeEscaped (s : List Char) : (decode (s.flatMap entity)).isSome = (decode s).isSome := by
  -- an escape by number takes four characters at once, so the induction is on the length
  induction size : s.length using Nat.strong_induction_on generalizing s with
  | _ n ih =>
    subst size
    have backslash : entity '\\' = ['\\'] := by decide
    have letter : entity 'u' = ['u'] := by decide
    rcases s with _ | ⟨c, rest⟩
    · rfl
    obtain ⟨d, more, whole, plain, kind⟩ := entityStart c
    by_cases escapes : c = '\\'
    · subst escapes
      rcases rest with _ | ⟨e, rest⟩
      · rfl
      by_cases number : e = 'u'
      · subst number
        rw [List.flatMap_cons, List.flatMap_cons, backslash, letter, List.singleton_append, List.singleton_append,
          decodeNumber, decodeNumber, takeWhileEscaped]
        by_cases digits : 4 ≤ (rest.takeWhile isHex).length
        · rw [dropEscaped digits, ih _ (by simp only [List.length_drop, List.length_cons]; omega) _ rfl]
        · simp [digits]
      · obtain ⟨d, more, whole, plain, kind⟩ := entityStart e
        have start : d ≠ 'u' := by
          rcases kind with ⟨rfl, _⟩ | ⟨rfl, _⟩
          · exact number
          · decide
        rw [List.flatMap_cons, List.flatMap_cons, backslash, whole, List.singleton_append, List.cons_append,
          decodeOther number, decodeOther start, decodePlain plain, Option.isSome_map,
          ih _ (by simp only [List.length_cons]; omega) rest rfl]
    · have start : d ≠ '\\' := by
        rcases kind with ⟨rfl, _⟩ | ⟨rfl, _⟩
        · exact escapes
        · decide
      rw [List.flatMap_cons, whole, List.cons_append, decodePlainCons start, decodePlainCons escapes,
        decodePlain plain, Option.isSome_map, ih _ (by simp) rest rfl]

end ClassScaffold.Text.Setting
