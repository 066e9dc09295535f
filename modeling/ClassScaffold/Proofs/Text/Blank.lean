import ClassScaffold.Text.Blank
import Mathlib.Data.List.Basic
/-! A text is trimmed when there is no white space at its ends. Trimming gives such a text, and leaves it
alone. -/
namespace ClassScaffold.Text

structure IsTrimmed (s : List Char) : Prop where
  first : ∀ c, s.head? = some c → isBlank c = false
  last : ∀ c, s.getLast? = some c → isBlank c = false

theorem dropWhileHead {p : Char → Bool} {s : List Char} {c : Char}
    (head : (s.dropWhile p).head? = some c) : p c = false := by
  induction s with
  | nil => simp at head
  | cons x rest ih =>
    rw [List.dropWhile_cons] at head
    split at head
    · exact ih head
    · next stop => simpa [← Option.some.inj head] using stop

theorem dropWhileFixed {p : Char → Bool} {s : List Char}
    (head : ∀ c, s.head? = some c → p c = false) : s.dropWhile p = s := by
  cases s with
  | nil => rfl
  | cons x rest => simp [head x rfl]

theorem spanStops {p : Char → Bool} {s : List Char} (all : ∀ c ∈ s, p c = true) (after : List Char)
    (stop : ∀ c, after.head? = some c → p c = false) :
    (s ++ after).takeWhile p = s ∧ (s ++ after).dropWhile p = after := by
  have rest : after.takeWhile p = [] := by
    cases after with
    | nil => rfl
    | cons c _ => simp [stop c rfl]
  rw [List.takeWhile_append_of_pos all, List.dropWhile_append_of_pos all, rest, dropWhileFixed stop,
    List.append_nil]
  exact ⟨rfl, rfl⟩

theorem trimFixed {s : List Char} (trimmed : IsTrimmed s) : trim s = s := by
  have start : trimStart s = s := dropWhileFixed trimmed.first
  have back : s.reverse.dropWhile isBlank = s.reverse :=
    dropWhileFixed fun c head => trimmed.last c (by simpa using head)
  rw [trim, start, trimEnd, back, List.reverse_reverse]

theorem trimIsTrimmed (s : List Char) : IsTrimmed (trim s) := by
  refine ⟨fun c head => ?_, fun c last => ?_⟩
  · -- cutting at the end keeps the first character, when anything is left
    obtain ⟨cut, whole⟩ := List.dropWhile_suffix (l := (trimStart s).reverse) isBlank
    have kept : trimStart s = trim s ++ cut.reverse := by
      have turned := congrArg List.reverse whole
      simpa [trim, trimEnd] using turned.symm
    apply dropWhileHead (s := s)
    change (trimStart s).head? = some c
    rw [kept, List.head?_append, head]
    rfl
  · apply dropWhileHead (s := (trimStart s).reverse)
    simpa [trim, trimEnd] using last

theorem trimWithin (s : List Char) : trim s ⊆ s := by
  intro c member
  have start : c ∈ trimStart s := by
    simpa using List.dropWhile_subset _ (List.mem_reverse.1 member)
  exact List.dropWhile_subset _ start

/-- Behind a text that is trimmed and not empty, white space is cut off at the start only. -/
theorem trimEnding (s : List Char) {ending : List Char} (some : ending ≠ []) (trimmed : IsTrimmed ending) :
    trim (s ++ ending) = trimStart s ++ ending := by
  have start : trimStart (s ++ ending) = trimStart s ++ ending := by
    unfold trimStart
    rw [List.dropWhile_append, dropWhileFixed trimmed.first]
    split
    · next none => rw [List.isEmpty_iff.1 none, List.nil_append]
    · rfl
  have back : (trimStart s ++ ending).reverse.dropWhile isBlank = (trimStart s ++ ending).reverse := by
    refine dropWhileFixed fun c head => trimmed.last c ?_
    rwa [List.head?_reverse, List.getLast?_append_of_ne_nil _ some] at head
  rw [trim, start, trimEnd, back, List.reverse_reverse]

end ClassScaffold.Text
