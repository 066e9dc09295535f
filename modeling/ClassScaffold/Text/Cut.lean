/-!
Cutting a text at a character: before its first occurrence, before its last one, or at all of them.
A cut drops the character itself, so putting it back gives the text again.
-/
namespace ClassScaffold.Text

def cutFirst (c : Char) : List Char → Option (List Char × List Char)
  | [] => none
  | x :: rest =>
    if x = c then some ([], rest)
    else (cutFirst c rest).map fun (before, after) => (x :: before, after)

def cutLast (c : Char) : List Char → Option (List Char × List Char)
  | [] => none
  | x :: rest =>
    match cutLast c rest with
    | some (before, after) => some (x :: before, after)
    | none => if x = c then some ([], rest) else none

def splitAt (c : Char) : List Char → List (List Char)
  | [] => [[]]
  | x :: rest =>
    if x = c then [] :: splitAt c rest
    else match splitAt c rest with
      | [] => [[x]]
      | part :: parts => (x :: part) :: parts

theorem cutFirstSource {c s before after} (h : cutFirst c s = some (before, after)) :
    s = before ++ c :: after ∧ c ∉ before := by
  induction s generalizing before with
  | nil => simp [cutFirst] at h
  | cons x rest ih =>
    simp only [cutFirst] at h
    split at h
    · next same => cases h; simp [same]
    · next other =>
      obtain ⟨⟨b, a⟩, hr, last⟩ := Option.map_eq_some_iff.1 h
      cases last
      have tail := ih hr
      exact ⟨by rw [tail.1]; rfl, by simp [tail.2, Ne.symm other]⟩

theorem cutFirstAt {c before} (absent : c ∉ before) (after : List Char) :
    cutFirst c (before ++ c :: after) = some (before, after) := by
  induction before with
  | nil => simp [cutFirst]
  | cons x rest ih =>
    have other : x ≠ c := fun same => absent (by simp [same])
    have tail := ih fun member => absent (List.mem_cons_of_mem x member)
    simp [cutFirst, other, tail]

theorem cutFirstNone {c s} : cutFirst c s = none ↔ c ∉ s := by
  induction s with
  | nil => simp [cutFirst]
  | cons x rest ih =>
    by_cases same : x = c
    · simp [cutFirst, same]
    · simp [cutFirst, same, ih, Ne.symm same]

theorem cutLastNone {c s} : cutLast c s = none ↔ c ∉ s := by
  induction s with
  | nil => simp [cutLast]
  | cons x rest ih =>
    by_cases same : x = c
    · cases hr : cutLast c rest <;> simp [cutLast, hr, same]
    · cases hr : cutLast c rest <;> simp_all [cutLast, Ne.symm same]

theorem cutLastSource {c s before after} (h : cutLast c s = some (before, after)) :
    s = before ++ c :: after ∧ c ∉ after := by
  induction s generalizing before with
  | nil => simp [cutLast] at h
  | cons x rest ih =>
    simp only [cutLast] at h
    split at h
    · next hr =>
      cases h
      have tail := ih hr
      exact ⟨by rw [tail.1]; rfl, tail.2⟩
    · next hr =>
      split at h
      · next same => cases h; exact ⟨by simp [same], cutLastNone.1 hr⟩
      · contradiction

theorem cutLastAt {c after} (absent : c ∉ after) (before : List Char) :
    cutLast c (before ++ c :: after) = some (before, after) := by
  induction before with
  | nil => simp [cutLast, cutLastNone.2 absent]
  | cons x rest ih => simp [cutLast, ih]

end ClassScaffold.Text
