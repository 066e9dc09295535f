import ClassScaffold.Text.Cut
/-! What a text is cut into at a character, and texts put together from such pieces. -/
namespace ClassScaffold.Text

theorem splitAtNonempty (c : Char) (s : List Char) : splitAt c s ≠ [] := by
  cases s with
  | nil => simp [splitAt]
  | cons x rest =>
    simp only [splitAt]
    split
    · simp
    · split <;> simp

theorem splitAtOther {c x : Char} (other : x ≠ c) (s : List Char) :
    ∃ part parts, splitAt c s = part :: parts ∧ splitAt c (x :: s) = (x :: part) :: parts := by
  cases h : splitAt c s with
  | nil => exact absurd h (splitAtNonempty c s)
  | cons part parts => exact ⟨part, parts, rfl, by simp [splitAt, other, h]⟩

theorem splitAtAppend (c : Char) (a b : List Char) :
    splitAt c (a ++ c :: b) = splitAt c a ++ splitAt c b := by
  induction a with
  | nil => simp [splitAt]
  | cons x rest ih =>
    by_cases same : x = c
    · simp [splitAt, same, ih]
    · obtain ⟨part, parts, before, after⟩ := splitAtOther same rest
      obtain ⟨part', parts', before', after'⟩ := splitAtOther same (rest ++ c :: b)
      rw [ih, before, List.cons_append] at before'
      obtain ⟨rfl, rfl⟩ := List.cons.inj before'
      rw [List.cons_append, after', after, List.cons_append]

theorem splitAtWhole {c : Char} {s : List Char} (absent : c ∉ s) : splitAt c s = [s] := by
  induction s with
  | nil => rfl
  | cons x rest ih =>
    have other : x ≠ c := fun same => absent (by simp [same])
    have tail := ih fun h => absent (List.mem_cons_of_mem _ h)
    simp [splitAt, other, tail]

theorem splitAtAbsent {c : Char} {s part : List Char} (member : part ∈ splitAt c s) : c ∉ part := by
  induction s generalizing part with
  | nil =>
    have empty : part = [] := by simpa [splitAt] using member
    simp [empty]
  | cons x rest ih =>
    by_cases same : x = c
    · simp only [splitAt, same, if_true] at member
      rcases List.mem_cons.1 member with rfl | later
      · simp
      · exact ih later
    · obtain ⟨head, parts, before, after⟩ := splitAtOther same rest
      rw [after] at member
      rw [before] at ih
      rcases List.mem_cons.1 member with rfl | later
      · simp [Ne.symm same, ih List.mem_cons_self]
      · exact ih (List.mem_cons_of_mem _ later)

theorem splitAtWithin {c : Char} {s part : List Char} (member : part ∈ splitAt c s) : part ⊆ s := by
  induction s generalizing part with
  | nil =>
    have empty : part = [] := by simpa [splitAt] using member
    simp [empty]
  | cons x rest ih =>
    by_cases same : x = c
    · simp only [splitAt, same, if_true] at member
      rcases List.mem_cons.1 member with rfl | later
      · simp
      · exact List.subset_cons_of_subset _ (ih later)
    · obtain ⟨head, parts, before, after⟩ := splitAtOther same rest
      rw [after] at member
      rw [before] at ih
      rcases List.mem_cons.1 member with rfl | later
      · exact List.cons_subset_cons _ (ih List.mem_cons_self)
      · exact List.subset_cons_of_subset _ (ih (List.mem_cons_of_mem _ later))

theorem splitAtCovers {c x : Char} {s : List Char} (within : x ∈ s) :
    x = c ∨ ∃ part ∈ splitAt c s, x ∈ part := by
  induction s with
  | nil => simp at within
  | cons y rest ih =>
    by_cases same : y = c
    · rcases List.mem_cons.1 within with rfl | later
      · exact .inl same
      · rcases ih later with rfl | ⟨part, member, inside⟩
        · exact .inl rfl
        · exact .inr ⟨part, by simp [splitAt, same, member], inside⟩
    · obtain ⟨head, parts, before, after⟩ := splitAtOther same rest
      rw [before] at ih
      rw [after]
      rcases List.mem_cons.1 within with rfl | later
      · exact .inr ⟨x :: head, by simp, by simp⟩
      · rcases ih later with rfl | ⟨part, member, inside⟩
        · exact .inl rfl
        · rcases List.mem_cons.1 member with rfl | others
          · exact .inr ⟨y :: part, by simp, List.mem_cons_of_mem _ inside⟩
          · exact .inr ⟨part, List.mem_cons_of_mem _ others, inside⟩

theorem splitAtEnd {c : Char} {w : List Char} (absent : c ∉ w) (s : List Char) :
    ∃ parts last, splitAt c s = parts ++ [last] ∧ splitAt c (s ++ w) = parts ++ [last ++ w] := by
  induction s with
  | nil => exact ⟨[], [], rfl, by simpa using splitAtWhole absent⟩
  | cons x rest ih =>
    obtain ⟨parts, last, before, after⟩ := ih
    by_cases same : x = c
    · exact ⟨[] :: parts, last, by simp [splitAt, same, before], by simp [splitAt, same, after]⟩
    · cases parts with
      | nil => exact ⟨[], x :: last, by simp [splitAt, same, before], by simp [splitAt, same, after]⟩
      | cons part parts =>
        exact ⟨(x :: part) :: parts, last, by simp [splitAt, same, before],
          by simp [splitAt, same, after]⟩

theorem splitAtStart {c : Char} {w s head : List Char} {parts : List (List Char)} (absent : c ∉ w)
    (cuts : splitAt c s = head :: parts) : splitAt c (w ++ s) = (w ++ head) :: parts := by
  induction w with
  | nil => exact cuts
  | cons x rest ih =>
    have other : x ≠ c := fun same => absent (by simp [same])
    have tail := ih fun h => absent (List.mem_cons_of_mem _ h)
    simp [splitAt, other, tail]

theorem splitAtIntercalate {c : Char} {parts : List (List Char)} (some : parts ≠ [])
    (absent : ∀ part ∈ parts, c ∉ part) : splitAt c ([c].intercalate parts) = parts := by
  induction parts with
  | nil => contradiction
  | cons part rest ih =>
    have head := splitAtWhole (absent part List.mem_cons_self)
    cases rest with
    | nil => simpa using head
    | cons next others =>
      have tail := ih (by simp) fun p member => absent p (List.mem_cons_of_mem _ member)
      rw [List.intercalate_cons_cons, List.append_assoc, List.singleton_append, splitAtAppend, head, tail,
        List.singleton_append]

theorem intercalateSplitAt (c : Char) (s : List Char) : [c].intercalate (splitAt c s) = s := by
  induction s with
  | nil => rfl
  | cons x rest ih =>
    by_cases same : x = c
    · obtain ⟨part, parts, whole⟩ := List.exists_cons_of_ne_nil (splitAtNonempty c rest)
      rw [whole] at ih
      simp [splitAt, same, whole, ih, List.intercalate_cons_cons]
    · obtain ⟨part, parts, before, after⟩ := splitAtOther same rest
      rw [before] at ih
      rw [after]
      cases parts with
      | nil => simpa using ih
      | cons next parts =>
        simp only [List.intercalate_cons_cons, List.cons_append] at ih ⊢
        rw [ih]

theorem intercalateAppend (c : Char) {before after : List (List Char)} (first : before ≠ []) (second : after ≠ []) :
    [c].intercalate (before ++ after) = [c].intercalate before ++ c :: [c].intercalate after := by
  induction before with
  | nil => contradiction
  | cons head rest ih =>
    cases rest with
    | nil =>
      obtain ⟨next, others, same⟩ := List.exists_cons_of_ne_nil second
      simp [same, List.intercalate_cons_cons]
    | cons next others =>
      rw [List.cons_append, List.cons_append, List.intercalate_cons_cons, ← List.cons_append, ih (by simp),
        List.intercalate_cons_cons]
      simp only [List.append_assoc]

theorem intercalateAround (c : Char) {before after : List (List Char)} (first : before ≠ []) (second : after ≠ [])
    (part : List Char) : [c].intercalate (before ++ part :: after) =
      [c].intercalate before ++ c :: part ++ c :: [c].intercalate after := by
  rw [List.append_cons, intercalateAppend c (by simp) second, intercalateAppend c first (by simp),
    List.intercalate_singleton]

theorem intercalateCons (c : Char) (part : List Char) {rest : List (List Char)} (some : rest ≠ []) :
    [c].intercalate (part :: rest) = part ++ c :: [c].intercalate rest := by
  have split := @intercalateAppend c [part] rest (by simp) some
  rwa [List.singleton_append, List.intercalate_singleton] at split

theorem intercalateSublist (c : Char) {parts whole : List (List Char)} (within : parts.Sublist whole) :
    ([c].intercalate parts).Sublist ([c].intercalate whole) := by
  induction within with
  | slnil => exact .slnil
  | @cons parts whole part within ih =>
    by_cases none : whole = []
    · obtain rfl := List.sublist_nil.1 (none ▸ within)
      exact List.nil_sublist _
    · rw [intercalateCons c part none]
      exact List.sublist_append_of_sublist_right (.cons c ih)
  | @cons_cons parts whole part within ih =>
    by_cases none : parts = []
    · rw [none, List.intercalate_singleton]
      by_cases alone : whole = []
      · simp [alone]
      · rw [intercalateCons c part alone]
        exact List.sublist_append_left ..
    · have some : whole ≠ [] := fun empty => none (List.sublist_nil.1 (empty ▸ within))
      rw [intercalateCons c part none, intercalateCons c part some]
      exact List.Sublist.append_left (.cons_cons c ih) _

theorem intercalateAbsent {c x : Char} {parts : List (List Char)} (other : x ≠ c)
    (absent : ∀ part ∈ parts, x ∉ part) : x ∉ [c].intercalate parts := by
  induction parts with
  | nil => simp
  | cons part rest ih =>
    have head := absent part List.mem_cons_self
    have tail := ih fun p member => absent p (List.mem_cons_of_mem _ member)
    cases rest with
    | nil => simpa using head
    | cons next others =>
      rw [List.intercalate_cons_cons]
      simp [head, tail, other]

end ClassScaffold.Text
