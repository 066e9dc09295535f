import ClassScaffold.Text.SafeName
/-! What a safe name is made of. Its characters are letters and digits of ASCII and three marks, of which none has a
meaning between quotes or in a path, so a name that is safe already is left as it is. -/
namespace ClassScaffold.Text

def IsSafe (s : String) : Prop := ∀ c ∈ s.toList, c.isAlphanum = true ∨ c ∈ ['.', '_', '-']

def IsPrintable (s : String) : Prop := ∀ c ∈ s.toList, 0x20 ≤ c.toNat ∧ c.toNat ≤ 0x7E

/- Characters -/

theorem safeShape {c : Char} : isSafe c = true ↔ c.isAlphanum = true ∨ c ∈ ['.', '_', '-'] := by
  unfold isSafe Char.isAlphanum Char.isAlpha Char.isUpper Char.isLower Char.isDigit
  simp only [Bool.or_eq_true, Bool.and_eq_true, decide_eq_true_eq, beq_iff_eq, List.mem_cons, List.not_mem_nil,
    or_false, or_assoc]
  exact Iff.rfl

theorem charLe {a b : Char} : a ≤ b ↔ a.toNat ≤ b.toNat := Iff.rfl

theorem safePrintable {c : Char} (safe : isSafe c = true) : 0x20 ≤ c.toNat ∧ c.toNat ≤ 0x7E := by
  simp only [isSafe, Bool.or_eq_true, Bool.and_eq_true, decide_eq_true_eq, beq_iff_eq, charLe] at safe
  have marks : 'A'.toNat = 65 ∧ 'Z'.toNat = 90 ∧ 'a'.toNat = 97 ∧ 'z'.toNat = 122 ∧ '0'.toNat = 48 ∧
    '9'.toNat = 57 := by decide
  rcases safe with ((letter | rfl) | rfl) | rfl
  · omega
  · decide
  · decide
  · decide

theorem safeOther {c x : Char} (safe : isSafe c = true) (unsafeMark : isSafe x = false) : c ≠ x := by
  rintro rfl
  cases safe.symm.trans unsafeMark

/- Names -/

theorem safeIff {s : String} : IsSafe s ↔ ∀ c ∈ s.toList, isSafe c = true :=
  forall₂_congr fun _ _ => safeShape.symm

theorem safeNameSafe (s : String) : ∀ c ∈ (safeName s).toList, isSafe c = true := by
  intro c member
  rw [safeName, String.toList_ofList] at member
  obtain ⟨x, _, rfl⟩ := List.mem_map.1 member
  split
  · next safe => exact safe
  · decide

theorem safeNameLength (s : String) : (safeName s).length = s.length := by
  rw [safeName, String.length_ofList, List.length_map, String.length_toList]

theorem safeNameKeeps {s : String} (safe : ∀ c ∈ s.toList, isSafe c = true) : safeName s = s := by
  have same : s.toList.map (fun c => if isSafe c then c else '_') = s.toList.map id :=
    List.map_congr_left fun c member => if_pos (safe c member)
  rw [safeName, same, List.map_id, String.ofList_toList]

theorem safeNameAgain (s : String) : safeName (safeName s) = safeName s := safeNameKeeps (safeNameSafe s)

end ClassScaffold.Text
