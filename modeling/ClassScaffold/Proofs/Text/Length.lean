import ClassScaffold.Proofs.Text.Recase
/-! How long a text is in lower case. The lengths of its parts add up, whatever a sigma becomes, and capitals
make little difference. No capital A is left. -/
namespace ClassScaffold.Text
open Property (CaseRun)

def lowerLength (s : List Char) : Nat := (lowerAll s).length

theorem lowerLengthCons (c : Char) (rest : List Char) :
    lowerLength (c :: rest) = (lower c).length + lowerLength rest := by
  have sigma : (lower 'Σ').length = 1 := by decide +kernel
  simp only [lowerLength, lowerAll, lowerAfter, List.length_append, lowerAfterLength [c] []]
  split
  · next same => rw [same, sigma, List.length_singleton]
  · rfl

theorem lowerLengthAppend (s t : List Char) : lowerLength (s ++ t) = lowerLength s + lowerLength t := by
  induction s with
  | nil => simp [lowerLength, lowerAll, lowerAfter]
  | cons c rest ih => rw [List.cons_append, lowerLengthCons, ih, lowerLengthCons, Nat.add_assoc]

theorem lowerLengthDigits {digits : List Char} (all : ∀ c ∈ digits, c.isDigit = true) :
    lowerLength digits = digits.length := by
  have kept : lowerAfter [] ([] ++ digits) = lowerAfter [] [] ++ digits := lowerAfterDigits all
  exact congrArg List.length kept

/- Images, checked over the tables -/

theorem lowerLongShort : (Property.lowerLong.all fun entry => entry.2.length ≤ 2) = true := by decide

theorem lowerShort (c : Char) : 1 ≤ (lower c).length ∧ (lower c).length ≤ 2 := by
  refine ⟨List.length_pos_of_ne_nil (lowerNonempty c), ?_⟩
  simp only [lower, image]
  split
  · simp
  · split
    · next ns found =>
      have checked := List.all_eq_true.1 lowerLongShort _ (lookupMember found)
      simpa using checked
    · split <;> simp

theorem lowerLongDotted : (Property.lowerLong.all fun entry => entry.1 == 0x130) = true := by decide

theorem lowerSingle {c : Char} (undotted : c.toNat ≠ 0x130) : (lower c).length = 1 := by
  simp only [lower, image]
  split
  · simp
  · split
    · next ns found =>
      have dotted := List.all_eq_true.1 lowerLongDotted _ (lookupMember found)
      simp [undotted] at dotted
    · split <;> simp

theorem lowerLengthUndotted {s : List Char} (undotted : ∀ c ∈ s, c.toNat ≠ 0x130) : lowerLength s = s.length := by
  induction s with
  | nil => rfl
  | cons c rest ih =>
    rw [lowerLengthCons, lowerSingle (undotted c List.mem_cons_self),
      ih fun x member => undotted x (List.mem_cons_of_mem _ member), List.length_cons, Nat.add_comm]

theorem upperLongUndotted : (Property.upperLong.all fun entry =>
    entry.2.length ≤ 3 && entry.2.all fun n => (Char.ofNat n).toNat != 0x130) = true := by decide +kernel

theorem upperLength (c : Char) :
    (lower c).length ≤ lowerLength (upper c) + 1 ∧ lowerLength (upper c) ≤ (lower c).length + 3 := by
  have short := lowerShort c
  have single (x : Char) : lowerLength [x] = (lower x).length := lowerLengthCons x []
  cases upperCases c with
  | @long ns member same =>
    have checked := List.all_eq_true.1 upperLongUndotted _ member
    simp only [Bool.and_eq_true, decide_eq_true_eq, List.all_eq_true, bne_iff_ne] at checked
    have undotted : lowerLength (upper c) = ns.length := by
      rw [same, lowerLengthUndotted (by simpa using checked.2), List.length_map]
    have long := List.length_pos_of_ne_nil (upperNonempty c)
    rw [same, List.length_map] at long
    omega
  | @run r n member image same =>
    have capital := lowerShort (Char.ofNat n)
    rw [same, single]
    omega
  | none same =>
    rw [same, single]
    omega

theorem capitalizeLength (s : List Char) :
    lowerLength s ≤ lowerLength (capitalize s) + 1 ∧ lowerLength (capitalize s) ≤ lowerLength s + 3 := by
  cases s with
  | nil => simp [capitalize]
  | cons c rest =>
    have first := upperLength c
    rw [capitalize, lowerLengthAppend, lowerLengthCons]
    omega

/- Capitals -/

theorem lowerRunsCapital : (Property.lowerRuns.all fun r => 0x41 < r.image) = true := by decide +kernel

theorem lowerLongCapital : (Property.lowerLong.all fun entry => !(entry.2.map Char.ofNat).contains 'A') = true := by
  decide +kernel

theorem asciiCapital : ∀ n : Fin 128, (Char.ofNat n).toLower ≠ 'A' := by decide

theorem lowerCapital (c : Char) : 'A' ∉ lower c := by
  intro member
  simp only [lower] at member
  split at member
  · next ascii =>
    have checked := asciiCapital ⟨c.toNat, ascii⟩
    simp only [Char.ofNat_toNat] at checked
    exact checked (List.mem_singleton.1 member).symm
  · next other =>
    simp only [image] at member
    split at member
    · next ns found =>
      have checked := List.all_eq_true.1 lowerLongCapital _ (lookupMember found)
      simp [member] at checked
    · split at member
      · next n found =>
        obtain ⟨r, inRuns, image⟩ := List.exists_of_findSome?_eq_some found
        have large := List.all_eq_true.1 lowerRunsCapital r inRuns
        have lettered := List.all_eq_true.1 lowerRunsLettered r inRuns
        simp only [CaseRun.imageOf?] at image
        split at image
        · next inRun =>
          simp only [Bool.and_eq_true, decide_eq_true_eq] at inRun large
          cases image
          have value := runImageValue lettered (n := c.toNat) (by omega)
          rw [← List.mem_singleton.1 member] at value
          have letter : 'A'.toNat = 0x41 := rfl
          omega
        · contradiction
      · obtain rfl := List.mem_singleton.1 member
        exact other (by decide)

theorem lowerAllCapital (before s : List Char) : 'A' ∉ lowerAfter before s := by
  induction s generalizing before with
  | nil => simp [lowerAfter]
  | cons c rest ih =>
    intro member
    rcases List.mem_append.1 (by simpa only [lowerAfter] using member) with head | tail
    · split at head
      · have single := List.mem_singleton.1 head
        unfold lowerSigma at single
        split at single <;> contradiction
      · exact lowerCapital c head
    · exact ih (c :: before) tail

end ClassScaffold.Text
