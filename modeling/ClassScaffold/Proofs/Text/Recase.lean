import ClassScaffold.Proofs.Text.Casing
import Mathlib.Data.List.Chain
/-! A text that is capitalised and then lower-cased. Its rest comes out as if nothing had happened, since
a first character that comes back is cased just as its capital is; all depends on the first character. -/
namespace ClassScaffold.Text
open Property (CaseRun)

/- Lower-casing in pieces -/

theorem meetsCasedCons (c : Char) (rest : List Char) : meetsCased (c :: rest) =
    if within Property.caseIgnorable c then meetsCased rest else within Property.cased c := by
  cases ignored : within Property.caseIgnorable c <;> simp [meetsCased, ignored]

theorem lowerAfterCongr {before other : List Char} (same : meetsCased before = meetsCased other)
    (s : List Char) : lowerAfter before s = lowerAfter other s := by
  induction s generalizing before other with
  | nil => rfl
  | cons c rest ih =>
    have tail : meetsCased (c :: before) = meetsCased (c :: other) := by
      rw [meetsCasedCons, meetsCasedCons, same]
    simp only [lowerAfter, lowerSigma, same, ih tail]

theorem lowerAfterLength (before other s : List Char) :
    (lowerAfter before s).length = (lowerAfter other s).length := by
  induction s generalizing before other with
  | nil => rfl
  | cons c rest ih =>
    simp only [lowerAfter, List.length_append, ih (c :: before) (c :: other)]
    split <;> rfl

theorem lowerAfterAppend {before s : List Char} (plain : 'Σ' ∉ s) (t : List Char) :
    lowerAfter before (s ++ t) = lowerAfter before s ++ lowerAfter (s.reverse ++ before) t := by
  induction s generalizing before with
  | nil => rfl
  | cons c rest ih =>
    obtain ⟨other, plain⟩ := not_or.1 (mt List.mem_cons.2 plain)
    simp only [List.cons_append, lowerAfter, if_neg (Ne.symm other), ih plain, List.append_assoc,
      List.reverse_cons, List.nil_append]

/-- A sigma in front is never final, whatever stands behind it. -/
theorem lowerAllAppend {s : List Char} (plain : 'Σ' ∉ s.tail) (t : List Char) :
    lowerAll (s ++ t) = lowerAll s ++ lowerAfter s.reverse t := by
  cases s with
  | nil => rfl
  | cons c rest =>
    have front (after : List Char) : lowerSigma [] after = 'σ' := by simp [lowerSigma, meetsCased]
    have plain : 'Σ' ∉ rest := plain
    simp only [lowerAll, List.cons_append, lowerAfter, front, lowerAfterAppend plain,
      List.append_assoc, List.reverse_cons]

/- Digits -/

theorem digitCaseless : ∀ n : Fin 10,
    let c := Char.ofNat (48 + n)
    lower c = [c] ∧ c ≠ 'Σ' ∧ within Property.caseIgnorable c = false ∧ within Property.cased c = false := by
  decide +kernel

theorem caselessOfDigit {c : Char} (digit : c.isDigit = true) :
    lower c = [c] ∧ c ≠ 'Σ' ∧ within Property.caseIgnorable c = false ∧ within Property.cased c = false := by
  simp only [Char.isDigit, Bool.and_eq_true, decide_eq_true_eq] at digit
  have low : 48 ≤ c.toNat := digit.1
  have high : c.toNat ≤ 57 := digit.2
  have caseless := digitCaseless ⟨c.toNat - 48, by omega⟩
  simpa only [Nat.add_sub_cancel' low, Char.ofNat_toNat] using caseless

theorem lowerAfterDigits {before s digits : List Char} (all : ∀ c ∈ digits, c.isDigit = true) :
    lowerAfter before (s ++ digits) = lowerAfter before s ++ digits := by
  induction s generalizing before with
  | nil =>
    induction digits generalizing before with
    | nil => rfl
    | cons c rest ih =>
      obtain ⟨kept, other, _⟩ := caselessOfDigit (all c List.mem_cons_self)
      have tail : lowerAfter (c :: before) ([] ++ rest) = lowerAfter (c :: before) [] ++ rest :=
        ih fun x member => all x (List.mem_cons_of_mem _ member)
      simp only [List.nil_append, lowerAfter] at tail
      simp [lowerAfter, other, kept, tail]
  | cons c rest ih =>
    have unseen : meetsCased (rest ++ digits) = meetsCased rest := by
      clear ih
      induction rest with
      | nil =>
        cases digits with
        | nil => rfl
        | cons d _ =>
          obtain ⟨_, _, noticed, caseless⟩ := caselessOfDigit (all d List.mem_cons_self)
          simp [meetsCased, noticed, caseless]
      | cons x rest ih => rw [List.cons_append, meetsCasedCons, meetsCasedCons, ih]
    simp only [List.cons_append, lowerAfter, lowerSigma, unseen, ih, List.append_assoc]

/- First characters, checked over the tables -/

def comesBack (c : Char) : Bool := lowerAll (upper c) == lowerAll [c]

/-- A sigma behind the character meets the same before it as behind the capital. -/
def keepsCase (c : Char) : Bool := !comesBack c || meetsCased (upper c).reverse == meetsCased [c]

/-- The table of ignorable characters is in order, so the first span that ends late enough decides. -/
def isCasedSpan (low high : Nat) : Bool :=
  (Property.cased.any fun span => span.1.ble low && high.ble span.2)
    && (Property.caseIgnorable.find? fun span => low.ble span.2).all fun span => high.blt span.1

theorem apartOfFirst {spans : List (Nat × Nat)} {low high : Nat}
    (sorted : spans.Pairwise fun a b => a.1 ≤ b.1)
    (clear : (spans.find? fun span => low.ble span.2).all (fun span => high.blt span.1) = true) :
    ∀ span ∈ spans, span.2 < low ∨ high < span.1 := by
  induction spans with
  | nil => simp
  | cons first rest ih =>
    obtain ⟨before, sorted⟩ := List.pairwise_cons.1 sorted
    rw [List.find?_cons] at clear
    split at clear
    · have beyond : high < first.1 := by simpa using clear
      intro span member
      rcases List.mem_cons.1 member with rfl | later
      · exact .inr beyond
      · exact .inr (Nat.lt_of_lt_of_le beyond (before span later))
    · next early =>
      have early : first.2 < low := by
        simpa only [Bool.eq_false_iff, ne_eq, Nat.ble_eq, Nat.not_le] using early
      intro span member
      rcases List.mem_cons.1 member with rfl | later
      · exact .inl early
      · exact ih sorted clear span later

theorem caseIgnorableSorted : Property.caseIgnorable.Pairwise fun a b => a.1 ≤ b.1 := by
  have chain : Property.caseIgnorable.IsChain fun a b => a.1 ≤ b.1 := by decide +kernel
  exact chain.pairwise

def CaseRun.points (r : CaseRun) : List Nat :=
  (List.range ((r.last - r.first) / r.step + 1)).map fun i => r.first + r.step * i

def CaseRun.keepsCase (r : CaseRun) : Bool :=
  (isCasedSpan r.first r.last && isCasedSpan r.image (r.image + (r.last - r.first)))
    || (CaseRun.points r).all fun n => Text.keepsCase (Char.ofNat n)

def asciiRun : CaseRun := ⟨0x61, 0x7A, 1, 0x41⟩

theorem upperRunsKeepCase : (asciiRun :: Property.upperRuns).all CaseRun.keepsCase = true := by
  decide +kernel

theorem upperLongKeepsCase :
    (Property.upperLong.all fun entry => keepsCase (Char.ofNat entry.1)) = true := by decide +kernel

theorem asciiUpper : ∀ n : Fin 128, let c := Char.ofNat n
    CaseRun.imageOf? asciiRun n = some c.toUpper.toNat ∨ c.toUpper = c := by
  decide

theorem upperLongSigma :
    (Property.upperLong.all fun entry => !(entry.2.tail.map Char.ofNat).contains 'Σ') = true := by
  decide +kernel

theorem casedOfSpan {low high : Nat} {c : Char} (span : isCasedSpan low high = true)
    (above : low ≤ c.toNat) (below : c.toNat ≤ high) : meetsCased [c] = true := by
  simp only [isCasedSpan, Bool.and_eq_true, List.any_eq_true, Nat.ble_eq] at span
  obtain ⟨⟨around, member, first, last⟩, clear⟩ := span
  have noticed : within Property.caseIgnorable c = false := by
    rw [Bool.eq_false_iff, Ne, withinIff]
    rintro ⟨ignored, inside, start, stop⟩
    have := apartOfFirst caseIgnorableSorted clear ignored inside
    omega
  rw [meetsCasedCons, noticed]
  exact withinIff.2 ⟨around, member, by omega, by omega⟩

theorem memPoints {r : CaseRun} {n m : Nat} (image : CaseRun.imageOf? r n = some m) :
    n ∈ CaseRun.points r := by
  simp only [CaseRun.imageOf?] at image
  split at image
  · next inRun =>
    simp only [Bool.and_eq_true, decide_eq_true_eq, beq_iff_eq] at inRun
    obtain ⟨⟨low, high⟩, stepped⟩ := inRun
    have whole := Nat.div_add_mod (n - r.first) r.step
    have below : (n - r.first) / r.step ≤ (r.last - r.first) / r.step := Nat.div_le_div_right (by omega)
    exact List.mem_map.2 ⟨(n - r.first) / r.step, List.mem_range.2 (by omega), by omega⟩
  · contradiction

theorem runImageValue {r : CaseRun} {n : Nat} (lettered : CaseRun.isLettered r = true)
    (inRun : n ≤ r.last) : (Char.ofNat (r.image + (n - r.first))).toNat = r.image + (n - r.first) := by
  simp only [CaseRun.isLettered, Bool.and_eq_true, Bool.or_eq_true, decide_eq_true_eq] at lettered
  refine toNatOfNat ?_
  simp only [Nat.isValidChar]
  omega

theorem asciiRunLettered : CaseRun.isLettered asciiRun = true := by decide

theorem runKeepsCase {r : CaseRun} {c : Char} {m : Nat} (member : r ∈ asciiRun :: Property.upperRuns)
    (image : CaseRun.imageOf? r c.toNat = some m) (same : upper c = [Char.ofNat m]) :
    keepsCase c = true := by
  have lettered : CaseRun.isLettered r = true := by
    rcases List.mem_cons.1 member with rfl | inRuns
    · exact asciiRunLettered
    · exact List.all_eq_true.1 upperRunsLettered r inRuns
  have checked := List.all_eq_true.1 upperRunsKeepCase r member
  simp only [CaseRun.keepsCase, Bool.or_eq_true, Bool.and_eq_true] at checked
  rcases checked with ⟨source, target⟩ | pointwise
  · simp only [CaseRun.imageOf?] at image
    split at image
    · next inRun =>
      simp only [Bool.and_eq_true, decide_eq_true_eq] at inRun
      cases image
      have value := runImageValue lettered (n := c.toNat) (by omega)
      have small : meetsCased [c] = true := casedOfSpan source (by omega) (by omega)
      have capital := casedOfSpan target (c := Char.ofNat (r.image + (c.toNat - r.first)))
        (by omega) (by omega)
      simp [keepsCase, same, small, capital]
    · contradiction
  · simpa only [Char.ofNat_toNat] using List.all_eq_true.1 pointwise _ (memPoints image)

inductive Capital (c : Char) : Prop
  | long {ns : List Nat} (member : (c.toNat, ns) ∈ Property.upperLong) (same : upper c = ns.map Char.ofNat)
  | run {r : CaseRun} {n : Nat} (member : r ∈ asciiRun :: Property.upperRuns)
      (image : CaseRun.imageOf? r c.toNat = some n) (same : upper c = [Char.ofNat n])
  | none (same : upper c = [c])

theorem upperCases (c : Char) : Capital c := by
  by_cases small : c.toNat < 0x80
  · have single : upper c = [c.toUpper] := by rw [upper, if_pos small]
    have checked := asciiUpper ⟨c.toNat, small⟩
    simp only [Char.ofNat_toNat] at checked
    rcases checked with image | kept
    · exact .run List.mem_cons_self image (by rw [single, Char.ofNat_toNat])
    · exact .none (by rw [single, kept])
  · have same : upper c = image Property.upperRuns Property.upperLong c := by rw [upper, if_neg small]
    simp only [image] at same
    split at same
    · next ns found => exact .long (lookupMember found) same
    · split at same
      · next n found =>
        obtain ⟨r, member, image⟩ := List.exists_of_findSome?_eq_some found
        exact .run (List.mem_cons_of_mem _ member) image same
      · exact .none same

theorem upperKeepsCase (c : Char) : keepsCase c = true := by
  cases upperCases c with
  | long member same =>
    simpa only [Char.ofNat_toNat] using List.all_eq_true.1 upperLongKeepsCase _ member
  | run member image same => exact runKeepsCase member image same
  | none same => simp [keepsCase, same]

theorem upperSigma (c : Char) : 'Σ' ∉ (upper c).tail := by
  cases upperCases c with
  | @long ns member same =>
    have checked := List.all_eq_true.1 upperLongSigma _ member
    simpa [same, List.map_tail] using checked
  | run member image same => simp [same]
  | none same => simp [same]

/- Whole texts -/

def recased (s : List Char) : Bool := s.head?.all comesBack

theorem lowerCapitalize (s : List Char) : lowerAll (capitalize s) = lowerAll s ↔ recased s = true := by
  cases s with
  | nil => simp [capitalize, recased]
  | cons c rest =>
    have capital : lowerAll (capitalize (c :: rest)) =
        lowerAll (upper c) ++ lowerAfter (upper c).reverse rest := lowerAllAppend (upperSigma c) rest
    have small : lowerAll (c :: rest) = lowerAll [c] ++ lowerAfter [c] rest :=
      lowerAllAppend (s := [c]) (by simp) rest
    simp only [recased, List.head?_cons, Option.all_some]
    rw [capital, small]
    constructor
    · intro same
      -- the rests are as long as each other, whatever stands before them
      have heads := List.append_inj_left' same (lowerAfterLength _ _ rest)
      simpa [comesBack] using heads
    · intro back
      have checked := upperKeepsCase c
      simp only [keepsCase, back, Bool.not_true, Bool.false_or, beq_iff_eq] at checked
      have heads : lowerAll (upper c) = lowerAll [c] := by simpa [comesBack] using back
      rw [heads, lowerAfterCongr checked]

end ClassScaffold.Text
