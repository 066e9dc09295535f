import ClassScaffold.Text.Blank
import ClassScaffold.Text.Casing
/-! What a change of case leaves alone. No image of a letter is a separator, a control character, a
digit or white space, so such characters come only from themselves. Over a whole text this keeps every
separator in its place, although the case of a sigma is decided by what stands around it. -/
namespace ClassScaffold.Text
open Property (CaseRun)

/- Images of single characters, checked over the tables -/

def unlettered : List (Nat × Nat) := [
  (0, 0x40), (0x85, 0x85), (0xA0, 0xA0), (0x1680, 0x1680), (0x2000, 0x200A), (0x2028, 0x2029),
  (0x202F, 0x202F), (0x205F, 0x205F), (0x3000, 0x3000)]

def CaseRun.isLettered (r : CaseRun) : Bool :=
  let top := r.image + (r.last - r.first)
  (top < 0xD800 || (0xDFFF < r.image && top < 0x110000))
    && unlettered.all fun (first, last) => top < first || last < r.image

def isLetteredImage (entry : Nat × List Nat) : Bool :=
  entry.2 != [] && entry.2.all fun n =>
    n < 0xD800 && unlettered.all fun (first, last) => n < first || last < n

theorem lowerRunsLettered : Property.lowerRuns.all CaseRun.isLettered = true := by decide +kernel

theorem upperRunsLettered : Property.upperRuns.all CaseRun.isLettered = true := by decide +kernel

theorem lowerLongLettered : Property.lowerLong.all isLetteredImage = true := by decide +kernel

theorem upperLongLettered : Property.upperLong.all isLetteredImage = true := by decide +kernel

theorem toNatOfNat {n : Nat} (valid : n.isValidChar) : (Char.ofNat n).toNat = n := by
  rw [Char.ofNat, dif_pos valid]
  rfl

theorem withinIff {spans : List (Nat × Nat)} {c : Char} :
    within spans c = true ↔ ∃ span ∈ spans, span.1 ≤ c.toNat ∧ c.toNat ≤ span.2 := by
  simp [within]

theorem runImageLettered {r : CaseRun} {n m : Nat} (checked : CaseRun.isLettered r = true)
    (image : CaseRun.imageOf? r n = some m) : within unlettered (Char.ofNat m) = false := by
  simp only [CaseRun.isLettered, Bool.and_eq_true, Bool.or_eq_true, decide_eq_true_eq,
    List.all_eq_true] at checked
  obtain ⟨valid, apart⟩ := checked
  simp only [CaseRun.imageOf?] at image
  split at image
  · next inRun =>
    simp only [Bool.and_eq_true, decide_eq_true_eq] at inRun
    cases image
    have value := toNatOfNat (n := r.image + (n - r.first)) (by
      simp only [Nat.isValidChar]
      omega)
    rw [Bool.eq_false_iff, Ne, withinIff, value]
    rintro ⟨span, member, low, high⟩
    have := apart span member
    omega
  · contradiction

theorem longImageLettered {entry : Nat × List Nat} {n : Nat} (checked : isLetteredImage entry = true)
    (member : n ∈ entry.2) : within unlettered (Char.ofNat n) = false := by
  simp only [isLetteredImage, Bool.and_eq_true, decide_eq_true_eq, List.all_eq_true,
    Bool.or_eq_true] at checked
  obtain ⟨valid, apart⟩ := checked.2 n member
  have value := toNatOfNat (n := n) (by simp only [Nat.isValidChar]; omega)
  rw [Bool.eq_false_iff, Ne, withinIff, value]
  rintro ⟨span, inside, low, high⟩
  have := apart span inside
  omega

theorem lookupMember {α β : Type} [BEq α] [LawfulBEq α] {entries : List (α × β)} {key : α} {value : β}
    (found : entries.lookup key = some value) : (key, value) ∈ entries := by
  obtain ⟨before, after, same, _⟩ := List.lookup_eq_some_iff.1 found
  simp [same]

theorem imageUnlettered {runs : List CaseRun} {long : List (Nat × List Nat)} {c x : Char}
    (runsChecked : runs.all CaseRun.isLettered = true) (longChecked : long.all isLetteredImage = true)
    (member : x ∈ image runs long c) (plain : within unlettered x = true) : x = c := by
  simp only [image] at member
  split at member
  · next ns found =>
    obtain ⟨n, inside, rfl⟩ := List.mem_map.1 member
    have checked := List.all_eq_true.1 longChecked _ (lookupMember found)
    rw [longImageLettered checked inside] at plain
    contradiction
  · split at member
    · next n found =>
      obtain ⟨r, inRuns, image⟩ := List.exists_of_findSome?_eq_some found
      have lettered := runImageLettered (List.all_eq_true.1 runsChecked r inRuns) image
      rw [List.mem_singleton.1 member, lettered] at plain
      contradiction
    · exact List.mem_singleton.1 member

theorem imageNonempty {runs : List CaseRun} {long : List (Nat × List Nat)} {c : Char}
    (longChecked : long.all isLetteredImage = true) : image runs long c ≠ [] := by
  simp only [image]
  split
  · next ns found =>
    have checked := List.all_eq_true.1 longChecked _ (lookupMember found)
    simp only [isLetteredImage, Bool.and_eq_true, bne_iff_ne, ne_eq] at checked
    simpa using checked.1
  · split <;> simp

/- Single characters -/

theorem asciiUnlettered : ∀ n : Fin 128,
    (within unlettered (Char.ofNat n).toLower = true → (Char.ofNat n).toLower = Char.ofNat n) ∧
    (within unlettered (Char.ofNat n).toUpper = true → (Char.ofNat n).toUpper = Char.ofNat n) := by
  decide

theorem lowerUnlettered {c x : Char} (member : x ∈ lower c) (plain : within unlettered x = true) :
    x = c := by
  simp only [lower] at member
  split at member
  · next ascii =>
    rw [List.mem_singleton.1 member] at plain ⊢
    have checked := (asciiUnlettered ⟨c.toNat, ascii⟩).1
    simp only [Char.ofNat_toNat] at checked
    exact checked plain
  · exact imageUnlettered lowerRunsLettered lowerLongLettered member plain

theorem upperUnlettered {c x : Char} (member : x ∈ upper c) (plain : within unlettered x = true) :
    x = c := by
  simp only [upper] at member
  split at member
  · next ascii =>
    rw [List.mem_singleton.1 member] at plain ⊢
    have checked := (asciiUnlettered ⟨c.toNat, ascii⟩).2
    simp only [Char.ofNat_toNat] at checked
    exact checked plain
  · exact imageUnlettered upperRunsLettered upperLongLettered member plain

theorem lowerNonempty (c : Char) : lower c ≠ [] := by
  simp only [lower]
  split
  · simp
  · exact imageNonempty lowerLongLettered

theorem upperNonempty (c : Char) : upper c ≠ [] := by
  simp only [upper]
  split
  · simp
  · exact imageNonempty upperLongLettered

theorem blankUnlettered {c : Char} (blank : isBlank c = true) : within unlettered c = true := by
  simp only [isBlank, Bool.or_eq_true, Bool.and_eq_true, decide_eq_true_eq, beq_iff_eq] at blank
  simp only [within, unlettered, List.any_cons, List.any_nil, Bool.or_eq_true, Bool.and_eq_true,
    decide_eq_true_eq]
  omega

theorem sigmaLettered (before after : List Char) :
    within unlettered (lowerSigma before after) = false := by
  simp only [lowerSigma]
  split <;> decide

/- Whole texts -/

theorem lowerAfterUnlettered {before s : List Char} {x : Char} (member : x ∈ lowerAfter before s)
    (plain : within unlettered x = true) : x ∈ s := by
  induction s generalizing before with
  | nil => simp [lowerAfter] at member
  | cons c rest ih =>
    simp only [lowerAfter, List.mem_append] at member
    rcases member with head | tail
    · split at head
      · rw [List.mem_singleton.1 head, sigmaLettered] at plain
        contradiction
      · rw [lowerUnlettered head plain]
        exact List.mem_cons_self
    · exact List.mem_cons_of_mem _ (ih tail)

theorem lowerAfterNonempty {before s : List Char} (some : s ≠ []) : lowerAfter before s ≠ [] := by
  cases s with
  | nil => contradiction
  | cons c rest =>
    simp only [lowerAfter]
    split
    · simp
    · simp [lowerNonempty c]

theorem lowerAfterSlash (before x t : List Char) :
    ∃ y, lowerAfter before (x ++ '/' :: t) = y ++ '/' :: lowerAfter ('/' :: (x.reverse ++ before)) t ∧
      ('/' ∈ y → '/' ∈ x) ∧ (x ≠ [] → y ≠ []) := by
  induction x generalizing before with
  | nil =>
    have kept : lower '/' = ['/'] := by decide
    exact ⟨[], by simp [lowerAfter, kept], id, id⟩
  | cons c rest ih =>
    obtain ⟨y, same, slash, some⟩ := ih (c :: before)
    refine ⟨(if c = 'Σ' then [lowerSigma before (rest ++ '/' :: t)] else lower c) ++ y, ?_, ?_, ?_⟩
    · simp only [List.cons_append, lowerAfter, same, List.append_assoc, List.reverse_cons,
        List.nil_append]
    · intro member
      rcases List.mem_append.1 member with head | tail
      · split at head
        · have lettered := sigmaLettered before (rest ++ '/' :: t)
          rw [← List.mem_singleton.1 head] at lettered
          contradiction
        · rw [lowerUnlettered head (by decide)]
          exact List.mem_cons_self
      · exact List.mem_cons_of_mem _ (slash tail)
    · intro _ none
      have head := (List.append_eq_nil_iff.1 none).1
      split at head
      · contradiction
      · exact lowerNonempty c head

theorem lowerAfterDotted {before s : List Char}
    (dotted : ∀ c ∈ lowerAfter before s, c = '/' ∨ c = '.') : lowerAfter before s = s := by
  induction s generalizing before with
  | nil => rfl
  | cons c rest ih =>
    simp only [lowerAfter, List.mem_append] at dotted
    have tail := ih fun x member => dotted x (.inr member)
    have plain {x : Char} (h : x = '/' ∨ x = '.') : within unlettered x = true := by
      rcases h with rfl | rfl <;> decide
    by_cases sigma : c = 'Σ'
    · have lettered := sigmaLettered before rest
      rw [plain (dotted (lowerSigma before rest) (.inl (by simp [sigma])))] at lettered
      cases lettered
    · -- no other character becomes a separator or a dot, and both stay as they are
      obtain ⟨x, xs, image⟩ := List.exists_cons_of_ne_nil (lowerNonempty c)
      have inImage : x ∈ lower c := by simp [image]
      have isDotted := dotted x (.inl (by simpa [sigma] using inImage))
      have same := lowerUnlettered inImage (plain isDotted)
      subst same
      have kept : lower x = [x] := by
        rcases isDotted with rfl | rfl <;> decide
      simp [lowerAfter, sigma, kept, tail]

end ClassScaffold.Text
