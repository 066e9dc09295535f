import ClassScaffold.Text.Utf8
import Mathlib.Algebra.Group.Nat.Defs
/-! Reading back what was written in UTF-8: every character gives one unit, and no two texts have the
same bytes. -/
namespace ClassScaffold.Text.Utf8

theorem encodeOfList (s : List Char) : encode (String.ofList s) = s.flatMap String.utf8EncodeChar := by
  simp [encode, List.utf8Encode]

theorem encodeChars (s : String) : encode s = s.toList.flatMap String.utf8EncodeChar := by
  rw [← encodeOfList, String.ofList_toList]

theorem encodeAppend (s t : String) : encode (s ++ t) = encode s ++ encode t := by
  simp only [encodeChars, String.toList_append, List.flatMap_append]

theorem encodeJoin (texts : List String) : encode (String.join texts) = texts.flatMap encode := by
  rw [encodeChars, String.toList_join, List.flatMap_assoc]
  exact congrArg (List.flatMap · texts) (funext fun text => (encodeChars text).symm)

/- The first byte of a sequence, by the number that it is -/

theorem leadOfNat {n : Nat} (small : n < 256) : lead (UInt8.ofNat n) =
    if n < 0x80 then some (n, [])
    else if n < 0xC2 then none
    else if n < 0xE0 then some (n - 0xC0, [(0x80, 0xBF)])
    else if n = 0xE0 then some (0, [(0xA0, 0xBF), (0x80, 0xBF)])
    else if n = 0xED then some (0xD, [(0x80, 0x9F), (0x80, 0xBF)])
    else if n < 0xF0 then some (n - 0xE0, [(0x80, 0xBF), (0x80, 0xBF)])
    else if n = 0xF0 then some (0, [(0x90, 0xBF), (0x80, 0xBF), (0x80, 0xBF)])
    else if n < 0xF4 then some (n - 0xF0, [(0x80, 0xBF), (0x80, 0xBF), (0x80, 0xBF)])
    else if n = 0xF4 then some (4, [(0x80, 0x8F), (0x80, 0xBF), (0x80, 0xBF)])
    else none := by
  have value : (UInt8.ofNat n).toNat = n := by simp [Nat.mod_eq_of_lt small]
  simp only [lead, UInt8.lt_iff_toNat_lt, ← UInt8.toNat_inj, value]
  rfl

theorem completeOfNat {value n : Nat} {low high : UInt8} {ranges : List (UInt8 × UInt8)} {rest : Bytes}
    (small : n < 256) (lower : low.toNat ≤ n) (upper : n ≤ high.toNat) :
    complete value ((low, high) :: ranges) (UInt8.ofNat n :: rest) =
      ((complete (value * 64 + (n - 0x80)) ranges rest).1,
        (complete (value * 64 + (n - 0x80)) ranges rest).2 + 1) := by
  have same : (UInt8.ofNat n).toNat = n := by simp [Nat.mod_eq_of_lt small]
  simp only [complete, UInt8.le_iff_toNat_le, same, lower, upper, and_self, if_true]

/- Characters by the length of their sequences. Which row of first bytes applies is settled by the
range that the character lies in. -/

theorem unitOne {v : Nat} (upper : v < 0x80) (rest : Bytes) :
    unit (UInt8.ofNat v) rest = (some (Char.ofNat v), 0) := by
  rw [unit, leadOfNat (by omega), if_pos upper]
  rfl

theorem unitTwo {v : Nat} (lower : 0x80 ≤ v) (upper : v ≤ 0x7FF) (rest : Bytes) :
    unit (UInt8.ofNat (v / 64 % 0x20 + 0xC0)) (UInt8.ofNat (v % 0x40 + 0x80) :: rest) =
      (some (Char.ofNat v), 1) := by
  have first : ¬ v / 64 % 0x20 + 0xC0 < 0x80 ∧ ¬ v / 64 % 0x20 + 0xC0 < 0xC2 ∧
      v / 64 % 0x20 + 0xC0 < 0xE0 := by omega
  have sum : (v / 64 % 0x20 + 0xC0 - 0xC0) * 64 + (v % 0x40 + 0x80 - 0x80) = v := by omega
  rw [unit, leadOfNat (by omega), if_neg first.1, if_neg first.2.1, if_pos first.2.2]
  simp only
  rw [completeOfNat (by omega) (by simp) (by simp; omega), sum]
  rfl

theorem unitThree {v : Nat} (lower : 0x800 ≤ v) (upper : v ≤ 0xFFFF)
    (valid : v < 0xD800 ∨ 0xDFFF < v) (rest : Bytes) :
    unit (UInt8.ofNat (v / 4096 % 0x10 + 0xE0))
      (UInt8.ofNat (v / 64 % 0x40 + 0x80) :: UInt8.ofNat (v % 0x40 + 0x80) :: rest) =
      (some (Char.ofNat v), 2) := by
  have early : ¬ v / 4096 % 0x10 + 0xE0 < 0x80 ∧ ¬ v / 4096 % 0x10 + 0xE0 < 0xC2 ∧
      ¬ v / 4096 % 0x10 + 0xE0 < 0xE0 ∧ v / 4096 % 0x10 + 0xE0 < 0xF0 := by omega
  have sum : ((v / 4096 % 0x10 + 0xE0 - 0xE0) * 64 + (v / 64 % 0x40 + 0x80 - 0x80)) * 64
      + (v % 0x40 + 0x80 - 0x80) = v := by omega
  rw [unit, leadOfNat (by omega), if_neg early.1, if_neg early.2.1, if_neg early.2.2.1]
  by_cases low : v / 4096 % 0x10 + 0xE0 = 0xE0
  · rw [if_pos low]
    simp only
    rw [completeOfNat (by omega) (by simp; omega) (by simp; omega),
      completeOfNat (by omega) (by simp) (by simp; omega),
      show (0 * 64 + (v / 64 % 0x40 + 0x80 - 0x80)) * 64 + (v % 0x40 + 0x80 - 0x80) = v by omega]
    rfl
  · rw [if_neg low]
    by_cases surrogate : v / 4096 % 0x10 + 0xE0 = 0xED
    · rw [if_pos surrogate]
      simp only
      rw [completeOfNat (by omega) (by simp) (by simp; omega),
        completeOfNat (by omega) (by simp) (by simp; omega),
        show (0xD * 64 + (v / 64 % 0x40 + 0x80 - 0x80)) * 64 + (v % 0x40 + 0x80 - 0x80) = v by omega]
      rfl
    · rw [if_neg surrogate, if_pos early.2.2.2]
      simp only
      rw [completeOfNat (by omega) (by simp) (by simp; omega),
        completeOfNat (by omega) (by simp) (by simp; omega), sum]
      rfl

theorem unitFour {v : Nat} (lower : 0x10000 ≤ v) (upper : v < 0x110000) (rest : Bytes) :
    unit (UInt8.ofNat (v / 262144 % 0x08 + 0xF0)) (UInt8.ofNat (v / 4096 % 0x40 + 0x80)
      :: UInt8.ofNat (v / 64 % 0x40 + 0x80) :: UInt8.ofNat (v % 0x40 + 0x80) :: rest) =
      (some (Char.ofNat v), 3) := by
  have early : ¬ v / 262144 % 0x08 + 0xF0 < 0x80 ∧ ¬ v / 262144 % 0x08 + 0xF0 < 0xC2 ∧
      ¬ v / 262144 % 0x08 + 0xF0 < 0xE0 ∧ ¬ v / 262144 % 0x08 + 0xF0 = 0xE0 ∧
      ¬ v / 262144 % 0x08 + 0xF0 = 0xED ∧ ¬ v / 262144 % 0x08 + 0xF0 < 0xF0 := by omega
  obtain ⟨a, b, c, d, e, f⟩ := early
  rw [unit, leadOfNat (by omega), if_neg a, if_neg b, if_neg c, if_neg d, if_neg e, if_neg f]
  by_cases low : v / 262144 % 0x08 + 0xF0 = 0xF0
  · rw [if_pos low]
    simp only
    rw [completeOfNat (by omega) (by simp; omega) (by simp; omega),
      completeOfNat (by omega) (by simp) (by simp; omega),
      completeOfNat (by omega) (by simp) (by simp; omega),
      show ((0 * 64 + (v / 4096 % 0x40 + 0x80 - 0x80)) * 64 + (v / 64 % 0x40 + 0x80 - 0x80)) * 64
        + (v % 0x40 + 0x80 - 0x80) = v by omega]
    rfl
  · rw [if_neg low]
    by_cases middle : v / 262144 % 0x08 + 0xF0 < 0xF4
    · rw [if_pos middle]
      simp only
      rw [completeOfNat (by omega) (by simp) (by simp; omega),
        completeOfNat (by omega) (by simp) (by simp; omega),
        completeOfNat (by omega) (by simp) (by simp; omega),
        show (((v / 262144 % 0x08 + 0xF0 - 0xF0) * 64 + (v / 4096 % 0x40 + 0x80 - 0x80)) * 64
          + (v / 64 % 0x40 + 0x80 - 0x80)) * 64 + (v % 0x40 + 0x80 - 0x80) = v by omega]
      rfl
    · rw [if_neg middle, if_pos (by omega)]
      simp only
      rw [completeOfNat (by omega) (by simp) (by simp; omega),
        completeOfNat (by omega) (by simp) (by simp; omega),
        completeOfNat (by omega) (by simp) (by simp; omega),
        show ((4 * 64 + (v / 4096 % 0x40 + 0x80 - 0x80)) * 64 + (v / 64 % 0x40 + 0x80 - 0x80)) * 64
          + (v % 0x40 + 0x80 - 0x80) = v by omega]
      rfl

theorem unitEncode (c : Char) (rest : Bytes) :
    ∃ b more, String.utf8EncodeChar c = b :: more ∧ unit b (more ++ rest) = (some c, more.length) := by
  have valid : c.val.toNat < 0xD800 ∨ (0xDFFF < c.val.toNat ∧ c.val.toNat < 0x110000) := c.valid
  have back : Char.ofNat c.val.toNat = c := Char.ofNat_toNat c
  unfold String.utf8EncodeChar
  dsimp only
  split
  · refine ⟨_, _, rfl, ?_⟩
    exact (unitOne (by omega) rest).trans (by rw [back]; rfl)
  · split
    · refine ⟨_, _, rfl, ?_⟩
      exact (unitTwo (by omega) (by omega) rest).trans (by rw [back]; rfl)
    · split
      · refine ⟨_, _, rfl, ?_⟩
        exact (unitThree (by omega) (by omega) (by omega) rest).trans (by rw [back]; rfl)
      · refine ⟨_, _, rfl, ?_⟩
        exact (unitFour (by omega) (by omega) rest).trans (by rw [back]; rfl)

theorem unitsFromPassed (passed rest : Bytes) :
    unitsFrom passed.length (passed ++ rest) = unitsFrom 0 rest := by
  induction passed with
  | nil => rfl
  | cons b more ih => simpa [unitsFrom] using ih

theorem unitsEncode (s : String) : units (encode s) = s.toList.map some := by
  have chars (cs : List Char) : units (cs.flatMap String.utf8EncodeChar) = cs.map some := by
    induction cs with
    | nil => rfl
    | cons c rest ih =>
      obtain ⟨b, more, bytes, read⟩ := unitEncode c (rest.flatMap String.utf8EncodeChar)
      simp only [units] at ih
      simp only [units, List.flatMap_cons, bytes, List.cons_append, unitsFrom, read, unitsFromPassed, ih,
        List.map_cons]
  rw [← chars, encodeChars]

@[simp] theorem decodeLossyEncode (s : String) : decodeLossy (encode s) = s := by
  simp [decodeLossy, unitsEncode, Function.comp_def]

@[simp] theorem decodeEncode (s : String) : decode? (encode s) = some s := by
  have all (cs : List Char) : (cs.map some).mapM id = some cs := by
    induction cs with
    | nil => rfl
    | cons c rest ih => simp [ih]
  simp [decode?, unitsEncode, all]

theorem encodeInjective {s t : String} (same : encode s = encode t) : s = t := by
  rw [← decodeLossyEncode s, same, decodeLossyEncode]

/- Where a separator comes from -/

theorem completeLeast {value v : Nat} {ranges : List (UInt8 × UInt8)} {rest : Bytes}
    (found : (complete value ranges rest).1 = some v) : value * 64 ^ ranges.length ≤ v := by
  induction ranges generalizing value rest with
  | nil =>
    cases found
    simp
  | cons range ranges ih =>
    cases rest with
    | nil => cases found
    | cons b rest =>
      simp only [complete] at found
      split at found
      · have least := ih found
        rw [List.length_cons, Nat.pow_succ', ← Nat.mul_assoc]
        exact Nat.le_trans (Nat.mul_le_mul_right _ (Nat.le_add_right ..)) least
      · cases found

theorem completeFirst {value v : Nat} {low high : UInt8} {ranges : List (UInt8 × UInt8)} {rest : Bytes}
    (found : (complete value ((low, high) :: ranges) rest).1 = some v) :
    (value * 64 + (low.toNat - 0x80)) * 64 ^ ranges.length ≤ v := by
  cases rest with
  | nil => cases found
  | cons b rest =>
    simp only [complete] at found
    split at found
    · next within =>
      have least := completeLeast found
      have lower : low.toNat ≤ b.toNat := UInt8.le_iff_toNat_le.1 within.1
      exact Nat.le_trans (Nat.mul_le_mul_right _ (by omega)) least
    · cases found

/-- A first byte stands for itself, or for a sequence whose number is too great for one byte. -/
theorem leadLeast : ∀ n < 256, (lead (UInt8.ofNat n)).all (fun (start, ranges) =>
    match ranges with
    | [] => start == n
    | (low, _) :: more => 0x80 ≤ (start * 64 + (low.toNat - 0x80)) * 64 ^ more.length) = true := by
  decide +kernel

theorem unitSmall {b : UInt8} {rest : Bytes} {v : Nat} {ranges : List (UInt8 × UInt8)} {start : Nat}
    (first : lead b = some (start, ranges)) (found : (complete start ranges rest).1 = some v) (small : v < 0x80) :
    b.toNat = v := by
  have row := leadLeast b.toNat b.toNat_lt
  rw [UInt8.ofNat_toNat, first] at row
  cases ranges with
  | nil =>
    cases found
    simpa using (beq_iff_eq.1 row).symm
  | cons range more =>
    have large : 0x80 ≤ (start * 64 + (range.1.toNat - 0x80)) * 64 ^ more.length := by simpa using row
    have least := completeFirst found
    omega

theorem unitSlash {b : UInt8} {rest : Bytes} (found : (unit b rest).1 = some '/') : b = 0x2F := by
  unfold unit at found
  split at found
  · cases found
  · next start ranges first =>
    obtain ⟨v, complete, char⟩ := Option.map_eq_some_iff.1 found
    have value : v = 0x2F := by
      by_cases valid : v.isValidChar
      · rw [Char.ofNat, dif_pos valid] at char
        exact congrArg Char.toNat char
      · rw [Char.ofNat, dif_neg valid] at char
        cases congrArg Char.toNat char
    have byte := unitSmall first complete (by omega)
    exact UInt8.toNat_inj.1 (byte.trans value)

theorem unitsSource {c : Char} {passed : Nat} {bytes : Bytes} (member : some c ∈ unitsFrom passed bytes) :
    ∃ b ∈ bytes, ∃ rest, (unit b rest).1 = some c := by
  induction bytes generalizing passed with
  | nil => simp [unitsFrom] at member
  | cons b bytes ih =>
    cases passed with
    | zero =>
      rcases List.mem_cons.1 member with here | later
      · exact ⟨b, List.mem_cons_self, bytes, here.symm⟩
      · obtain ⟨b', inside, rest, found⟩ := ih later
        exact ⟨b', List.mem_cons_of_mem _ inside, rest, found⟩
    | succ passed =>
      obtain ⟨b', inside, rest, found⟩ := ih member
      exact ⟨b', List.mem_cons_of_mem _ inside, rest, found⟩

theorem decodeLossySlash {bytes : Bytes} (absent : 0x2F ∉ bytes) : '/' ∉ (decodeLossy bytes).toList := by
  intro member
  rw [decodeLossy, String.toList_ofList] at member
  obtain ⟨u, inside, same⟩ := List.mem_map.1 member
  cases u with
  | none => exact absurd same (by decide)
  | some c =>
    obtain rfl : c = '/' := same
    obtain ⟨b, within, rest, found⟩ := unitsSource inside
    exact absent (unitSlash found ▸ within)

theorem decodeLossySome {bytes : Bytes} (some : bytes ≠ []) : (decodeLossy bytes).toList ≠ [] := by
  obtain ⟨b, rest, rfl⟩ := List.exists_cons_of_ne_nil some
  simp [decodeLossy, units, unitsFrom]

end ClassScaffold.Text.Utf8
