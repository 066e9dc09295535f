import ClassScaffold.Archive.Pack
import ClassScaffold.Proofs.Text.Utf8
import Mathlib.Algebra.Group.Nat.Defs
/-! Reading an archive gives the entries it was made of, as far as its records can hold their lengths. -/
namespace ClassScaffold.Archive.Zip
open Text.Utf8 (Bytes)

/- Numbers -/

@[simp] theorem numberLength (width n : Nat) : (number width n).length = width := by
  induction width generalizing n with
  | zero => rfl
  | succ width ih => simp [number, ih]

theorem valueNumber {width n : Nat} (small : n < 256 ^ width) : value (number width n) = n := by
  induction width generalizing n with
  | zero =>
    have zero : n = 0 := by simpa using small
    simp [number, value, zero]
  | succ width ih =>
    have rest : n / 256 < 256 ^ width := by
      rw [Nat.div_lt_iff_lt_mul (by decide)]
      rwa [Nat.pow_succ] at small
    have byte : n % 256 % 256 = n % 256 := Nat.mod_mod n 256
    simp only [number, value, ih rest, UInt8.toNat_ofNat', byte]
    exact Nat.mod_add_div n 256

theorem splitAppend {front : Bytes} {n : Nat} (long : front.length = n) (rest : Bytes) :
    split? n (front ++ rest) = some (front, rest) := by
  subst long
  simp [split?]

/- Contents -/

theorem unblockedBlock {contents : Bytes} (short : contents.length ≤ blockLimit) (last : Bool) (count : Nat)
    (rest : Bytes) : unblocked (count + 1) (block last contents ++ rest) =
      if last then some contents else (unblocked count rest).map (contents ++ ·) := by
  have length : value (number 2 contents.length) = contents.length :=
    valueNumber (Nat.lt_of_le_of_lt short (by decide))
  have pair : number 2 contents.length =
      [UInt8.ofNat (contents.length % 256), UInt8.ofNat (contents.length / 256 % 256)] := rfl
  have front := splitAppend (rfl : contents.length = contents.length) rest
  rw [← length, pair] at front
  cases last with
  | true => simp [block, number, unblocked, front]
  | false => simp [block, number, unblocked, front]

theorem unblockedBlocks {count fuel : Nat} {contents : Bytes} (enough : count < fuel)
    (short : contents.length ≤ (count + 1) * blockLimit) :
    unblocked fuel (blocks count contents) = some contents := by
  induction count generalizing fuel contents with
  | zero =>
    obtain ⟨fuel, rfl⟩ := Nat.exists_eq_add_one_of_ne_zero (Nat.ne_of_gt enough)
    have read := unblockedBlock (by simpa using short) true fuel []
    rwa [List.append_nil] at read
  | succ count ih =>
    obtain ⟨fuel, rfl⟩ := Nat.exists_eq_add_one_of_ne_zero (show fuel ≠ 0 by omega)
    unfold blocks
    split
    · next fits =>
      have read := unblockedBlock fits true fuel []
      rwa [List.append_nil] at read
    · have full : (contents.take blockLimit).length ≤ blockLimit := List.length_take_le ..
      have left : (contents.drop blockLimit).length ≤ (count + 1) * blockLimit := by
        rw [List.length_drop]
        have split : (count + 1 + 1) * blockLimit = (count + 1) * blockLimit + blockLimit := Nat.succ_mul ..
        omega
      rw [unblockedBlock full, ih (by omega) left]
      simp

theorem blocksLonger (count : Nat) (contents : Bytes) : contents.length < (blocks count contents).length := by
  have longer (last : Bool) (c : Bytes) : c.length < (block last c).length := by
    simp [block]
    omega
  induction count generalizing contents with
  | zero => exact longer true contents
  | succ count ih =>
    unfold blocks
    split
    · exact longer true contents
    · have first := longer false (contents.take blockLimit)
      have rest := ih (contents.drop blockLimit)
      rw [List.length_append]
      simp only [List.length_take, List.length_drop] at first rest
      omega

theorem inflatedDeflated (contents : Bytes) : inflated (deflated contents) = some contents := by
  unfold inflated deflated
  have longer := blocksLonger (contents.length / blockLimit) contents
  have count : contents.length / blockLimit ≤ contents.length := Nat.div_le_self ..
  refine unblockedBlocks (by omega) ?_
  have whole := Nat.lt_mul_div_succ contents.length (show 0 < blockLimit by decide)
  rw [Nat.mul_comm] at whole
  exact Nat.le_of_lt whole

/- Records -/

/-- An entry that can be read back: its name tells its kind, and its record has room for the lengths. -/
structure Fits (e : Entry) : Prop where
  kind : kindOf e.name = e.kind
  empty : e.kind = .directory → e.contents = []
  name : (Text.Utf8.encode e.name).length ≤ nameLimit
  contents : e.contents.length ≤ lengthLimit

theorem fieldAt {a b c : Bytes} {place width : Nat} (before : a.length = place) (long : b.length = width) :
    field (a ++ (b ++ c)) place width = value b := by
  subst before long
  simp [field]

variable {e : Entry}

theorem methodCases (e : Entry) : method e = plainMethod ∨
    method e = deflateMethod ∧ (deflated e.contents).length ≤ lengthLimit := by
  unfold method
  split
  · exact .inl rfl
  · split
    · next short => exact .inr ⟨rfl, short⟩
    · exact .inl rfl

theorem storedShort (fits : Fits e) : (stored e).length ≤ lengthLimit := by
  unfold stored
  split
  · exact fits.contents
  · next other => exact ((methodCases e).resolve_left other).2

theorem contentsStored (e : Entry) : contents? (method e) (stored e) = some e.contents := by
  unfold contents? stored
  split
  · rfl
  · exact inflatedDeflated e.contents

theorem descriptionLength : (description e).length = headerLength := by
  simp [description, time, headerLength]

theorem headerDescription (fits : Fits e) : header (description e) =
    ⟨method e, (stored e).length, (Text.Utf8.encode e.name).length⟩ := by
  have name : value (number 2 (Text.Utf8.encode e.name).length) = (Text.Utf8.encode e.name).length :=
    valueNumber (Nat.lt_of_le_of_lt fits.name (by decide))
  have length : value (number 4 (stored e).length) = (stored e).length :=
    valueNumber (Nat.lt_of_le_of_lt (storedShort fits) (by decide))
  have method_ : value (number 2 (method e)) = method e := by
    rcases methodCases e with plain | ⟨deflate, _⟩
    · rw [plain]
      decide
    · rw [deflate]
      decide
  have at_ (front : Bytes) (width n place : Nat) (before : front.length = place)
      (same : ∃ rest, description e = front ++ (number width n ++ rest)) :
      field (description e) place width = value (number width n) := by
    obtain ⟨rest, same⟩ := same
    rw [same]
    exact fieldAt before (numberLength width n)
  have methodAt := at_ (number 2 version ++ number 2 (flags e.name)) 2 (method e) 4 rfl (by
    simp only [description, List.append_assoc]
    exact ⟨_, rfl⟩)
  have lengthAt := at_ (number 2 version ++ number 2 (flags e.name) ++ number 2 (method e) ++ time
      ++ number 4 (checksum e.contents).toNat) 4 (stored e).length 14 (by simp [time]) (by
    simp only [description, List.append_assoc]
    exact ⟨_, rfl⟩)
  have nameAt := at_ (number 2 version ++ number 2 (flags e.name) ++ number 2 (method e) ++ time
      ++ number 4 (checksum e.contents).toNat ++ number 4 (stored e).length ++ number 4 e.contents.length)
      2 (Text.Utf8.encode e.name).length 22 (by simp [time]) (by
    simp only [description, List.append_assoc]
    exact ⟨_, rfl⟩)
  rw [header, methodAt, lengthAt, nameAt, method_, length, name]

theorem entryRecord (fits : Fits e) (rest : Bytes) : entry? (localRecord e ++ rest) = some (e, rest) := by
  have mark := splitAppend (rfl : localMark.length = localMark.length)
    (description e ++ (Text.Utf8.encode e.name ++ (stored e ++ rest)))
  have fields := splitAppend (descriptionLength (e := e)) (Text.Utf8.encode e.name ++ (stored e ++ rest))
  have name := splitAppend (rfl : (Text.Utf8.encode e.name).length = _) (stored e ++ rest)
  have contents := splitAppend (rfl : (stored e).length = _) rest
  simp only [localRecord, entry?, List.append_assoc, mark, fields, headerDescription fits, name, contents,
    Text.Utf8.decodeEncode, contentsStored, fits.kind, bind, Option.bind_some, bne_self_eq_false,
    Bool.false_eq_true, if_false]

theorem entryOther {bytes : Bytes} (other : bytes.take localMark.length ≠ localMark) : entry? bytes = none := by
  unfold entry?
  simp only [bind, Option.bind_eq_none_iff]
  intro (mark, rest) found
  have same : mark = bytes.take localMark.length := by
    simp only [split?] at found
    split at found
    · cases found
      rfl
    · cases found
  rintro ⟨fields, rest⟩ - ⟨nameBytes, rest⟩ - ⟨storedBytes, rest⟩ - name - contents -
  rw [if_pos]
  simpa [same] using other

/- The whole archive -/

theorem entriesFromRecords {es : List Entry} (fits : ∀ e ∈ es, Fits e) {rest : Bytes}
    (none : entry? rest = none) {count : Nat} (enough : es.length ≤ count) :
    entriesFrom count (localRecords es ++ rest) = es := by
  induction es generalizing count with
  | nil =>
    cases count with
    | zero => rfl
    | succ count => simp [entriesFrom, localRecords, none]
  | cons e es ih =>
    obtain ⟨count, rfl⟩ := Nat.exists_eq_add_one_of_ne_zero
      (Nat.ne_of_gt (Nat.lt_of_lt_of_le (Nat.succ_pos es.length) enough))
    have first := entryRecord (fits e List.mem_cons_self) (localRecords es ++ rest)
    have later := ih (fun other member => fits other (List.mem_cons_of_mem _ member))
      (Nat.le_of_succ_le_succ enough)
    have records : localRecords (e :: es) ++ rest = localRecord e ++ (localRecords es ++ rest) := by
      simp [localRecords]
    rw [records, entriesFrom, first]
    simp only [later]

theorem recordsLonger (es : List Entry) : es.length ≤ (localRecords es).length := by
  induction es with
  | nil => simp
  | cons e es ih =>
    have long : 0 < (localRecord e).length := by simp [localRecord, localMark]
    have records : localRecords (e :: es) = localRecord e ++ localRecords es := rfl
    rw [records, List.length_append, List.length_cons]
    omega

theorem entriesEncode {es : List Entry} (fits : ∀ e ∈ es, Fits e) : entries (encode es) = es := by
  unfold entries encode
  rw [List.append_assoc]
  refine entriesFromRecords fits (entryOther ?_) ?_
  · -- behind the last entry stands a record with another mark
    cases es with
    | nil =>
      decide
    | cons e es =>
      simp [directory, directoryRecord, directoryMark, localMark]
  · have longer := recordsLonger es
    rw [List.length_append]
    omega

end ClassScaffold.Archive.Zip
