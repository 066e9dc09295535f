import ClassScaffold.Proofs.Json.Grammar
/-! Strings are read as they were written. Each way to write a character is gone over as a whole, and a string
that nobody reads is passed over up to its quote. -/
namespace ClassScaffold.Json.Text
open ClassScaffold.Text (hexValue? hexNumber?)

/- Digits -/

theorem lowerCases (c : Char) : c.toLower = c ∨ 65 ≤ c.toNat ∧ c.toNat ≤ 90 ∧ c.toLower.toNat = c.toNat + 32 := by
  unfold Char.toLower
  split
  · next upper =>
    obtain ⟨low, high⟩ := upper
    have low : 65 ≤ c.toNat := low
    have high : c.toNat ≤ 90 := high
    have sum : (c.val + ('a'.val - 'A'.val)).toNat = c.toNat + 32 := by
      have value : c.val.toNat = c.toNat := rfl
      have gap : ('a'.val - 'A'.val).toNat = 32 := rfl
      rw [UInt32.toNat_add, gap, value]
      omega
    exact .inr ⟨low, high, sum⟩
  · exact .inl rfl

theorem hexDigit {c : Char} {v : Nat} (small : v < 16) (same : c.toLower = Nat.digitChar v) :
    hexValue? c = some v := by
  rcases lowerCases c with lower | ⟨low, high, shifted⟩
  · obtain rfl := lower.symm.trans same
    revert v
    decide
  · rw [same] at shifted
    have value : ∀ v < 16, ∀ n ≤ 90, 65 ≤ n → (Nat.digitChar v).toNat = n + 32 →
        hexValue? (Char.ofNat n) = some v := by decide
    rw [← Char.ofNat_toNat c]
    exact value v small c.toNat high low shifted

theorem unitRead {n : Nat} {digits : List Char} (written : WritesUnit n digits) :
    digits.length = 4 ∧ ∀ rest, hexFour (digits ++ rest) = .ok n := by
  obtain ⟨small, same⟩ := written
  have four : digits.length = 4 := by simpa using congrArg List.length same
  obtain ⟨a, b, c, d, rfl⟩ : ∃ a b c d, digits = [a, b, c, d] := by
    match digits, four with
    | [a, b, c, d], _ => exact ⟨a, b, c, d, rfl⟩
  simp only [List.map_cons, List.map_nil, List.cons.injEq, and_true] at same
  obtain ⟨first, second, third, fourth⟩ := same
  have first := hexDigit (by omega) first
  have second := hexDigit (by omega) second
  have third := hexDigit (by omega) third
  have fourth := hexDigit (by omega) fourth
  have number : hexNumber? [a, b, c, d] = some n := by
    simp only [hexNumber?, List.foldlM_cons, List.foldlM_nil, first, second, third, fourth, Option.map_some,
      Option.bind_eq_bind, Option.bind_some, Option.pure_def, Option.some.injEq]
    omega
  exact ⟨rfl, fun rest => by simp [hexFour, number]⟩

/- Strings that are read -/

theorem readPassed (s after : List Char) : readFrom s.length (s ++ after) = readFrom 0 after := by
  induction s with
  | nil => rfl
  | cons c rest ih => simpa [readFrom] using ih

theorem charValid (c : Char) : c.toNat < 0xD800 ∨ 0xDFFF < c.toNat ∧ c.toNat < 0x110000 := c.valid

theorem unitEscape {c : Char} {digits : List Char} (one : WritesUnit c.toNat digits) (rest : List Char) :
    escape ('u' :: (digits ++ rest)) = .ok (c, 5) := by
  obtain ⟨_, read⟩ := unitRead one
  have valid := charValid c
  have trailing : isTrailing c.toNat = false := by
    simp only [isTrailing, Bool.and_eq_false_iff, decide_eq_false_iff_not]
    omega
  have leading : isLeading c.toNat = false := by
    simp only [isLeading, Bool.and_eq_false_iff, decide_eq_false_iff_not]
    omega
  simp [escape, unicodeEscape, read, trailing, leading, bind, Except.bind]

theorem pairEscape {c : Char} {high low : List Char} (large : 0x10000 ≤ c.toNat)
    (first : WritesUnit (0xD800 + (c.toNat - 0x10000) / 0x400) high)
    (second : WritesUnit (0xDC00 + (c.toNat - 0x10000) % 0x400) low) (rest : List Char) :
    escape ('u' :: (high ++ '\\' :: 'u' :: (low ++ rest))) = .ok (c, 11) := by
  obtain ⟨four, readHigh⟩ := unitRead first
  obtain ⟨_, readLow⟩ := unitRead second
  have valid := charValid c
  have behind : (high ++ '\\' :: 'u' :: (low ++ rest)).drop 4 = '\\' :: 'u' :: (low ++ rest) := by
    rw [← four, List.drop_left]
  have notTrailing : isTrailing (0xD800 + (c.toNat - 0x10000) / 0x400) = false := by
    simp only [isTrailing, Bool.and_eq_false_iff, decide_eq_false_iff_not]
    omega
  have leading : isLeading (0xD800 + (c.toNat - 0x10000) / 0x400) = true := by
    simp only [isLeading, Bool.and_eq_true, decide_eq_true_eq]
    omega
  have trailing : isTrailing (0xDC00 + (c.toNat - 0x10000) % 0x400) = true := by
    simp only [isTrailing, Bool.and_eq_true, decide_eq_true_eq]
    omega
  have whole : (0xD800 + (c.toNat - 0x10000) / 0x400 - 0xD800) * 0x400 +
      (0xDC00 + (c.toNat - 0x10000) % 0x400 - 0xDC00) + 0x10000 = c.toNat := by omega
  simp only [escape, unicodeEscape, readHigh, notTrailing, leading, behind, readLow, trailing, whole, bind, Except.bind,
    Char.ofNat_toNat, if_true, if_false, Bool.not_true, Bool.false_eq_true]

theorem readEscaped {s rest text after : List Char} {c : Char} (escaped : escape (s ++ rest) = .ok (c, s.length))
    (tail : readFrom 0 rest = .ok (text, after)) : readFrom 0 ('\\' :: (s ++ rest)) = .ok (c :: text, after) := by
  have quote : '\\' ≠ '"' := by decide
  rw [readFrom, if_neg quote, if_pos rfl, escaped]
  simp only [Except.bind, bind, readPassed, tail]

theorem charRead {c : Char} {written rest text after : List Char} (writes : WritesChar c written)
    (tail : readFrom 0 rest = .ok (text, after)) : readFrom 0 (written ++ rest) = .ok (c :: text, after) := by
  cases writes with
  | plain printed quote backslash =>
    rw [List.singleton_append, readFrom, if_neg quote, if_neg backslash, if_neg (by omega), tail]
    rfl
  | short listed =>
    have each : ∀ entry ∈ shortEscapes, shortEscape? entry.1 = some entry.2 ∧ entry.1 ≠ 'u' := by decide
    obtain ⟨found, other⟩ := each _ listed
    exact readEscaped (s := [_]) (by simp [escape, found]) tail
  | unit one =>
    refine readEscaped (s := 'u' :: _) ?_ tail
    rw [List.length_cons, (unitRead one).1]
    exact unitEscape one rest
  | pair large first second =>
    refine readEscaped (s := 'u' :: (_ ++ '\\' :: 'u' :: _)) ?_ tail
    have escaped := pairEscape large first second rest
    simpa [(unitRead first).1, (unitRead second).1] using escaped

theorem textRead {s written : List Char} (writes : WritesText s written) (rest : List Char) :
    readFrom 0 (written ++ '"' :: rest) = .ok (s, rest) := by
  induction writes with
  | nil => simp [readFrom]
  | cons first _ ih =>
    rw [List.append_assoc]
    exact charRead first ih

/- Strings that are passed over -/

theorem skipPassed (s after : List Char) : skipFrom s.length (s ++ after) = skipFrom 0 after := by
  induction s with
  | nil => rfl
  | cons c rest ih => simpa [skipFrom] using ih

theorem skipEscaped {s : List Char} (rest : List Char) (escaped : looseEscape (s ++ rest) = .ok s.length) :
    skipFrom 0 ('\\' :: (s ++ rest)) = skipFrom 0 rest := by
  have quote : '\\' ≠ '"' := by decide
  rw [skipFrom, if_neg quote, if_pos rfl, escaped]
  simp only [Except.bind, bind, skipPassed]

theorem textSkipped {written : List Char} (text : IsText written) (rest : List Char) :
    skip (written ++ '"' :: rest) = .ok rest := by
  unfold skip
  induction text with
  | nil => simp [skipFrom]
  | plain printed quote backslash _ ih =>
    rw [List.cons_append, skipFrom, if_neg quote, if_neg backslash, if_neg (by omega), ih]
  | short listed _ ih =>
    have each : ∀ entry ∈ shortEscapes, (shortEscape? entry.1).isSome ∧ entry.1 ≠ 'u' := by decide
    obtain ⟨found, other⟩ := each _ listed
    rw [List.cons_append, List.cons_append, ← ih]
    exact skipEscaped (s := [_]) _ (by simp [looseEscape, found])
  | unit one _ ih =>
    obtain ⟨four, read⟩ := unitRead one
    rw [List.cons_append, List.cons_append, List.append_assoc, ← ih]
    refine skipEscaped (s := 'u' :: _) _ ?_
    simp [looseEscape, read, four, bind, Except.bind]

end ClassScaffold.Json.Text
