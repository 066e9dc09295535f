import ClassScaffold.Proofs.Text.Split
import ClassScaffold.Text.Hex
import Mathlib.Data.List.TakeWhile
/-! Files of settings as they are read: lines end at a line feed, a carriage return or both, an odd number of
backslashes before the end joins the next line, and a key goes to the first separator that is not escaped. Keys
and values are texts in 16-bit units, since an escape can stand for half of a pair. -/
namespace ClassScaffold.Text.Setting

def isSpace (c : Char) : Bool := c == ' ' || c == '\t' || c == '\x0c'

def unifyBreaks : List Char → List Char
  | '\r' :: '\n' :: rest => '\n' :: unifyBreaks rest
  | c :: rest => (if c = '\r' then '\n' else c) :: unifyBreaks rest
  | [] => []

def isOpen (s : List Char) : Bool := s.foldl (fun before c => c == '\\' && !before) false

inductive Line
  /-- Nothing but white space, or a comment. -/
  | passed
  | setting (text : List Char)
  deriving DecidableEq, Repr

def isPassed (s : List Char) : Bool :=
  match s.dropWhile isSpace with
  | [] => true
  | c :: _ => c == '#' || c == '!'

/-- The lines that are left when continued ones are joined, `begun` being the start of one. A comment does not go
on in the next line. -/
def linesFrom : Option (List Char) → List (List Char) → List Line
  | none, [] => []
  | some begun, [] => [.setting begun]
  | none, s :: rest =>
    if isPassed s then .passed :: linesFrom none rest
    else if isOpen s then linesFrom (some (s.dropWhile isSpace).dropLast) rest
    else .setting (s.dropWhile isSpace) :: linesFrom none rest
  | some begun, s :: rest =>
    let whole := begun ++ s.dropWhile isSpace
    if isOpen whole then linesFrom (some whole.dropLast) rest
    else .setting whole :: linesFrom none rest

def lines (s : List Char) : List Line := linesFrom none (splitAt '\n' (unifyBreaks s))

def cutKey : Bool → List Char → List Char × List Char
  | _, [] => ([], [])
  | escaped, c :: rest =>
    if !escaped && (c == '=' || c == ':' || isSpace c) then ([], c :: rest)
    else
      let (key, after) := cutKey (c == '\\' && !escaped) rest
      (c :: key, after)

def valueOf (after : List Char) : List Char :=
  match after.dropWhile isSpace with
  | '=' :: rest => rest.dropWhile isSpace
  | ':' :: rest => rest.dropWhile isSpace
  | rest => rest

def units (s : List Char) : List Nat :=
  s.flatMap fun c =>
    if c.toNat < 0x10000 then [c.toNat]
    else [0xD800 + (c.toNat - 0x10000) / 0x400, 0xDC00 + (c.toNat - 0x10000) % 0x400]

def shortEscape : Char → Char
  | 't' => '\t'
  | 'n' => '\n'
  | 'r' => '\r'
  | 'f' => '\x0c'
  | c => c

/-- The text with its escapes undone. It is refused where an escape by number has less than four digits. -/
def decode : List Char → Option (List Nat)
  | [] => some []
  | '\\' :: 'u' :: a :: b :: c :: d :: rest => do
    let n ← hexNumber? [a, b, c, d]
    (decode rest).map (n :: ·)
  | '\\' :: c :: rest => if c = 'u' then none else (decode rest).map (units [shortEscape c] ++ ·)
  | ['\\'] => some []
  | c :: rest => (decode rest).map (units [c] ++ ·)

def setting? : Line → Option (List Char × List Char)
  | .setting [] => none
  | .passed => none
  | .setting text =>
    let (key, after) := cutKey false text
    some (key, valueOf after)

def decodeSetting (setting : List Char × List Char) : Option (List Nat × List Nat) :=
  (decode setting.1).bind fun key => (decode setting.2).map (key, ·)

/-- What a file of settings sets, in the order in which it does so. -/
def load (s : List Char) : Option (List (List Nat × List Nat)) := ((lines s).filterMap setting?).mapM decodeSetting

/- Backslashes -/

theorem isOpenAppend {s : List Char} (closed : isOpen s = false) (t : List Char) : isOpen (s ++ t) = isOpen t := by
  unfold isOpen at *
  rw [List.foldl_append, closed]

theorem openLast {s : List Char} (isopen : isOpen s = true) : ∃ t, s = t ++ ['\\'] ∧ isOpen t = false := by
  rcases List.eq_nil_or_concat s with rfl | ⟨t, c, rfl⟩
  · simp [isOpen] at isopen
  · simp only [isOpen, List.concat_eq_append, List.foldl_append, List.foldl_cons, List.foldl_nil, Bool.and_eq_true,
      beq_iff_eq, Bool.not_eq_true'] at isopen
    exact ⟨t, by simp [isopen.1], isopen.2⟩

theorem isOpenSpared {s : List Char} (spared : '\\' ∉ s) : isOpen s = false := by
  rcases List.eq_nil_or_concat s with rfl | ⟨t, c, rfl⟩
  · rfl
  · have other : c ≠ '\\' := fun same => spared (by simp [same])
    simp [isOpen, other]

theorem openTrimmed (s : List Char) : isOpen (s.dropWhile isSpace) = isOpen s := by
  have spared : '\\' ∉ s.takeWhile isSpace := fun within => by
    simpa [isSpace] using List.mem_takeWhile_imp within
  rw [← isOpenAppend (isOpenSpared spared), List.takeWhile_append_dropWhile]

/- Lines -/

theorem breaksUnified {s : List Char} : '\r' ∉ unifyBreaks s := by
  fun_induction unifyBreaks s with
  | case1 rest ih => simp [ih]
  | case2 c rest _ ih =>
    split
    · simp [ih]
    · next other => simp [ih, Ne.symm other]
  | case3 => simp

theorem breaksKept {s : List Char} (spared : '\r' ∉ s) : unifyBreaks s = s := by
  fun_induction unifyBreaks s with
  | case1 => simp at spared
  | case2 c rest _ ih =>
    simp only [List.mem_cons, not_or] at spared
    simp [ih spared.2, Ne.symm spared.1]
  | case3 => rfl

/-- Whether a text can stand in a line: it has no breaks and leaves the one behind it alone. -/
def KeepsLine (s : List Char) : Prop := '\n' ∉ s ∧ '\r' ∉ s ∧ isOpen s = false
instance (s : List Char) : Decidable (KeepsLine s) := inferInstanceAs (Decidable (_ ∧ _ ∧ _))

def lineOf (s : List Char) : Line := if isPassed s then .passed else .setting (s.dropWhile isSpace)

theorem linesKept {parts : List (List Char)} (kept : ∀ s ∈ parts, isOpen s = false) :
    linesFrom none parts = parts.map lineOf := by
  induction parts with
  | nil => rfl
  | cons s rest ih =>
    have tail := ih fun t member => kept t (List.mem_cons_of_mem _ member)
    have head := kept s List.mem_cons_self
    by_cases passed : isPassed s <;> simp [linesFrom, lineOf, passed, head, tail]

theorem settingKept {begun : Option (List Char)} {parts : List (List Char)} {text : List Char}
    (start : ∀ s ∈ begun, KeepsLine s) (unbroken : ∀ s ∈ parts, '\n' ∉ s ∧ '\r' ∉ s)
    (member : .setting text ∈ linesFrom begun parts) : KeepsLine text := by
  have trimmed {s : List Char} {c : Char} (absent : c ∉ s) : c ∉ s.dropWhile isSpace := fun within =>
    absent ((List.dropWhile_suffix _).subset within)
  have closed {s : List Char} (unbroken : '\n' ∉ s ∧ '\r' ∉ s) (isopen : isOpen s = true) : KeepsLine s.dropLast := by
    obtain ⟨t, rfl, closed⟩ := openLast isopen
    simp only [List.mem_append, not_or] at unbroken
    simp [KeepsLine, closed, unbroken]
  fun_induction linesFrom begun parts with
  | case1 => simp at member
  | case2 begun =>
    obtain rfl : text = begun := by simpa using member
    exact start text rfl
  | case3 s rest passed ih =>
    exact ih (by simp) (fun t inside => unbroken t (List.mem_cons_of_mem _ inside)) (by simpa using member)
  | case4 s rest passed isopen ih =>
    have here := unbroken s List.mem_cons_self
    refine ih ?_ (fun t inside => unbroken t (List.mem_cons_of_mem _ inside)) member
    simpa using closed ⟨trimmed here.1, trimmed here.2⟩ (by rwa [openTrimmed])
  | case5 s rest passed even ih =>
    have here := unbroken s List.mem_cons_self
    rcases List.mem_cons.1 member with same | later
    · obtain rfl := Line.setting.inj same
      exact ⟨trimmed here.1, trimmed here.2, by simpa [openTrimmed] using even⟩
    · exact ih (by simp) (fun t inside => unbroken t (List.mem_cons_of_mem _ inside)) later
  | case6 begun s rest whole isopen ih =>
    have here := unbroken s List.mem_cons_self
    have before := start begun rfl
    refine ih ?_ (fun t inside => unbroken t (List.mem_cons_of_mem _ inside)) member
    simpa using closed ⟨by simp [whole, before.1, trimmed here.1], by simp [whole, before.2.1, trimmed here.2]⟩ isopen
  | case7 begun s rest whole even ih =>
    have here := unbroken s List.mem_cons_self
    have before := start begun rfl
    rcases List.mem_cons.1 member with same | later
    · obtain rfl := Line.setting.inj same
      exact ⟨by simp [whole, before.1, trimmed here.1], by simp [whole, before.2.1, trimmed here.2], by simpa using even⟩
    · exact ih (by simp) (fun t inside => unbroken t (List.mem_cons_of_mem _ inside)) later

/-- No line of a file, as it is read, holds a break or lets the line behind it go on. -/
theorem linesKeep {s text : List Char} (member : .setting text ∈ lines s) : KeepsLine text := by
  refine settingKept (by simp) (fun part inside => ⟨splitAtAbsent inside, fun within => ?_⟩) member
  exact breaksUnified (splitAtWithin inside within)

theorem keepsAppend {s : List Char} (kept : KeepsLine s) (t : List Char) : KeepsLine (s ++ t) ↔ KeepsLine t := by
  unfold KeepsLine at *
  rw [isOpenAppend kept.2.2]
  simp [kept.1, kept.2.1]

theorem linesJoined {parts : List (List Char)} (some : parts ≠ []) (kept : ∀ s ∈ parts, KeepsLine s) :
    lines (['\n'].intercalate parts) = parts.map lineOf := by
  have unbroken : '\r' ∉ ['\n'].intercalate parts :=
    intercalateAbsent (by decide) fun s member => (kept s member).2.1
  rw [lines, breaksKept unbroken, splitAtIntercalate some fun s member => (kept s member).1]
  exact linesKept fun s member => (kept s member).2.2

/- Keys and values -/

theorem decodePlain {s : List Char} (plain : '\\' ∉ s) (t : List Char) :
    decode (s ++ t) = (decode t).map (units s ++ ·) := by
  induction s with
  | nil => simp [units]
  | cons c rest ih =>
    simp only [List.mem_cons, not_or] at plain
    have step : decode (c :: (rest ++ t)) = (decode (rest ++ t)).map (units [c] ++ ·) := by
      rw [decode.eq_def]
      split <;> simp_all
    rw [List.cons_append, step, ih plain.2, Option.map_map]
    congr 1
    funext x
    simp [units]

theorem decodeWhole {s : List Char} (plain : '\\' ∉ s) : decode s = some (units s) := by
  simpa [decode] using decodePlain plain []

theorem decodeKey {key : String} (plain : '\\' ∉ key.toList) (value : List Char) :
    decodeSetting (key.toList, value) = (decode value).map (units key.toList, ·) := by
  simp [decodeSetting, decodeWhole plain]

theorem decodeFixed {key value : String} (plain : '\\' ∉ key.toList ∧ '\\' ∉ value.toList)
    (trimmed : value.toList.dropWhile isSpace = value.toList) :
    decodeSetting (key.toList, value.toList.dropWhile isSpace) = some (units key.toList, units value.toList) := by
  simp [trimmed, decodeKey plain.1, decodeWhole plain.2]

theorem decodeOther {c : Char} (other : c ≠ 'u') (s : List Char) :
    (decode ('\\' :: c :: s)).isSome = (decode s).isSome := by
  simp [decode, other]

theorem decodePlainCons {c : Char} (other : c ≠ '\\') (s : List Char) :
    (decode (c :: s)).isSome = (decode s).isSome := by
  have read := decodePlain (s := [c]) (by simpa using other.symm) s
  rw [List.singleton_append] at read
  simp [read]

def isHex (c : Char) : Bool := (hexValue? c).isSome

theorem hexNumberSome (s : List Char) : (hexNumber? s).isSome = s.all isHex := by
  unfold hexNumber?
  generalize 0 = start
  induction s generalizing start with
  | nil => rfl
  | cons c rest ih =>
    rw [List.foldlM_cons, List.all_cons, isHex]
    cases hexValue? c with
    | none => rfl
    | some n => simpa using ih _

theorem takeWhileFour {α : Type} (p : α → Bool) (a b c d : α) (rest : List α) :
    decide (4 ≤ ((a :: b :: c :: d :: rest).takeWhile p).length) = [a, b, c, d].all p := by
  simp only [List.takeWhile_cons, List.all_cons, List.all_nil]
  cases p a <;> [rfl; cases p b <;> [rfl; cases p c <;> [rfl; cases p d <;> simp]]]

theorem decodeNumber (s : List Char) : (decode ('\\' :: 'u' :: s)).isSome =
    (decide (4 ≤ (s.takeWhile isHex).length) && (decode (s.drop 4)).isSome) := by
  rcases s with _ | ⟨a, _ | ⟨b, _ | ⟨c, _ | ⟨d, rest⟩⟩⟩⟩
  case cons.cons.cons.cons =>
    rw [takeWhileFour, ← hexNumberSome]
    cases number : hexNumber? [a, b, c, d] <;> simp [decode, number]
  all_goals
    rw [decide_eq_false, Bool.false_and]
    · simp [decode]
    · refine Nat.not_le.2 (Nat.lt_of_le_of_lt (List.takeWhile_sublist isHex).length_le ?_)
      simp

theorem cutKeyPlain {key : List Char} (plain : ∀ c ∈ key, c ≠ '\\' ∧ c ≠ '=' ∧ c ≠ ':' ∧ isSpace c = false)
    (value : List Char) : cutKey false (key ++ '=' :: value) = (key, '=' :: value) := by
  induction key with
  | nil => simp [cutKey]
  | cons c rest ih =>
    have tail := ih fun d member => plain d (List.mem_cons_of_mem _ member)
    obtain ⟨backslash, equals, colon, space⟩ := plain c List.mem_cons_self
    have unescaped : (c == '\\' && !false) = false := by simpa using backslash
    simp only [List.cons_append, cutKey, unescaped, tail]
    simp [equals, colon, space]

/-- A key of plain characters, with which a line can start. -/
def IsKey (key : List Char) : Prop :=
  key.head?.any (fun c => c != '#' && c != '!') = true ∧
    ∀ c ∈ key, c ≠ '\\' ∧ c ≠ '=' ∧ c ≠ ':' ∧ isSpace c = false
instance (key : List Char) : Decidable (IsKey key) := @instDecidableAnd _ _ _ (List.decidableBAll _ _)

theorem settingLine {key : List Char} (plain : IsKey key) (value : List Char) :
    lineOf (key ++ '=' :: value) = .setting (key ++ '=' :: value) ∧
      setting? (.setting (key ++ '=' :: value)) = some (key, value.dropWhile isSpace) := by
  obtain ⟨start, plain⟩ := plain
  cases key with
  | nil => simp at start
  | cons c rest =>
    have cut := cutKeyPlain plain value
    have unspaced := (plain c List.mem_cons_self).2.2.2
    have trimmed : (c :: rest ++ '=' :: value).dropWhile isSpace = c :: rest ++ '=' :: value := by simp [unspaced]
    have kept : isPassed (c :: rest ++ '=' :: value) = false := by
      rw [isPassed, trimmed]
      simpa using start
    have valued : valueOf ('=' :: value) = value.dropWhile isSpace := by simp [valueOf, isSpace]
    refine ⟨by rw [lineOf, kept, trimmed]; rfl, ?_⟩
    simp only [List.cons_append] at cut ⊢
    simp [setting?, cut, valued]

/-- A line that sets a key to a value, or an empty one. -/
def written : Option (List Char × List Char) → List Char
  | none => []
  | some (key, value) => key ++ '=' :: value

theorem settingsWritten {entries : List (Option (List Char × List Char))}
    (keys : ∀ entry ∈ entries, ∀ setting ∈ entry, IsKey setting.1) :
    ((entries.map written).map lineOf).filterMap setting? =
      (entries.filterMap id).map fun (key, value) => (key, value.dropWhile isSpace) := by
  induction entries with
  | nil => rfl
  | cons entry rest ih =>
    have tail := ih fun other member => keys other (List.mem_cons_of_mem _ member)
    cases entry with
    | none =>
      have passed : setting? (lineOf (written none)) = none := rfl
      rw [List.map_cons, List.map_cons, List.filterMap_cons_none passed, tail]
      rfl
    | some setting =>
      obtain ⟨line, read⟩ := settingLine (keys _ List.mem_cons_self setting rfl) setting.2
      simp only [List.map_cons, written, line, List.filterMap_cons_some read, tail]
      rfl

end ClassScaffold.Text.Setting
