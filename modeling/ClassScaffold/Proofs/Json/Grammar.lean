import ClassScaffold.Json.Value
/-! What a text has to be like to be JSON, and which texts stand for a string or a list. Nothing here is computed
from a text: a value is put together from parts, with white space wherever it is allowed. -/
namespace ClassScaffold.Json

def IsSpaces (s : List Char) : Prop := ∀ c ∈ s, isSpace c = true

/- Strings -/

/-- Four digits in either case for a number of 16 bits. -/
def WritesUnit (n : Nat) (digits : List Char) : Prop :=
  n < 0x10000 ∧
    digits.map Char.toLower = [n / 0x1000, n / 0x100 % 0x10, n / 0x10 % 0x10, n % 0x10].map Nat.digitChar

def shortEscapes : List (Char × Char) := [('"', '"'), ('\\', '\\'), ('/', '/'), ('b', '\x08'), ('f', '\x0c'),
  ('n', '\n'), ('r', '\r'), ('t', '\t')]

/-- The ways to write a character in a string. One that does not fit 16 bits is escaped as two of them. -/
inductive WritesChar : Char → List Char → Prop
  | plain {c : Char} (printed : 0x20 ≤ c.toNat) (quote : c ≠ '"') (backslash : c ≠ '\\') : WritesChar c [c]
  | short {c letter : Char} (listed : (letter, c) ∈ shortEscapes) : WritesChar c ['\\', letter]
  | unit {c : Char} {digits : List Char} (one : WritesUnit c.toNat digits) : WritesChar c ('\\' :: 'u' :: digits)
  | pair {c : Char} {high low : List Char} (large : 0x10000 ≤ c.toNat)
    (first : WritesUnit (0xD800 + (c.toNat - 0x10000) / 0x400) high)
    (second : WritesUnit (0xDC00 + (c.toNat - 0x10000) % 0x400) low) :
    WritesChar c ('\\' :: 'u' :: (high ++ '\\' :: 'u' :: low))

inductive WritesText : List Char → List Char → Prop
  | nil : WritesText [] []
  | cons {c : Char} {s written more : List Char} (first : WritesChar c written) (rest : WritesText s more) :
    WritesText (c :: s) (written ++ more)

def WritesString (s : String) (text : List Char) : Prop :=
  ∃ written, WritesText s.toList written ∧ text = '"' :: (written ++ ['"'])

/-- A string that nobody reads: any number of 16 bits can be escaped, half of a pair as well. -/
inductive IsText : List Char → Prop
  | nil : IsText []
  | plain {c : Char} {more : List Char} (printed : 0x20 ≤ c.toNat) (quote : c ≠ '"') (backslash : c ≠ '\\')
    (rest : IsText more) : IsText (c :: more)
  | short {c letter : Char} {more : List Char} (listed : (letter, c) ∈ shortEscapes) (rest : IsText more) :
    IsText ('\\' :: letter :: more)
  | unit {n : Nat} {digits more : List Char} (one : WritesUnit n digits) (rest : IsText more) :
    IsText ('\\' :: 'u' :: (digits ++ more))

def IsString (s : List Char) : Prop := ∃ written, IsText written ∧ s = '"' :: (written ++ ['"'])

/- Numbers -/

def IsDigits (s : List Char) : Prop := s ≠ [] ∧ ∀ c ∈ s, isDigit c = true

def IsInteger (s : List Char) : Prop := s = ['0'] ∨ IsDigits s ∧ s.head? ≠ some '0'

def IsFraction (s : List Char) : Prop := s = [] ∨ ∃ digits, IsDigits digits ∧ s = '.' :: digits

def IsExponent (s : List Char) : Prop :=
  s = [] ∨ ∃ mark ∈ ['e', 'E'], ∃ sign ∈ [[], ['+'], ['-']], ∃ digits, IsDigits digits ∧ s = mark :: (sign ++ digits)

def IsNumber (s : List Char) : Prop :=
  ∃ sign ∈ [[], ['-']], ∃ whole fraction exponent, IsInteger whole ∧ IsFraction fraction ∧ IsExponent exponent ∧
    s = sign ++ (whole ++ (fraction ++ exponent))

/- Values -/

def IsScalar (s : List Char) : Prop :=
  s ∈ ["null".toList, "true".toList, "false".toList] ∨ IsString s ∨ IsNumber s

def opening : Bracket → Char
  | .list => '['
  | .object => '\x7b'

/-- What stands before a value in brackets: nothing in a list, a name and a colon in an object. -/
def IsLabel : Bracket → List Char → Prop
  | .list, s => s = []
  | .object, s => ∃ name before after, IsString name ∧ IsSpaces before ∧ IsSpaces after ∧
    s = name ++ (before ++ ':' :: after)

inductive Part
  | value
  | items (bracket : Bracket)

/-- Any well-formed value, however deep, or the values between two brackets. -/
inductive IsWritten : Part → List Char → Prop
  | scalar {s : List Char} (plain : IsScalar s) : IsWritten .value s
  | empty {bracket : Bracket} {s : List Char} (spaces : IsSpaces s) :
    IsWritten .value (opening bracket :: (s ++ [closing bracket]))
  | filled {bracket : Bracket} {s : List Char} (inner : IsWritten (.items bracket) s) :
    IsWritten .value (opening bracket :: (s ++ [closing bracket]))
  | last {bracket : Bracket} {before label value after : List Char} (lead : IsSpaces before)
    (labelled : IsLabel bracket label) (item : IsWritten .value value) (trail : IsSpaces after) :
    IsWritten (.items bracket) (before ++ (label ++ (value ++ after)))
  | more {bracket : Bracket} {before label value after rest : List Char} (lead : IsSpaces before)
    (labelled : IsLabel bracket label) (item : IsWritten .value value) (trail : IsSpaces after)
    (others : IsWritten (.items bracket) rest) :
    IsWritten (.items bracket) (before ++ (label ++ (value ++ (after ++ ',' :: rest))))

/- Lists of what is wanted -/

inductive WritesItems {α : Type} (item : α → List Char → Prop) : List α → List Char → Prop
  | last {x : α} {before text after : List Char} (lead : IsSpaces before) (first : item x text)
    (trail : IsSpaces after) : WritesItems item [x] (before ++ (text ++ after))
  | more {x : α} {xs : List α} {before text after rest : List Char} (lead : IsSpaces before) (first : item x text)
    (trail : IsSpaces after) (others : WritesItems item xs rest) :
    WritesItems item (x :: xs) (before ++ (text ++ (after ++ ',' :: rest)))

inductive WritesList {α : Type} (bracket : Bracket) (item : α → List Char → Prop) : List α → List Char → Prop
  | empty {s : List Char} (spaces : IsSpaces s) : WritesList bracket item [] (opening bracket :: (s ++ [closing bracket]))
  | filled {xs : List α} {s : List Char} (items : WritesItems item xs s) :
    WritesList bracket item xs (opening bracket :: (s ++ [closing bracket]))

def WritesMember (member : String × List Char) (text : List Char) : Prop :=
  ∃ name before after, WritesString member.1 name ∧ IsSpaces before ∧ IsSpaces after ∧
    text = name ++ (before ++ ':' :: (after ++ member.2))

/- What can stand behind a value -/

def IsEnd (s : List Char) : Prop := ∀ c ∈ s.head?, isSpace c = true ∨ c ∈ [',', ']', '\x7d']

theorem endSpaces {s : List Char} {c : Char} (spaces : IsSpaces s) (stop : c ∈ [',', ']', '\x7d']) (rest : List Char) :
    IsEnd (s ++ c :: rest) := by
  intro d head
  cases s with
  | nil =>
    obtain rfl : c = d := by simpa using head
    exact .inr stop
  | cons e more =>
    obtain rfl : e = d := by simpa using head
    exact .inl (spaces _ List.mem_cons_self)

theorem spacesSkipped {s : List Char} (spaces : IsSpaces s) {c : Char} (other : isSpace c = false)
    (rest : List Char) : skipSpace (s ++ c :: rest) = c :: rest := by
  rw [skipSpace, List.dropWhile_append_of_pos spaces]
  simp [other]

theorem itemsShort {α : Type} {item : α → List Char → Prop} {xs : List α} {s : List Char}
    (written : WritesItems item xs s) : xs.length ≤ s.length + 1 := by
  induction written with
  | last => simp
  | more _ _ _ _ ih =>
    simp only [List.length_cons, List.length_append]
    omega

end ClassScaffold.Json
