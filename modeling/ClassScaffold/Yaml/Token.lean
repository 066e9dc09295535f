import ClassScaffold.Text.Utf8
import ClassScaffold.Yaml.Scalar
/-!
The tokens of a YAML text. Indentation shows in tokens of its own: a block collection starts where a
line is indented more than the one around it and ends where a line is indented less. That a scalar was
a key is known only at the colon behind it, so a place where a key may have started is remembered, one
for every open bracket; it has to be on the line of its colon and less than 1025 bytes away.
-/
namespace ClassScaffold.Yaml
open ClassScaffold.Text.Utf8 (Bytes)

inductive Token
  | streamEnd
  | version (major minor : Nat)
  | tagHandle (handle : List Char) (target : Bytes)
  | documentStart
  | documentEnd
  | blockSequence
  | blockMapping
  | blockEnd
  | flowSequence
  | flowSequenceEnd
  | flowMapping
  | flowMappingEnd
  | blockEntry
  | flowEntry
  | key
  | value
  | reference (name : List Char)
  | anchor (name : List Char)
  | tag (handle : List Char) (suffix : Bytes)
  | scalar (text : List Char) (plain : Bool)
  deriving DecidableEq, Repr

structure Candidate where
  required : Bool
  tokenNumber : Nat
  index : Nat
  line : Nat
  column : Nat
  deriving DecidableEq, Repr

structure Scan where
  cursor : Cursor
  /-- The column of the innermost block collection, then of those around it; none is -1. -/
  indents : List Int
  candidates : List (Option Candidate)
  keyAllowed : Bool
  tokens : List Token
  tokenCount : Nat

namespace Scan

def start (text : List Char) : Scan := ⟨.start text, [], [none], true, [], 0⟩

def indent (s : Scan) : Int := s.indents.headD (-1)

def inFlow (s : Scan) : Bool :=
  match s.candidates with
  | _ :: _ :: _ => true
  | _ => false

def push (s : Scan) (t : Token) : Scan :=
  { s with tokens := t :: s.tokens, tokenCount := s.tokenCount + 1 }

def insertAt (s : Scan) (number : Nat) (t : Token) : Scan :=
  let later := s.tokenCount - number
  { s with
    tokens := s.tokens.take later ++ t :: s.tokens.drop later
    tokenCount := s.tokenCount + 1 }

def moveTo (s : Scan) (c : Cursor) : Scan := { s with cursor := c }

def advance (s : Scan) (n : Nat) : Scan := s.moveTo (s.cursor.advance n)

def allow (s : Scan) (allowed : Bool) : Scan := { s with keyAllowed := allowed }

/- Places where a key may have started -/

def setCandidate (s : Scan) (candidate : Option Candidate) : Scan :=
  { s with candidates := candidate :: s.candidates.drop 1 }

def dropCandidate (s : Scan) : Option Scan :=
  match s.candidates.headD none with
  | some candidate => if candidate.required then none else some (s.setCandidate none)
  | none => some s

def saveCandidate (s : Scan) : Option Scan :=
  if s.keyAllowed then do
    let c := s.cursor
    let required := !s.inFlow && s.indent == (c.column : Int)
    let s ← s.dropCandidate
    some (s.setCandidate (some ⟨required, s.tokenCount, c.index, c.line, c.column⟩))
  else some s

def Candidate.reaches (k : Candidate) (c : Cursor) : Bool :=
  k.line == c.line && c.index ≤ k.index + 1024

/- Indentation -/

def indentTo (s : Scan) (column : Nat) (number : Option Nat) (t : Token) : Scan :=
  if !s.inFlow && s.indent < (column : Int) then
    let s := { s with indents := (column : Int) :: s.indents }
    match number with
    | some n => s.insertAt n t
    | none => s.push t
  else s

def unindentTo (s : Scan) (column : Int) : Scan :=
  if s.inFlow then s
  else
    let ended := s.indents.takeWhile (column < ·)
    { s with
      indents := s.indents.drop ended.length
      tokens := List.replicate ended.length .blockEnd ++ s.tokens
      tokenCount := s.tokenCount + ended.length }

/- Between tokens -/

def skipFiller : Nat → Scan → Scan
  | 0, s => s
  | steps + 1, s =>
    let c := s.cursor
    let c := if c.column == 0 && c.is byteOrderMark then c.advance 1 else c
    let c := c.skipWhile fun x => x == ' ' || ((s.inFlow || !s.keyAllowed) && x == '\t')
    let c := if c.is '#' then c.skipToBreak else c
    if c.atBreak then
      skipFiller steps ((s.moveTo c.skipBreak).allow (s.keyAllowed || !s.inFlow))
    else s.moveTo c

/- Directives -/

def number (c : Cursor) : Option (Nat × Cursor) :=
  let digits := c.rest.takeWhile fun x => '0' ≤ x && x ≤ '9'
  if digits.isEmpty || digits.length > 9 then none
  else some (digits.foldl (fun n x => n * 10 + (x.toNat - '0'.toNat)) 0, c.advance digits.length)

def versionValue (c : Cursor) : Option (Token × Cursor) := do
  let (major, c) ← number c.skipBlanks
  if !c.is '.' then none
  else
    let (minor, c) ← number (c.advance 1)
    some (.version major minor, c)

/- Tags -/

def isUriChar (verbatim : Bool) (c : Char) : Bool :=
  isWordChar c || ";/?:@&=+$.!~*'()%".toList.contains c
    || (verbatim && (c == ',' || c == '[' || c == ']'))

def uriOctet (s : List Char) : Option Nat :=
  match s with
  | '%' :: a :: b :: _ => Text.hexNumber? [a, b]
  | _ => none

def octetCount (n : Nat) : Option Nat :=
  if n < 0x80 then some 1
  else if 0xC0 ≤ n && n < 0xE0 then some 2
  else if 0xE0 ≤ n && n < 0xF0 then some 3
  else if 0xF0 ≤ n && n < 0xF8 then some 4
  else none

def uriEscape (s : List Char) : Option Nat := do
  let count ← octetCount (← uriOctet s)
  let rest := (List.range (count - 1)).map fun i => uriOctet (s.drop (3 * (i + 1)))
  if rest.all fun octet => octet.any fun n => n / 0x40 == 2 then some (3 * count) else none

def uriLength (verbatim : Bool) : Nat → List Char → Option Nat
  | 0, _ => some 0
  | steps + 1, s =>
    match s with
    | [] => some 0
    | c :: rest =>
      if c == '%' then do
        let n ← uriEscape s
        (uriLength verbatim steps (s.drop n)).map (· + n)
      else if isUriChar verbatim c then (uriLength verbatim steps rest).map (· + 1)
      else some 0

def uri (verbatim : Bool) (c : Cursor) : Option (List Char × Cursor) := do
  let n ← uriLength verbatim c.rest.length c.rest
  some (c.rest.take n, c.advance n)

def octetsFrom : Nat → List Char → Bytes
  | _, [] => []
  | passed + 1, _ :: rest => octetsFrom passed rest
  | 0, c :: rest =>
    match uriOctet (c :: rest) with
    | some n => UInt8.ofNat n :: octetsFrom 2 rest
    | none => String.utf8EncodeChar c ++ octetsFrom 0 rest

def octets (s : List Char) : Bytes := (octetsFrom 0 s).takeWhile (· != 0)

def bareTag : Bytes := [0x21]

def handle (c : Cursor) : Option (List Char × Cursor) :=
  if !c.is '!' then none
  else
    let word := (c.rest.drop 1).takeWhile isWordChar
    let c := c.advance (word.length + 1)
    if c.is '!' then some ('!' :: word ++ ['!'], c.advance 1) else some ('!' :: word, c)

def isHandle (h : List Char) : Bool := h.length > 1 && h.getLast? == some '!'

def tag (c : Cursor) : Option (Token × Cursor) :=
  if c.at? 1 == some '<' then do
    let (suffix, c) ← uri true (c.advance 2)
    if suffix.isEmpty || !c.is '>' then none else some (.tag [] (octets suffix), c.advance 1)
  else do
    let (h, c) ← handle c
    let (suffix, c) ← uri false c
    if isHandle h then
      if suffix.isEmpty then none else some (.tag h (octets suffix), c)
    else
      let suffix := octets (h.drop 1 ++ suffix)
      some (if suffix.isEmpty then .tag [] bareTag else .tag ['!'] suffix, c)

def tagHandleValue (c : Cursor) : Option (Token × Cursor) := do
  let (h, c) ← handle c.skipBlanks
  if !(isHandle h || h == ['!']) || !c.peek.any isBlank then none
  else
    let (target, c) ← uri true c.skipBlanks
    if target.isEmpty || !endsWord c.peek then none else some (.tagHandle h (octets target), c)

def directive (c : Cursor) : Option (Token × Cursor) := do
  let name := (c.rest.drop 1).takeWhile isWordChar
  let c := c.advance (name.length + 1)
  if !endsWord c.peek then none
  else
    let (t, c) ← if name == "YAML".toList then versionValue c
      else if name == "TAG".toList then tagHandleValue c else none
    let c ← Block.endLine c
    some (t, c)

/- Tokens, each of them from its first character on -/

def takeEnd (s : Scan) : Option Scan := do
  let s ← (s.unindentTo (-1)).dropCandidate
  some (s.push .streamEnd)

def takeDirective (s : Scan) : Option Scan := do
  let s ← (s.unindentTo (-1)).dropCandidate
  let (t, c) ← directive s.cursor
  some (((s.moveTo c).allow false).push t)

def takeDocumentMark (s : Scan) (t : Token) : Option Scan := do
  let s ← (s.unindentTo (-1)).dropCandidate
  some (((s.advance 3).allow false).push t)

def openFlow (s : Scan) (t : Token) : Option Scan := do
  let s ← s.saveCandidate
  some ((({ s with candidates := none :: s.candidates }.advance 1).allow true).push t)

def closeFlow (s : Scan) (t : Token) : Option Scan := do
  let s ← s.dropCandidate
  let s := if s.inFlow then { s with candidates := s.candidates.drop 1 } else s
  some (((s.advance 1).allow false).push t)

def takeFlowEntry (s : Scan) : Option Scan := do
  let s ← s.dropCandidate
  some (((s.advance 1).allow true).push .flowEntry)

def takeBlockEntry (s : Scan) : Option Scan := do
  if !s.inFlow && !s.keyAllowed then none
  else
    let s ← (s.indentTo s.cursor.column none .blockSequence).dropCandidate
    some (((s.advance 1).allow true).push .blockEntry)

def takeKey (s : Scan) : Option Scan := do
  if !s.inFlow && !s.keyAllowed then none
  else
    let s ← (s.indentTo s.cursor.column none .blockMapping).dropCandidate
    some (((s.advance 1).allow (!s.inFlow)).push .key)

def takeValue (s : Scan) : Option Scan := do
  match s.candidates.headD none with
  | some k =>
    if Candidate.reaches k s.cursor then
      let s := (s.insertAt k.tokenNumber .key).indentTo k.column (some k.tokenNumber) .blockMapping
      some ((((s.setCandidate none).allow false).advance 1).push .value)
    else if k.required then none
    else bare (s.setCandidate none)
  | none => bare s
where
  bare (s : Scan) : Option Scan :=
    if s.inFlow then some (((s.allow false).advance 1).push .value)
    else if !s.keyAllowed then none
    else some ((((s.indentTo s.cursor.column none .blockMapping).allow true).advance 1).push .value)

def takeName (s : Scan) (t : List Char → Token) : Option Scan := do
  let s ← s.saveCandidate
  let name := (s.cursor.rest.drop 1).takeWhile isWordChar
  let s := (s.advance (name.length + 1)).allow false
  let next := s.cursor.peek
  if !name.isEmpty && (endsWord next || next.any "?:,]\x7d%@`".toList.contains) then
    some (s.push (t name))
  else none

def takeTag (s : Scan) : Option Scan := do
  let s ← s.saveCandidate
  let (t, c) ← tag s.cursor
  if endsWord c.peek || (s.inFlow && c.is ',') then some (((s.moveTo c).allow false).push t)
  else none

def takeBlockScalar (s : Scan) (folded : Bool) (steps : Nat) : Option Scan := do
  let s ← s.dropCandidate
  let r ← Block.read folded s.indent steps s.cursor
  some (((s.moveTo r.next).allow true).push (.scalar r.text false))

def takeQuoted (s : Scan) (double : Bool) (steps : Nat) : Option Scan := do
  let s ← s.saveCandidate
  let r ← Quoted.read double steps s.cursor
  some (((s.moveTo r.next).allow false).push (.scalar r.text false))

def takePlain (s : Scan) (steps : Nat) : Option Scan := do
  let s ← s.saveCandidate
  let r ← Plain.read s.inFlow (s.indent + 1) steps s.cursor
  some (((s.moveTo r.next).allow r.crossed).push (.scalar r.text true))

def isIndicator (c : Char) : Bool := "-?:,[]\x7b\x7d#&*!|>'\"%@`".toList.contains c

def startsPlain (s : Scan) (c : Char) (next : Option Char) : Bool :=
  (!isGap c && !isIndicator c) || (c == '-' && !next.any isBlank)
    || (!s.inFlow && (c == '?' || c == ':') && !endsWord next)

def takeNext (s : Scan) (c : Char) (steps : Nat) : Option Scan :=
  let next := s.cursor.at? 1
  if s.cursor.column == 0 && c == '%' then s.takeDirective
  else if s.cursor.marked '-' then s.takeDocumentMark .documentStart
  else if s.cursor.marked '.' then s.takeDocumentMark .documentEnd
  else if c == '[' then s.openFlow .flowSequence
  else if c == '\x7b' then s.openFlow .flowMapping
  else if c == ']' then s.closeFlow .flowSequenceEnd
  else if c == '\x7d' then s.closeFlow .flowMappingEnd
  else if c == ',' then s.takeFlowEntry
  else if c == '-' && endsWord next then s.takeBlockEntry
  else if c == '?' && (s.inFlow || endsWord next) then s.takeKey
  else if c == ':' && (s.inFlow || endsWord next) then s.takeValue
  else if c == '*' then s.takeName .reference
  else if c == '&' then s.takeName .anchor
  else if c == '!' then s.takeTag
  else if c == '|' && !s.inFlow then s.takeBlockScalar false steps
  else if c == '>' && !s.inFlow then s.takeBlockScalar true steps
  else if c == '\'' then s.takeQuoted false steps
  else if c == '"' then s.takeQuoted true steps
  else if s.startsPlain c next then s.takePlain steps
  else none

/-- Every token but the last one takes at least one character, so the steps that remain are always more
than the characters that are left. -/
def run : Nat → Scan → Option (List Token)
  | 0, _ => none
  | steps + 1, s =>
    let s := s.skipFiller steps.succ
    let s := s.unindentTo s.cursor.column
    match s.cursor.peek with
    | none => s.takeEnd.map fun s => s.tokens.reverse
    | some c => (s.takeNext c steps.succ).bind (run steps)

end Scan

def Token.ofText (text : String) : Option (List Token) :=
  let s := text.toList
  if s.all isAllowed then Scan.run (s.length + 1) (.start s) else none

end ClassScaffold.Yaml
