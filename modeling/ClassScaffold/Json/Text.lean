import ClassScaffold.Json.Fault
import ClassScaffold.Text.Hex
/-!
Strings of a JSON text, read from behind the opening quote. A surrogate escape has to be one of a
pair; a string that is only passed over is not held to that.
-/
namespace ClassScaffold.Json.Text
open ClassScaffold.Text (hexNumber?)

/-- The value of the four hexadecimal digits at the front. A text of less than four bytes ends in its
string, whatever it holds. -/
def hexFour (s : List Char) : Except Fault Nat :=
  match s with
  | _ :: _ :: _ :: _ :: _ =>
    match hexNumber? (s.take 4) with
    | some n => .ok n
    | none => .error .invalidEscape
  | _ =>
    if (s.flatMap String.utf8EncodeChar).length < 4 then .error .endInString
    else .error .invalidEscape

def shortEscape? : Char → Option Char
  | '"' => some '"'
  | '\\' => some '\\'
  | '/' => some '/'
  | 'b' => some '\x08'
  | 'f' => some '\x0c'
  | 'n' => some '\n'
  | 'r' => some '\r'
  | 't' => some '\t'
  | _ => none

def isLeading (n : Nat) : Bool := 0xD800 ≤ n && n ≤ 0xDBFF

def isTrailing (n : Nat) : Bool := 0xDC00 ≤ n && n ≤ 0xDFFF

def unicodeEscape (s : List Char) : Except Fault (Char × Nat) := do
  let n ← hexFour s
  if isTrailing n then .error .loneSurrogate
  else if !isLeading n then .ok (Char.ofNat n, 5)
  else
    match s.drop 4 with
    | [] | ['\\'] => .error .endInString
    | '\\' :: 'u' :: rest =>
      let m ← hexFour rest
      if isTrailing m then .ok (Char.ofNat ((n - 0xD800) * 0x400 + (m - 0xDC00) + 0x10000), 11)
      else .error .loneSurrogate
    | _ => .error .unpairedSurrogate

def escape : List Char → Except Fault (Char × Nat)
  | [] => .error .endInString
  | 'u' :: rest => unicodeEscape rest
  | c :: _ =>
    match shortEscape? c with
    | some x => .ok (x, 1)
    | none => .error .invalidEscape

def looseEscape : List Char → Except Fault Nat
  | [] => .error .endInString
  | 'u' :: rest => do
    let _ ← hexFour rest
    .ok 5
  | c :: _ => if (shortEscape? c).isSome then .ok 1 else .error .invalidEscape

def readFrom : Nat → Reader (List Char)
  | _, [] => .error .endInString
  | passed + 1, _ :: rest => readFrom passed rest
  | 0, c :: rest =>
    if c = '"' then .ok ([], rest)
    else if c = '\\' then do
      let (x, length) ← escape rest
      let (text, after) ← readFrom length rest
      .ok (x :: text, after)
    else if c.toNat < 0x20 then .error .controlCharacter
    else do
      let (text, after) ← readFrom 0 rest
      .ok (c :: text, after)

def read : Reader String := fun s => (readFrom 0 s).map fun (text, rest) => (String.ofList text, rest)

def skipFrom : Nat → List Char → Except Fault (List Char)
  | _, [] => .error .endInString
  | passed + 1, _ :: rest => skipFrom passed rest
  | 0, c :: rest =>
    if c = '"' then .ok rest
    else if c = '\\' then do
      let length ← looseEscape rest
      skipFrom length rest
    else if c.toNat < 0x20 then .error .controlCharacter
    else skipFrom 0 rest

def skip (s : List Char) : Except Fault (List Char) := skipFrom 0 s

end ClassScaffold.Json.Text
