import ClassScaffold.Decimal.Shortest
import ClassScaffold.Json.Fault
/-!
Numbers of a JSON text. A number is an integer when it has neither fraction nor exponent and fits 64
bits, signed or not; all others, and minus zero, are floating-point numbers. Digits that a 64-bit
significand cannot hold are dropped, and the significand is scaled by powers of ten of at most 308 at
a time.
-/
namespace ClassScaffold.Json

inductive Number
  | integer (value : Int)
  | float (bits : UInt64)
  deriving DecidableEq, Repr

def isDigit (c : Char) : Bool := '0' ≤ c && c ≤ '9'

def digitValue (c : Char) : Nat := c.toNat - '0'.toNat

namespace Number

def absorb (significand : Nat) : List Char → Nat × Nat
  | [] => (significand, 0)
  | c :: rest =>
    let next := significand * 10 + digitValue c
    if next < Nat.pow 2 64 then
      let (all, taken) := absorb next rest
      (all, taken + 1)
    else (significand, 0)

def powerOfTen (n : Nat) : Float := Float.ofScientific 1 false n

def scale : Nat → Float → Int → Except Fault Float
  | 0, f, _ => .ok f
  | steps + 1, f, exponent =>
    if exponent.natAbs ≤ 308 then
      if 0 ≤ exponent then
        let scaled := f * powerOfTen exponent.natAbs
        if scaled.isInf then .error .numberOutOfRange else .ok scaled
      else .ok (f / powerOfTen exponent.natAbs)
    else if f == 0.0 then .ok f
    else if 0 ≤ exponent then .error .numberOutOfRange
    else scale steps (f / powerOfTen 308) (exponent + 308)

def ofParts (negative : Bool) (significand : Nat) (exponent : Int) : Except Fault Number := do
  let f ← scale 8 significand.toUInt64.toFloat exponent
  .ok (.float (if negative then -f else f).toBits)

def readExponent (negative : Bool) (significand : Nat) (shift : Int) (s : List Char) :
    Except Fault (Number × List Char) :=
  let (down, s) := match s with
    | '+' :: rest => (false, rest)
    | '-' :: rest => (true, rest)
    | _ => (false, s)
  let digits := s.takeWhile isDigit
  let rest := s.dropWhile isDigit
  if s.isEmpty then .error .endInValue
  else if digits.isEmpty then .error .invalidNumber
  else
    let exponent := digits.foldl (fun n c => n * 10 + digitValue c) 0
    if Nat.pow 2 31 ≤ exponent then
      if significand ≠ 0 && !down then .error .numberOutOfRange
      else (ofParts negative 0 0).map (·, rest)
    else (ofParts negative significand (if down then shift - exponent else shift + exponent)).map
      (·, rest)

def isExponentMark (c : Char) : Bool := c == 'e' || c == 'E'

def readFraction (negative : Bool) (significand : Nat) (dropped : Nat) (s : List Char) :
    Except Fault (Number × List Char) :=
  let digits := s.takeWhile isDigit
  let rest := s.dropWhile isDigit
  if digits.isEmpty then .error (if rest.isEmpty then .endInValue else .invalidNumber)
  else
    let (significand, taken) := absorb significand digits
    let shift : Int := (dropped : Int) - taken
    match rest with
    | c :: after =>
      if isExponentMark c then readExponent negative significand shift after
      else (ofParts negative significand shift).map (·, rest)
    | [] => (ofParts negative significand shift).map (·, rest)

def ofInteger (negative : Bool) (significand : Nat) : Except Fault Number :=
  if !negative then .ok (.integer significand)
  else if 1 ≤ significand && significand ≤ Nat.pow 2 63 then .ok (.integer (-(significand : Int)))
  else ofParts true significand 0

def readRest (negative : Bool) (significand dropped : Nat) (s : List Char) :
    Except Fault (Number × List Char) :=
  let plain := if dropped = 0 then ofInteger negative significand
    else ofParts negative significand dropped
  match s with
  | '.' :: rest => readFraction negative significand dropped rest
  | c :: rest =>
    if isExponentMark c then readExponent negative significand dropped rest else plain.map (·, s)
  | [] => plain.map (·, s)

def readDigits (negative : Bool) (s : List Char) : Except Fault (Number × List Char) :=
  match s with
  | [] => .error .endInValue
  | '0' :: rest =>
    if rest.head?.any isDigit then .error .invalidNumber else readRest negative 0 0 rest
  | _ =>
    let digits := s.takeWhile isDigit
    let (significand, taken) := absorb 0 digits
    if digits.isEmpty then .error .invalidNumber
    else readRest negative significand (digits.length - taken) (s.dropWhile isDigit)

def read : Reader Number
  | '-' :: rest => readDigits true rest
  | s => readDigits false s

def skipExponent (s : List Char) : Except Fault (List Char) :=
  let s := match s with
    | '+' :: rest | '-' :: rest => rest
    | _ => s
  if s.head?.any isDigit then .ok (s.dropWhile isDigit) else .error .invalidNumber

def skipFraction (s : List Char) : Except Fault (List Char) :=
  if s.head?.any isDigit then
    match s.dropWhile isDigit with
    | c :: rest => if isExponentMark c then skipExponent rest else .ok (c :: rest)
    | [] => .ok []
  else .error .invalidNumber

def skipRest : List Char → Except Fault (List Char)
  | '.' :: rest => skipFraction rest
  | c :: rest => if isExponentMark c then skipExponent rest else .ok (c :: rest)
  | [] => .ok []

def skipDigits : List Char → Except Fault (List Char)
  | '0' :: rest => if rest.head?.any isDigit then .error .invalidNumber else skipRest rest
  | s => if s.head?.any isDigit then skipRest (s.dropWhile isDigit) else .error .invalidNumber

def skip : List Char → Except Fault (List Char)
  | '-' :: rest => skipDigits rest
  | s => skipDigits s

/- How a floating-point number is shown -/

def figureText (f : Decimal.Figure) : List Char :=
  let digits := Nat.toDigits 10 f.digits
  let count : Int := digits.length
  let leading := count + f.exponent - 1
  if -5 ≤ leading && leading ≤ 15 then
    if 0 ≤ f.exponent then digits ++ List.replicate f.exponent.toNat '0' ++ ['.', '0']
    else if 0 ≤ leading then
      digits.take (leading.toNat + 1) ++ '.' :: digits.drop (leading.toNat + 1)
    else ['0', '.'] ++ List.replicate (-leading - 1).toNat '0' ++ digits
  else
    digits.take 1 ++ (if digits.length > 1 then '.' :: digits.drop 1 else []) ++ ['e']
      ++ (if leading < 0 then ['-'] else ['+']) ++ Nat.toDigits 10 leading.natAbs

def floatText (bits : UInt64) : String :=
  let n := bits.toNat
  let size := n % Nat.pow 2 63
  let text := if size = 0 then ['0', '.', '0'] else figureText (Decimal.shortestOfBits size)
  String.ofList (if n = size then text else '-' :: text)

def found : Number → Found
  | integer value => .integer value
  | float bits => .float (floatText bits)

end Number
end ClassScaffold.Json
