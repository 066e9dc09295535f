/-!
Bytes of a text in UTF-8. Reading takes the longest start of a well-formed sequence at every place;
where it cannot be completed, it is one ill-formed unit.
-/
namespace ClassScaffold.Text.Utf8

abbrev Bytes := List UInt8

def encode (s : String) : Bytes := s.toUTF8.data.toList

def lead (b : UInt8) : Option (Nat × List (UInt8 × UInt8)) :=
  let any : UInt8 × UInt8 := (0x80, 0xBF)
  let n := b.toNat
  if b < 0x80 then some (n, [])
  else if b < 0xC2 then none
  else if b < 0xE0 then some (n - 0xC0, [any])
  else if b = 0xE0 then some (0, [(0xA0, 0xBF), any])
  else if b = 0xED then some (0xD, [(0x80, 0x9F), any])
  else if b < 0xF0 then some (n - 0xE0, [any, any])
  else if b = 0xF0 then some (0, [(0x90, 0xBF), any, any])
  else if b < 0xF4 then some (n - 0xF0, [any, any, any])
  else if b = 0xF4 then some (4, [(0x80, 0x8F), any, any])
  else none

def complete (value : Nat) : List (UInt8 × UInt8) → Bytes → Option Nat × Nat
  | [], _ => (some value, 0)
  | _ :: _, [] => (none, 0)
  | (low, high) :: ranges, b :: rest =>
    if low ≤ b ∧ b ≤ high then
      let (result, taken) := complete (value * 64 + (b.toNat - 0x80)) ranges rest
      (result, taken + 1)
    else (none, 0)

def unit (b : UInt8) (rest : Bytes) : Option Char × Nat :=
  match lead b with
  | none => (none, 0)
  | some (value, ranges) =>
    let (result, taken) := complete value ranges rest
    (result.map Char.ofNat, taken)

def unitsFrom : Nat → Bytes → List (Option Char)
  | _, [] => []
  | passed + 1, _ :: rest => unitsFrom passed rest
  | 0, b :: rest =>
    let (c, taken) := unit b rest
    c :: unitsFrom taken rest

def units (bytes : Bytes) : List (Option Char) := unitsFrom 0 bytes

def decode? (bytes : Bytes) : Option String := ((units bytes).mapM id).map String.ofList

def decodeLossy (bytes : Bytes) : String :=
  String.ofList ((units bytes).map fun c => c.getD '\ufffd')

end ClassScaffold.Text.Utf8
