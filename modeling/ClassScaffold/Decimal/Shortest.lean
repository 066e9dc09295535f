/-!
The shortest decimal that reads back as a given binary number. A binary floating-point number is the
nearest one to all reals of an interval around it; among the decimals of that interval those with the
largest power of ten have the fewest digits, and of these the nearest one is taken.
-/
namespace ClassScaffold.Decimal

structure Ratio where
  num : Nat
  den : Nat
  deriving DecidableEq, Repr

def Ratio.le (a b : Ratio) : Bool := a.num * b.den ≤ b.num * a.den

def Ratio.lt (a b : Ratio) : Bool := a.num * b.den < b.num * a.den

def Ratio.scaled (n base : Nat) (exponent : Int) : Ratio :=
  if 0 ≤ exponent then ⟨n * Nat.pow base exponent.toNat, 1⟩ else ⟨n, Nat.pow base (-exponent).toNat⟩

structure Interval where
  low : Ratio
  value : Ratio
  high : Ratio
  closed : Bool
  deriving DecidableEq, Repr

def Interval.holds (i : Interval) (r : Ratio) : Bool :=
  if i.closed then i.low.le r && r.le i.high else i.low.lt r && r.lt i.high

/-- A normal number with the smallest mantissa has a neighbour below it at half the distance. -/
def Interval.ofBinary (mantissa : Nat) (exponent : Int) (halfGapBelow : Bool) : Interval :=
  let below := if halfGapBelow then 1 else 2
  ⟨.scaled (4 * mantissa - below) 2 (exponent - 2), .scaled mantissa 2 exponent,
    .scaled (4 * mantissa + 2) 2 (exponent - 2), mantissa % 2 = 0⟩

structure Figure where
  digits : Nat
  exponent : Int
  deriving DecidableEq, Repr

def neighbours (v : Ratio) (exponent : Int) : List Nat :=
  let unit := Ratio.scaled 1 10 exponent
  let floor := (v.num * unit.den) / (v.den * unit.num)
  let middle := Ratio.scaled (2 * floor + 1) 10 exponent
  if v.lt ⟨middle.num, middle.den * 2⟩ then [floor, floor + 1]
  else if v.le ⟨middle.num, middle.den * 2⟩ && floor % 2 = 0 then [floor, floor + 1]
  else [floor + 1, floor]

def searchFrom (i : Interval) : Nat → Int → Figure
  | 0, exponent => ⟨0, exponent⟩
  | steps + 1, exponent =>
    match (neighbours i.value exponent).find? fun d =>
        d != 0 && i.holds (.scaled d 10 exponent) with
    | some d => ⟨d, exponent⟩
    | none => searchFrom i steps (exponent - 1)

def shortestOfBits (bits : Nat) : Figure :=
  let fraction : Nat := bits % Nat.pow 2 52
  let power : Nat := bits / Nat.pow 2 52 % Nat.pow 2 11
  let interval :=
    if power = 0 then Interval.ofBinary fraction (-1074) false
    else Interval.ofBinary (Nat.pow 2 52 + fraction) ((power : Int) - 1075) (fraction = 0 && power > 1)
  searchFrom interval 700 310

end ClassScaffold.Decimal
