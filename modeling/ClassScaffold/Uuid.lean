/-!
Random identifiers of version 4. Six of the 128 bits are fixed; they say which version it is.
-/
namespace ClassScaffold

structure Uuid where
  /-- The bits, of which the fixed ones and those above 128 do not count. -/
  number : Nat
  deriving DecidableEq, Repr

namespace Uuid

def digit (u : Uuid) (place : Nat) : Nat :=
  let written := u.number / Nat.pow 16 place % 16
  if place = 19 then 4 else if place = 15 then 8 + written % 4 else written

def digits (u : Uuid) : List Char :=
  ((List.range 32).reverse.map u.digit).map fun n => Nat.digitChar n

def groupLengths : List Nat := [8, 4, 4, 4, 12]

def cut : List Nat → List Char → List (List Char)
  | [], _ => []
  | n :: rest, cs => cs.take n :: cut rest (cs.drop n)

def text (u : Uuid) : String :=
  String.ofList (['-'].intercalate (cut groupLengths u.digits))

def isDigit (c : Char) : Bool := c.isDigit || ('a' ≤ c && c ≤ 'f')

def reads (s : String) : Bool :=
  match s.splitOn "-" with
  | [a, b, c, d, e] =>
    [a, b, c, d, e].map String.length == groupLengths
      && [a, b, c, d, e].all (fun part => part.toList.all isDigit)
      && c.toList.head? == some '4' && d.toList.head?.any (['8', '9', 'a', 'b'].contains ·)
  | _ => false

end Uuid
end ClassScaffold
