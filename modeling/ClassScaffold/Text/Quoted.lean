import ClassScaffold.Text.Casing
import ClassScaffold.Text.Property.Cluster
import ClassScaffold.Text.Property.Printable
/-!
A text between double quotes, as it is shown in messages. Quotes, backslashes and the common controls
have short escapes; marks that would merge into the character before them and characters that show
nothing are written by their number.
-/
namespace ClassScaffold.Text

def isFiller (c : Char) : Bool :=
  let n := c.toNat
  n == 0x115F || n == 0x1160 || n == 0x3164 || n == 0xFFA0

def isSpacedMark (c : Char) : Bool := c.toNat == 0xFF9E || c.toNat == 0xFF9F

def isDistinct (c : Char) : Bool :=
  isSpacedMark c ||
    !(within Property.graphemeExtend c || within Property.unprintable c || isFiller c)

def escapeChar (c : Char) : List Char :=
  match c with
  | '\x00' => ['\\', '0']
  | '\t' => ['\\', 't']
  | '\n' => ['\\', 'n']
  | '\r' => ['\\', 'r']
  | '"' => ['\\', '"']
  | '\\' => ['\\', '\\']
  | _ =>
    if (0x20 ≤ c.toNat && c.toNat ≤ 0x7E) || isDistinct c then [c]
    else ['\\', 'u', '\x7b'] ++ Nat.toDigits 16 c.toNat ++ ['\x7d']

def quoted (s : String) : String := String.ofList ('"' :: s.toList.flatMap escapeChar ++ ['"'])

end ClassScaffold.Text
