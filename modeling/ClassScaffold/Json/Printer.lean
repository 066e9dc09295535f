/-!
Writing JSON: strings with their escapes, arrays and objects with nothing between their parts but the
separators.
-/
namespace ClassScaffold.Json.Printer

def control (n : Nat) : List Char :=
  ['\\', 'u', '0', '0', Nat.digitChar (n / 16), Nat.digitChar (n % 16)]

def escape (c : Char) : List Char :=
  match c with
  | '"' => ['\\', '"']
  | '\\' => ['\\', '\\']
  | '\x08' => ['\\', 'b']
  | '\x0c' => ['\\', 'f']
  | '\n' => ['\\', 'n']
  | '\r' => ['\\', 'r']
  | '\t' => ['\\', 't']
  | _ => if c.toNat < 0x20 then control c.toNat else [c]

def string (s : String) : String := String.ofList ('"' :: s.toList.flatMap escape ++ ['"'])

def array (items : List String) : String := "[" ++ ",".intercalate items ++ "]"

def strings (items : List String) : String := array (items.map string)

def member (m : String × String) : String := string m.1 ++ ":" ++ m.2

def object (members : List (String × String)) : String :=
  "\x7b" ++ ",".intercalate (members.map member) ++ "\x7d"

end ClassScaffold.Json.Printer
