/-!
White space at the ends of a text. A character is blank when it has the Unicode property White_Space:
the next line, the no-break space and the ideographic space are blank, the zero-width space, the byte
order mark and the information separators are not.
-/
namespace ClassScaffold.Text

def isBlank (c : Char) : Bool :=
  let n := c.toNat
  (9 ≤ n && n ≤ 13) || n == 0x20 || n == 0x85 || n == 0xA0 || n == 0x1680
    || (0x2000 ≤ n && n ≤ 0x200A) || n == 0x2028 || n == 0x2029 || n == 0x202F || n == 0x205F
    || n == 0x3000

def trimStart (s : List Char) : List Char := s.dropWhile isBlank

def trimEnd (s : List Char) : List Char := (s.reverse.dropWhile isBlank).reverse

def trim (s : List Char) : List Char := trimEnd (trimStart s)

def trimmed (s : String) : String := String.ofList (trim s.toList)

@[simp] theorem toListTrimmed (s : String) : (trimmed s).toList = trim s.toList := by
  simp [trimmed]

end ClassScaffold.Text
