/-!
File names that need no quoting anywhere: every character outside letters, digits, dot, underscore and
hyphen of ASCII is replaced by an underscore.
-/
namespace ClassScaffold.Text

def isSafe (c : Char) : Bool :=
  ('A' ≤ c && c ≤ 'Z') || ('a' ≤ c && c ≤ 'z') || ('0' ≤ c && c ≤ '9')
    || c == '.' || c == '_' || c == '-'

def safeName (s : String) : String :=
  String.ofList (s.toList.map fun c => if isSafe c then c else '_')

end ClassScaffold.Text
