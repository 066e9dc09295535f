import ClassScaffold.Text.Cluster
/-!
The words of a name, and the two spellings built from them. Underscores, hyphens and spaces separate
words and vanish; a word also starts where the case changes or a digit meets a letter, so that
myHTTPServer2 has the words my, HTTP, Server and 2. Empty words are dropped.
-/
namespace ClassScaffold.Text

def isSeparator (g : List Char) : Bool := g == ['_'] || g == ['-'] || g == [' ']

def isDigits (g : List Char) : Bool := g.all fun c => '0' ≤ c && c ≤ '9'

def isUpper (g : List Char) : Bool := upperAll g != lowerAll g && g == upperAll g

def isLower (g : List Char) : Bool := upperAll g != lowerAll g && g == lowerAll g

def startsWord (before g : List Char) (after : Option (List Char)) : Bool :=
  (isLower before && isUpper g) || (isUpper before && isDigits g) || (isDigits before && isUpper g)
    || (isDigits before && isLower g) || (isLower before && isDigits g)
    || (isUpper before && isUpper g && after.any isLower)

/-- The words of the clusters that follow `before`. The first of them goes on with the word that `before`
is in, and is empty where nothing more belongs to it. -/
def wordsAfter (before : Option (List Char)) : List (List Char) → List Char × List (List Char)
  | [] => ([], [])
  | g :: rest =>
    let (word, others) := wordsAfter (some g) rest
    if isSeparator g then ([], word :: others)
    else if before.any (startsWord · g rest.head?) then ([], (g ++ word) :: others)
    else (g ++ word, others)

def words (s : List Char) : List (List Char) :=
  let (word, others) := wordsAfter none (clusters s)
  (word :: others).filter fun word => !word.isEmpty

def capitalizeWord : List Char → List Char
  | [] => []
  | c :: rest => upper c ++ lowerAll rest

def pascal (s : String) : String := String.ofList ((words s.toList).flatMap capitalizeWord)

def kebab (s : String) : String :=
  String.ofList (['-'].intercalate ((words s.toList).map lowerAll))

end ClassScaffold.Text
