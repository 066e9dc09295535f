/-!
Text inside markup. The five characters that markup gives a meaning are replaced, one after the other
over the whole text, by their entities; the ampersand goes first, so that no entity is escaped again.
-/
namespace ClassScaffold.Text.Markup

def entities : List (Char × List Char) :=
  [('&', "&amp;".toList), ('<', "&lt;".toList), ('>', "&gt;".toList), ('"', "&quot;".toList),
    ('\'', "&apos;".toList)]

def replace (c : Char) (written : List Char) (s : List Char) : List Char :=
  s.flatMap fun x => if x = c then written else [x]

def escape (s : List Char) : List Char :=
  entities.foldl (fun text (c, written) => replace c written text) s

def entity (c : Char) : List Char := (entities.lookup c).getD [c]

def readEntity (s : List Char) : Option (Char × List Char) :=
  entities.findSome? fun (c, written) => (written.isPrefixOf? s).map (c, ·)

def unescapeFrom : Nat → List Char → List Char
  | _, [] => []
  | passed + 1, _ :: rest => unescapeFrom passed rest
  | 0, c :: rest =>
    match readEntity (c :: rest) with
    | some (x, after) => x :: unescapeFrom (rest.length - after.length) rest
    | none => c :: unescapeFrom 0 rest

def unescape (s : List Char) : List Char := unescapeFrom 0 s

def escaped (s : String) : String := String.ofList (escape s.toList)

end ClassScaffold.Text.Markup
