import ClassScaffold.Text.Blank
/-!
Templates: text with named slots. In the source of a template a slot is a name between two pairs of
braces, with white space allowed on both sides of the name. Reading a source takes the leftmost slots,
which do not overlap; all else is text. Filling goes over the pieces once, so a value is never searched
for slots of its own, and a slot without a value stays as it was written.
-/
namespace ClassScaffold

inductive Piece
  | text (content : String)
  | slot (lead name trail : String)
  deriving DecidableEq, Repr

instance : Coe String Piece := ⟨.text⟩

abbrev Template := List Piece

structure Bindings where
  entries : List (String × String)
  deriving DecidableEq, Repr

namespace Bindings

def empty : Bindings := ⟨[]⟩

def get? (b : Bindings) (name : String) : Option String := b.entries.lookup name

def set (b : Bindings) (name value : String) : Bindings := ⟨(name, value) :: b.entries⟩

def setAll (b : Bindings) (entries : List (String × String)) : Bindings := ⟨entries ++ b.entries⟩

@[simp] theorem getSet (b : Bindings) (name value other : String) :
    (b.set name value).get? other = if other = name then some value else b.get? other := by
  by_cases same : other = name
  · subst same; simp [set, get?]
  · have other : (other == name) = false := by simpa using same
    simp [set, get?, List.lookup_cons, same, other]

end Bindings

namespace Piece

def named (name : String) : Piece := .slot "" name ""

def source : Piece → String
  | .text content => content
  | .slot lead name trail => "\x7b\x7b" ++ lead ++ name ++ trail ++ "\x7d\x7d"

def fill (b : Bindings) : Piece → String
  | .text content => content
  | .slot lead name trail => (b.get? name).getD (source (.slot lead name trail))

def name? : Piece → Option String
  | .text _ => none
  | .slot _ name _ => some name

end Piece

namespace Template

def isNameStart (c : Char) : Bool :=
  ('A' ≤ c && c ≤ 'Z') || ('a' ≤ c && c ≤ 'z') || c == '_'

def isNameChar (c : Char) : Bool := isNameStart c || ('0' ≤ c && c ≤ '9')

def slotAt (s : List Char) : Option (List Char × List Char × List Char) :=
  match s with
  | '\x7b' :: '\x7b' :: inner =>
    let lead := inner.takeWhile Text.isBlank
    let afterLead := inner.dropWhile Text.isBlank
    let name := afterLead.takeWhile isNameChar
    let afterName := afterLead.dropWhile isNameChar
    let trail := afterName.takeWhile Text.isBlank
    match name, afterName.dropWhile Text.isBlank with
    | c :: _, '\x7d' :: '\x7d' :: _ => if isNameStart c then some (lead, name, trail) else none
    | _, _ => none
  | _ => none

def consText (c : Char) : Template → Template
  | .text content :: pieces => .text (String.singleton c ++ content) :: pieces
  | pieces => .text (String.singleton c) :: pieces

def piecesFrom : Nat → List Char → Template
  | _, [] => []
  | passed + 1, _ :: rest => piecesFrom passed rest
  | 0, c :: rest =>
    match slotAt (c :: rest) with
    | some (lead, name, trail) =>
      .slot (String.ofList lead) (String.ofList name) (String.ofList trail)
        :: piecesFrom (lead.length + name.length + trail.length + 3) rest
    | none => consText c (piecesFrom 0 rest)

def ofSource (source : String) : Template := piecesFrom 0 source.toList

def source (t : Template) : String := String.join (t.map Piece.source)

def fill (t : Template) (b : Bindings) : String := String.join (t.map (Piece.fill b))

def names (t : Template) : List String := (t.filterMap Piece.name?).eraseDups

end Template
end ClassScaffold
