import ClassScaffold.Proofs.Text.Markup
/-! Markup read as tags and elements. A tag goes from `<` to the next `>`; the text behind it goes to the next
tag. The reading is strict: a `>` anywhere else, an element that is not closed or is closed under another name,
and there is no result. What stands between the tags is of any type, so a template can be read as its filled
text is. -/
namespace ClassScaffold.Text.Markup

inductive Tag
  | opens (name : List Char)
  | closes (name : List Char)
  /-- A declaration, or an element without content. -/
  | stands
  deriving DecidableEq, Repr

def tagOf (inside : List Char) : Tag :=
  if inside.head? = some '/' then .closes inside.tail
  else if inside.head? = some '?' ∨ inside.getLast? = some '/' then .stands
  else .opens (inside.takeWhile (· != ' '))

def pair {α : Type} : List α → Option (α × α)
  | [tag, text] => some (tag, text)
  | _ => none

/-- Each tag, without its brackets, and the text behind it. -/
def tags (s : List Char) : Option (List (List Char × List Char)) :=
  match splitAt '<' s with
  | [] :: parts => parts.mapM fun part => pair (splitAt '>' part)
  | _ => none

/-- The elements that hold no other, each with the names on the way to it, in the order in which they start. -/
def elements {α : Type} : List (List Char) → List (List Char × α) → Option (List (List (List Char) × α))
  | [], [] => some []
  | _ :: _, [] => none
  | path, (tag, text) :: rest =>
    match tagOf tag with
    | .stands => elements path rest
    | .closes name => if path.getLast? = some name then elements path.dropLast rest else none
    | .opens name =>
      let inner := path ++ [name]
      let closed := rest.head?.any fun next => tagOf next.1 == .closes name
      (elements inner rest).map fun later => if closed then (inner, text) :: later else later

def contents (path : List String) (s : List Char) : Option (List (List Char)) := do
  let found ← elements [] (← tags s)
  return (found.filter (·.1 = path.map String.toList)).map (unescape ·.2)

theorem elementsMap {α β : Type} (f : α → β) (path : List (List Char)) (s : List (List Char × α)) :
    elements path (s.map (Prod.map id f)) = (elements path s).map (List.map (Prod.map id f)) := by
  fun_induction elements path s with
  | case1 => rfl
  | case2 => rfl
  | case3 path tag text rest stands ih => simpa [elements, stands] using ih
  | case4 path tag text rest name closes same ih => simpa [elements, closes, same] using ih
  | case5 path tag text rest name closes other => simp [elements, closes, other]
  | case6 path tag text rest name opens inner closed ih =>
    have next : ((rest.map (Prod.map id f)).head?.any fun next => tagOf next.1 == .closes name) = closed := by
      simp [closed, List.head?_map, Option.any_map]
    simp only [List.map_cons, Prod.map_apply, id_eq, elements, opens, next]
    rw [ih]
    cases elements inner rest <;> cases closed <;> simp [inner]

end ClassScaffold.Text.Markup
