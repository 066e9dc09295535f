import ClassScaffold.Text.Blank
import ClassScaffold.Text.Cut
/-!
Paths as they are written, and what their parts are. Joining goes by the text and keeps it as it is;
the parts pass over repeated separators and over dots that change nothing.
-/
namespace ClassScaffold
open Text (trim splitAt)

structure Path where
  text : String
  deriving DecidableEq, Repr

namespace Path

inductive Part
  | root
  /-- A dot that starts a relative path; elsewhere dots are no parts. -/
  | current
  | parent
  | normal (name : String)
  deriving DecidableEq, Repr

def isAbsolute (p : Path) : Bool := p.text.toList.head? == some '/'

def partOf (first : Bool) (name : List Char) : Option Part :=
  if name = [] then none
  else if name = ['.'] then if first then some .current else none
  else if name = ['.', '.'] then some .parent
  else some (.normal (String.ofList name))

def partsOf (first : Bool) : List (List Char) → List Part
  | [] => []
  | name :: rest => (partOf first name).toList ++ partsOf false rest

def parts (p : Path) : List Part :=
  if p.isAbsolute then .root :: partsOf false (splitAt '/' p.text.toList)
  else partsOf true (splitAt '/' p.text.toList)

def join (p : Path) (other : String) : Path :=
  if other.toList.head? = some '/' then ⟨other⟩
  else if p.text.toList.getLast?.all (· == '/') then ⟨p.text ++ other⟩
  else ⟨p.text ++ "/" ++ other⟩

def Part.text : Part → String
  | root => ""
  | current => "."
  | parent => ".."
  | normal name => name

def ofParts (parts : List Part) : Path :=
  if parts = [.root] then ⟨"/"⟩ else ⟨"/".intercalate (parts.map Part.text)⟩

def parent? (p : Path) : Option Path :=
  match p.parts with
  | [] | [.root] => none
  | parts => some (ofParts parts.dropLast)

def fileName? (p : Path) : Option String :=
  match p.parts.getLast? with
  | some (.normal name) => some name
  | _ => none

def suffix? (p : Path) : Option String :=
  match p.fileName?.bind fun name => Text.cutLast '.' name.toList with
  | some ([], _) | none => none
  | some (_, after) => some (String.ofList after)

structure InvalidSegment where
  context : String
  segment : String
  deriving DecidableEq, Repr

def InvalidSegment.message (e : InvalidSegment) : String :=
  "invalid " ++ e.context ++ " '" ++ e.segment ++ "': must be a single non-empty path component"

def isSingle (s : String) : Bool :=
  match parts ⟨s⟩ with
  | [.normal _] => true
  | _ => false

def joinSegment (p : Path) (segment context : String) : Except InvalidSegment Path :=
  let name := Text.trimmed segment
  if name.isEmpty || name.toList.contains '\x00' || !isSingle name then .error ⟨context, segment⟩
  else .ok (p.join name)

end Path
end ClassScaffold
