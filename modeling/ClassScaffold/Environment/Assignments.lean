import ClassScaffold.Environment
import ClassScaffold.Text.Property.Alphanumeric
/-!
A file of assignments, one a line, for variables that are not set. A value may be quoted, and may take
in values of other variables; a name that is not set stands for nothing. The first line that is no
assignment ends the file.
-/
namespace ClassScaffold.Environment.Assignments
open Text (trimStart trimEnd within)
open Text.Utf8 (Bytes)

/- Values -/

inductive Place
  | plain
  | strict
  | escape
  | name
  | bracedName
  | ended
  deriving DecidableEq, Repr

structure Reading where
  place : Place
  quoted : Bool
  name : List Char
  value : List Char
  deriving DecidableEq, Repr

def start : Reading := ⟨.plain, false, [], []⟩

def escaped? (c : Char) : Option Char :=
  if c = 'n' then some '\n'
  else if c = '\\' || c = '\'' || c = '"' || c = '$' || c = ' ' then some c
  else none

def inName (c : Char) : Bool := c.isAlphanum || within Text.Property.alphanumeric c

def Reading.resolve (r : Reading) (lookup : String → String) : Reading :=
  { r with place := .plain, name := [],
           value := (lookup (String.ofList r.name.reverse)).toList.reverse ++ r.value }

def Reading.put (r : Reading) (c : Char) : Reading := { r with value := c :: r.value }

def plainStep (r : Reading) (c : Char) : Reading :=
  if c = '$' then { r with place := .name }
  else if c = '\\' then { r with place := .escape }
  else if c = '"' then { r with quoted := !r.quoted }
  else if r.quoted then r.put c
  else if c = '\'' then { r with place := .strict }
  else if c = ' ' || c = '\t' then { r with place := .ended }
  else r.put c

def step (lookup : String → String) (r : Reading) (c : Char) : Option Reading :=
  match r.place with
  | .plain => some (plainStep r c)
  | .strict => some (if c = '\'' then { r with place := .plain } else r.put c)
  | .escape => (escaped? c).map fun x => { r.put x with place := .plain }
  | .name =>
    if inName c then some { r with name := c :: r.name }
    else if c = '\x7b' ∧ r.name = [] then some { r with place := .bracedName }
    else
      let r := r.resolve lookup
      some (if c = '$' then { r with place := .name } else r.put c)
  | .bracedName =>
    some (if c = '\x7d' then r.resolve lookup else { r with name := c :: r.name })
  | .ended => if c = ' ' || c = '\t' then some r else none

def readValue (lookup : String → String) (r : Reading) : List Char → Option Reading
  | [] => some r
  | c :: rest =>
    if r.place = .ended ∧ c = '#' then some r
    else (step lookup r c).bind fun r => readValue lookup r rest

def value? (lookup : String → String) (s : List Char) : Option String :=
  match readValue lookup start s with
  | none => none
  | some r =>
    if r.place = .bracedName ∨ r.place = .strict ∨ r.quoted then none
    else some (String.ofList (r.resolve lookup).value.reverse)

/- Lines -/

inductive Line
  | blank
  | assignment (name value : String)
  deriving DecidableEq, Repr

def startsName (c : Char) : Bool := c.isAlpha || c == '_'

def inKey (c : Char) : Bool := c.isAlphanum || c == '_' || c == '.'

def key? (s : List Char) : Option (String × List Char) :=
  if s.head?.any startsName then
    some (String.ofList (s.takeWhile inKey), trimStart (s.dropWhile inKey))
  else none

def isOver (s : List Char) : Bool := s.isEmpty || s.head? == some '#'

def assigned? (s : List Char) : Option (String × List Char) := do
  let (key, rest) ← key? s
  match rest with
  | '=' :: rest => some (key, trimStart rest)
  | _ =>
    if key = "export" then
      let (key, rest) ← key? rest
      match rest with
      | '=' :: rest => some (key, trimStart rest)
      | _ => none
    else none

def line? (lookup : String → String) (s : List Char) : Option Line :=
  let s := trimStart (trimEnd s)
  if isOver s then some .blank
  else do
    let (key, rest) ← assigned? s
    if isOver rest then some (.assignment key "")
    else (value? lookup rest).map (.assignment key)

/- Files -/

structure Progress where
  environment : Environment
  assigned : List (String × String)
  deriving DecidableEq, Repr

/-- Variables are found by how they are written down, name, equals sign and value; so a name that has an
equals sign of its own may reach into a value. -/
def valueBehind (name : String) (setting : String × String) : Option String :=
  ((name ++ "=").toList.isPrefixOf? (setting.1 ++ "=" ++ setting.2).toList).map String.ofList

def Progress.lookup (p : Progress) (name : String) : String :=
  (p.environment.settings.findSome? (valueBehind name)).getD ((p.assigned.lookup name).getD "")

def Progress.assign (p : Progress) (name value : String) : Progress :=
  ⟨p.environment.add name value, (name, value) :: p.assigned⟩

def readLines (p : Progress) : List Bytes → Progress
  | [] => p
  | bytes :: rest =>
    match (Text.Utf8.decode? bytes).bind fun line => line? p.lookup line.toList with
    | none => p
    | some .blank => readLines p rest
    | some (.assignment name value) => readLines (p.assign name value) rest

def lines (bytes : Bytes) : List Bytes := bytes.splitOnP (· == 10)

end Assignments

def fileName : String := ".env"

def addFile (e : Environment) (bytes : Text.Utf8.Bytes) : Environment :=
  (Assignments.readLines ⟨e, []⟩ (Assignments.lines bytes)).environment

variable {m : Type → Type} [Monad m] [Host m]

def addNearest (e : Environment) : List Path → m Environment
  | [] => pure e
  | directory :: others => do
    match ← (Host.readFile (directory.join fileName) : m (Except Disk.Fault Text.Utf8.Bytes)) with
    | .ok bytes => pure (e.addFile bytes)
    | .error .notFound | .error .isADirectory => addNearest e others
    | .error _ => pure e

end ClassScaffold.Environment
