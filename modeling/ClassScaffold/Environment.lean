import ClassScaffold.Generator
/-!
Variables that are set when the program starts, and what they configure. A database name that is not
known counts as none.
-/
namespace ClassScaffold

structure Environment where
  settings : List (String × String)
  deriving DecidableEq, Repr

namespace Environment

def get? (e : Environment) (name : String) : Option String := e.settings.lookup name

def add (e : Environment) (name value : String) : Environment :=
  if (e.get? name).isSome then e else ⟨e.settings ++ [(name, value)]⟩

def temporary (e : Environment) : Path := ⟨(e.get? "TMPDIR").getD "/tmp"⟩

def sharedRoot (e : Environment) : Path :=
  match e.get? "UMLFORGE_TEMP_DIR" with
  | some path => ⟨path⟩
  | none => e.temporary.join "umlforge"

def database (e : Environment) : Database :=
  match (e.get? "UMLFORGE_DATABASE").map Database.ofName with
  | some (.ok d) => d
  | _ => .default

def generator (e : Environment) : Generator := ⟨e.sharedRoot, e.database⟩

end Environment
end ClassScaffold
