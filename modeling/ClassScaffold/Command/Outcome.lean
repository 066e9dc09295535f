/-!
How a run of the program ends: its exit code and what it has written.
-/
namespace ClassScaffold.Command

structure Outcome where
  code : Nat
  lines : List String
  errors : List String
  deriving DecidableEq, Repr

namespace Outcome

def done (lines : List String) : Outcome := ⟨0, lines, []⟩

def failed (lines : List String) (message : String) : Outcome := ⟨1, lines, ["Error: " ++ message]⟩

def misused (message : String) : Outcome := ⟨2, [], ["error: " ++ message]⟩

def textOf (lines : List String) : String := String.join (lines.map (· ++ "\n"))

def output (o : Outcome) : String := textOf o.lines

def errorOutput (o : Outcome) : String := textOf o.errors

end Outcome
end ClassScaffold.Command
