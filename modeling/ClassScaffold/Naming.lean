import ClassScaffold.Text.Blank
import ClassScaffold.Text.Casing
/-!
The two names of a class: the Java type name and the group, which is both its directory and its
sub-package. Groups are told apart within one request: a class whose group is taken gets the smallest
number from 2 upwards that makes it free, on both names.
-/
namespace ClassScaffold
open Text (capitalized lowered)

structure Naming where
  typeName : String
  group : String
  deriving DecidableEq, Repr

namespace Naming

def ofName (name : String) : Naming := ⟨capitalized name, lowered name⟩

def decimal (n : Nat) : String := String.ofList (Nat.toDigits 10 n)

def numbered (base : Naming) (n : Nat) : Naming :=
  ⟨base.typeName ++ decimal n, base.group ++ decimal n⟩

def firstFree (taken : List String) (base : Naming) : Nat → Nat → Naming
  | 0, n => base.numbered n
  | tries + 1, n =>
    if (base.numbered n).group ∈ taken then firstFree taken base tries (n + 1)
    else base.numbered n

/-- One number more than there are taken groups is enough to find a free one. -/
def claim (taken : List String) (base : Naming) : Naming :=
  if base.group ∈ taken then firstFree taken base taken.length 2 else base

def assignAfter (taken : List String) : List String → List Naming
  | [] => []
  | name :: rest =>
    let naming := claim taken (ofName name)
    naming :: assignAfter (naming.group :: taken) rest

def assign (names : List String) : List Naming := assignAfter [] names

theorem assignAfterLength (taken names) : (assignAfter taken names).length = names.length := by
  induction names generalizing taken with
  | nil => rfl
  | cons name rest ih => simp [assignAfter, ih]

end Naming
end ClassScaffold
