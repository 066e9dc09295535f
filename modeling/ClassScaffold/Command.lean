import ClassScaffold.Path
/-!
What the command line can ask for.
-/
namespace ClassScaffold

structure GenerateOptions where
  request : Path
  output : Option Path
  database : Option String
  sharedRoot : Option Path
  deriving DecidableEq, Repr

namespace Command

inductive Verb
  | generate
  | validate
  deriving DecidableEq, Repr

def Verb.name : Verb → String
  | generate => "generate"
  | validate => "validate"

def Verb.ofName (name : String) : Option Verb :=
  if name = "generate" then some .generate
  else if name = "validate" then some .validate
  else none

end Command

inductive Command
  | generate (options : GenerateOptions)
  | validate (request : Path)
  | version
  | help (verb : Option Command.Verb)
  deriving DecidableEq, Repr

end ClassScaffold
