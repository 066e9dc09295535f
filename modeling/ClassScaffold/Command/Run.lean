import ClassScaffold.Command.Arguments
import ClassScaffold.Command.Generate
import ClassScaffold.Command.Help
import ClassScaffold.Command.Validate
/-!
A run of the program on its arguments.
-/
namespace ClassScaffold.Command

variable {m : Type → Type} [Monad m] [Host m]

def run (e : Environment) : Command → m Outcome
  | .generate options => writeArchive e options
  | .validate request => reportOn request
  | .version => pure (.done [versionLine])
  | .help verb => pure (.done (helpLines verb))

def runArguments (e : Environment) (arguments : List String) : m Outcome :=
  match ofArguments arguments with
  | .ok command => command.run e
  | .error misuse => pure (.misused misuse.message)

end ClassScaffold.Command
