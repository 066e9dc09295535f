import ClassScaffold.Host
import ClassScaffold.Request.Text
/-!
Requests in files. The name of the file says which form the request is written in.
-/
namespace ClassScaffold.Request
open Host (attempt)

inductive LoadFault
  | unreadable (path : Path) (fault : Disk.Fault)
  | noText (path : Path)
  | malformed (path : Path) (fault : Fault)
  deriving DecidableEq, Repr

def LoadFault.message : LoadFault → String
  | unreadable path fault => "Failed to read " ++ path.text ++ ": " ++ fault.message
  | noText path => "Failed to read " ++ path.text ++ ": stream did not contain valid UTF-8"
  | malformed path fault => "Failed to parse " ++ path.text ++ ": " ++ fault.message

def Format.ofPath (p : Path) : Format :=
  if p.suffix? = some "yaml" ∨ p.suffix? = some "yml" then .yaml else .json

def ofBytes (p : Path) (bytes : ClassScaffold.Text.Utf8.Bytes) : Except LoadFault Request :=
  match ClassScaffold.Text.Utf8.decode? bytes with
  | none => .error (.noText p)
  | some text => (ofText (.ofPath p) text).mapError (.malformed p)

variable {m : Type → Type} [Monad m] [Host m]

def load (p : Path) : ExceptT LoadFault m Request := do
  let bytes ← attempt (.unreadable p) (Host.readFile p)
  match ofBytes p bytes with
  | .ok r => pure r
  | .error e => throw e

end ClassScaffold.Request
