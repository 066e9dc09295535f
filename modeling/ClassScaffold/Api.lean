import ClassScaffold.Generator
import ClassScaffold.Json.Printer
import ClassScaffold.Command.Help
/-!
Answers of the service: that it is there, and the archive of a request that came with a message. An
archive is sent under the name of its file and with its length; a failure is sent as its message.
-/
namespace ClassScaffold.Api
open Json.Printer (object string)
open Text.Utf8 (Bytes encode)

structure Response where
  status : Nat
  contentType : String
  contentDisposition : Option String
  contentLength : Option Nat
  body : Bytes
  deriving DecidableEq, Repr

def archiveType : String := "application/zip"

def jsonType : String := "application/json"

def serviceName : String := "umlforge-api"

def ofJson (status : Nat) (members : List (String × String)) : Response :=
  ⟨status, jsonType, none, none, encode (object members)⟩

def health : Response :=
  ofJson 200 [("service", string serviceName), ("status", string "healthy"),
    ("version", string Command.programVersion)]

def ofFailure (f : Failure) : Response := ofJson 500 [("error", string f.message)]

def ofArchive (s : Stream) (contents : Bytes) : Response :=
  ⟨200, archiveType, some s.contentDisposition, some s.length, contents⟩

variable {m : Type → Type} [Monad m] [Host m]

def generate (g : Generator) (r : Request) : m Response := do
  match ← (g.generate r).run with
  | .error failure => return ofFailure failure
  | .ok s => do
    let (_, contents) ← s.drain
    return ofArchive s (contents.toOption.getD [])

end ClassScaffold.Api
