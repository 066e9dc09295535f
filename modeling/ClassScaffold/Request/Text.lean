import ClassScaffold.Request.Json
import ClassScaffold.Request.Yaml
/-!
The two written forms of a request. A text that is no YAML request is refused as a whole; in JSON the
first fault is named.
-/
namespace ClassScaffold.Request

inductive Format
  | json
  | yaml
  deriving DecidableEq, Repr

inductive Fault
  | json (fault : ClassScaffold.Json.Fault)
  | yaml
  deriving DecidableEq, Repr

def Fault.message : Fault → String
  | json fault => "Invalid JSON request: " ++ fault.message
  | yaml => "Invalid YAML request:"

def ofText (format : Format) (text : String) : Except Fault Request :=
  match format with
  | .json => (Json.read text).mapError .json
  | .yaml =>
    match Yaml.read text with
    | some request => .ok request
    | none => .error .yaml

end ClassScaffold.Request
