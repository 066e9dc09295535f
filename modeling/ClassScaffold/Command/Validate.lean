import ClassScaffold.Command.Outcome
import ClassScaffold.Layer
import ClassScaffold.Member
import ClassScaffold.Naming
import ClassScaffold.Request.Load
import ClassScaffold.Text.Quoted
/-!
Reporting on a request without generating anything: the names of its classes and the oddities of
their tokens.
-/
namespace ClassScaffold.Command

namespace Report

def resolution : Resolution → String
  | .useType name => "Default(" ++ Text.quoted name ++ ")"
  | .omit => "Omit"
  | .passThrough => "PassThrough"

def anomaly (token : String) (a : Anomaly) : String :=
  "    ⚠ " ++ Text.quoted token ++ ": " ++ a.describe ++ " (" ++ resolution a.resolution ++ ")"

def anomalies (c : ClassModel) : List (String × Anomaly) :=
  (c.attributes.flatMap fun token => (Field.anomalies token).map (token, ·))
    ++ c.methods.flatMap fun token => (Method.anomalies token).map (token, ·)

def types (n : Naming) : String := ", ".intercalate (Layer.all.map (·.typeName n.typeName))

def classLines (c : ClassModel) (n : Naming) : List String :=
  ["", "  " ++ n.typeName ++ " (" ++ n.group ++ ")", "    types: " ++ types n]
    ++ (anomalies c).map fun (token, a) => anomaly token a

def count (r : Request) : Nat := (r.classes.flatMap anomalies).length

def verdict (count : Nat) : String :=
  if count = 0 then "✅ Request is clean!"
  else "✅ Request is valid (" ++ Naming.decimal count ++ " anomalies resolved leniently)"

def lines (r : Request) : List String :=
  ["  ✓ Project: " ++ r.project, "  ✓ Package: " ++ r.package]
    ++ (List.zipWith classLines r.classes
      (Naming.assign (r.classes.map ClassModel.canonicalName))).flatten
    ++ ["", verdict (count r)]

end Report

variable {m : Type → Type} [Monad m] [Host m]

def reportOn (request : Path) : m Outcome := do
  let heading := ["🔍 Validating " ++ request.text ++ "..."]
  match ← (Request.load request).run with
  | .error e => return .failed heading e.message
  | .ok r => return .done (heading ++ Report.lines r)

end ClassScaffold.Command
