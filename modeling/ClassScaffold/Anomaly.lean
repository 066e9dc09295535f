/-!
Oddities of a member token that are passed over. None of them is an error: each has one fixed
resolution, and the readers of tokens take their defaults from here.
-/
namespace ClassScaffold

inductive Resolution
  | useType (name : String)
  | omit
  | passThrough
  deriving DecidableEq, Repr

inductive Anomaly
  | missingAttributeType
  | emptyMethodSignature
  | missingReturnType
  | unknownType
  deriving DecidableEq, Repr

namespace Anomaly

def all : List Anomaly :=
  [missingAttributeType, emptyMethodSignature, missingReturnType, unknownType]

def resolution : Anomaly → Resolution
  | missingAttributeType => .useType "string"
  | emptyMethodSignature => .omit
  | missingReturnType => .useType "void"
  | unknownType => .passThrough

def describe : Anomaly → String
  | missingAttributeType => "attribute has no type"
  | emptyMethodSignature => "method signature is empty"
  | missingReturnType => "method has no return type"
  | unknownType => "type is not in the mapping table"

def substitute (a : Anomaly) : String :=
  match a.resolution with
  | .useType name => name
  | .omit | .passThrough => ""

end Anomaly
end ClassScaffold
