import ClassScaffold.Anomaly
import ClassScaffold.JavaType
import ClassScaffold.Text.Cut
/-!
Members of a class, read from compact tokens such as "- total:number" and
"- place(qty:int):boolean". The first two characters of a token are a bullet and carry nothing.
Reading never fails: a missing type is replaced by its default and a method without a name is left
out. Identifiers are not checked.
-/
namespace ClassScaffold
open Text (trim trimStart cutFirst cutLast splitAt)

structure Field where
  identifier : String
  declaredType : String
  deriving DecidableEq, Repr

structure Method where
  identifier : String
  parameterList : String
  returnType : String
  deriving DecidableEq, Repr

structure Parameter where
  identifier : String
  declaredType : Option String
  deriving DecidableEq, Repr

namespace Member

def markerLength : Nat := 2

def body (token : String) : List Char := token.toList.drop markerLength

def typeOr (missing : Anomaly) (written : List Char) : String :=
  if written.isEmpty then missing.substitute else String.ofList written

end Member
open Member (body typeOr)

namespace Field

def written (token : String) : List Char × List Char :=
  match cutFirst ':' (body token) with
  | some (name, type) => (trim name, trim type)
  | none => (trim (body token), [])

def ofToken (token : String) : Field :=
  let (name, type) := written token
  ⟨String.ofList name, typeOr .missingAttributeType type⟩

def anomalies (token : String) : List Anomaly :=
  let type := (written token).2
  if type.isEmpty then [.missingAttributeType]
  else if JavaType.isKnown (String.ofList type) then []
  else [.unknownType]

def token (f : Field) : String := "- " ++ f.identifier ++ ":" ++ f.declaredType

end Field

namespace Parameter

def ofEntry (entry : List Char) : Parameter :=
  match cutFirst ':' entry with
  | some (name, type) => ⟨String.ofList (trim name), some (String.ofList (trim type))⟩
  | none => ⟨String.ofList entry, none⟩

def ofList (list : String) : List Parameter :=
  (((splitAt ',' list.toList).map trim).filter fun entry => !entry.isEmpty).map ofEntry

def entry (p : Parameter) : String :=
  match p.declaredType with
  | some type => p.identifier ++ ":" ++ type
  | none => p.identifier

end Parameter

namespace Method

/-- Signature and trimmed return type. The signature reaches to the last closing parenthesis; without
one it ends at the first colon. -/
def splitReturn (body : List Char) : List Char × List Char :=
  match cutLast ')' body with
  | some (before, after) =>
    let rest := trimStart after
    (before ++ [')'], trim (if rest.head? = some ':' then rest.tail else rest))
  | none =>
    match cutFirst ':' body with
    | some (signature, type) => (signature, trim type)
    | none => (body, [])

def splitSignature (signature : List Char) : List Char × List Char :=
  match cutFirst '(' signature with
  | some (name, rest) =>
    match cutLast ')' rest with
    | some (list, _) => (trim name, trim list)
    | none => (trim name, trim rest)
  | none => (trim signature, [])

def ofToken (token : String) : Option Method :=
  let (signature, type) := splitReturn (body token)
  let (name, list) := splitSignature signature
  if name.isEmpty then none
  else some ⟨String.ofList name, String.ofList list, typeOr .missingReturnType type⟩

def parameters (m : Method) : List Parameter := Parameter.ofList m.parameterList

def hasUnknownParameter (m : Method) : Bool :=
  m.parameters.any fun p => p.declaredType.any fun type => !JavaType.isKnown type

def anomalies (token : String) : List Anomaly :=
  match ofToken token with
  | none => [.emptyMethodSignature]
  | some m =>
    let noReturn := (splitReturn (body token)).2.isEmpty
    (if noReturn then [.missingReturnType] else [])
      ++ if (!noReturn && !JavaType.isKnown m.returnType) || m.hasUnknownParameter then
          [.unknownType] else []

def token (m : Method) : String :=
  "- " ++ m.identifier ++ "(" ++ m.parameterList ++ "):" ++ m.returnType

end Method
end ClassScaffold
