import ClassScaffold.Layer
import ClassScaffold.Member
import ClassScaffold.Naming
import ClassScaffold.Request
import ClassScaffold.Template
/-!
A class with its names, members and key worked out once. All four layers are filled from the same
entity, so their names and their key type agree.
-/
namespace ClassScaffold

structure Key where
  javaType : String
  declared : Bool
  deriving DecidableEq, Repr

def keyField : String := "id"

def defaultKeyType : String := "Long"

def Key.isGenerated (k : Key) : Bool := k.javaType == "Long" || k.javaType == "Integer"

def Field.javaType (f : Field) : String := JavaType.ofName f.declaredType

structure Entity where
  naming : Naming
  package : String
  fields : List Field
  methods : List Method
  deriving DecidableEq, Repr

namespace Entity

def ofClass (c : ClassModel) (naming : Naming) (package : String) : Entity :=
  ⟨naming, package, c.attributes.map Field.ofToken, c.methods.filterMap Method.ofToken⟩

def key (e : Entity) : Key :=
  match e.fields.find? (·.identifier == keyField) with
  | some field => ⟨field.javaType, true⟩
  | none => ⟨defaultKeyType, false⟩

def basePackage (e : Entity) : String := e.package ++ "." ++ e.naming.group

def layerType (e : Entity) (l : Layer) : String := l.typeName e.naming.typeName

def importLine (qualified : String) : String := "import " ++ qualified ++ ";\n"

def keyImport (e : Entity) : String := ((JavaType.import? e.key.javaType).map importLine).getD ""

def bindings (e : Entity) : Bindings :=
  ⟨[("base_package", e.basePackage), ("type_name", e.naming.typeName), ("group", e.naming.group),
    ("variable", e.naming.group), ("entity", e.layerType .model),
    ("repository", e.layerType .repository), ("service", e.layerType .service),
    ("controller", e.layerType .controller), ("key_type", e.key.javaType),
    ("key_import", e.keyImport)]⟩

end Entity
end ClassScaffold
