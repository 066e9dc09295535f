import ClassScaffold.Entity
/-!
The entity type of a class: its fields with the key first when it was added, a stub for every method
that was kept, and a getter and a setter per field. Imports are exactly those that the types in these
blocks need, each once and in increasing order.
-/
namespace ClassScaffold.Layer.Model
open Piece (named)

def template : Template := [
  "package ", named "base_package", ".model;\n\n",
  named "imports", "\n",
  "@Entity\n",
  "@Table(name = \"", named "group", "\")\n",
  "public class ", named "entity", " \x7b\n\n",
  named "fields", "\n\n",
  named "methods", "    // Getters and Setters\n\n",
  named "accessors", "\n",
  "\x7d\n"]

def stubMarker : String := "// TODO: implement"

structure StoredField where
  identifier : String
  javaType : String
  deriving DecidableEq, Repr

def storedFields (e : Entity) : List StoredField :=
  (if e.key.declared then [] else [⟨keyField, e.key.javaType⟩])
    ++ e.fields.map fun f => ⟨f.identifier, f.javaType⟩

def lineSeparated (blocks : List String) : String := "\n".intercalate blocks

def paragraphs (blocks : List String) : String := "\n\n".intercalate blocks

/- Imports -/

def parameterTypes (m : Method) : List String :=
  m.parameters.filterMap fun p => p.declaredType.map JavaType.ofName

def mentionedTypes (e : Entity) : List String :=
  e.fields.map Field.javaType
    ++ e.methods.flatMap fun m => JavaType.ofName m.returnType :: parameterTypes m

def insertOnce (s : String) : List String → List String
  | [] => [s]
  | x :: rest =>
    if s < x then s :: x :: rest else if s = x then x :: rest else x :: insertOnce s rest

def neededImports (e : Entity) : List String :=
  ((mentionedTypes e).filterMap JavaType.import?).foldr insertOnce []

def imports (e : Entity) : String :=
  let extra := neededImports e
  Entity.importLine "javax.persistence.*"
    ++ (if extra.isEmpty then "" else "\n" ++ String.join (extra.map Entity.importLine))

/- Fields -/

def keyMarks (k : Key) : String :=
  "    @Id\n"
    ++ if k.isGenerated then "    @GeneratedValue(strategy = GenerationType.IDENTITY)\n" else ""

def declaration (f : StoredField) : String :=
  "    private " ++ f.javaType ++ " " ++ f.identifier ++ ";"

def declarations (marks : String) : List StoredField → List String
  | [] => []
  | f :: rest =>
    if f.identifier = keyField then (marks ++ declaration f) :: rest.map declaration
    else declaration f :: declarations marks rest

def fields (e : Entity) : String :=
  lineSeparated (declarations (keyMarks e.key) (storedFields e))

/- Methods -/

def parameter (p : Parameter) : String :=
  match p.declaredType with
  | some type => JavaType.ofName type ++ " " ++ p.identifier
  | none => p.identifier

def stub (m : Method) : String :=
  "    public " ++ JavaType.ofName m.returnType ++ " " ++ m.identifier ++ "("
    ++ ", ".intercalate (m.parameters.map parameter) ++ ") \x7b\n        " ++ stubMarker ++ " "
    ++ m.identifier ++ "\n    \x7d"

def methods (e : Entity) : String :=
  if e.methods.isEmpty then "" else paragraphs (e.methods.map stub) ++ "\n\n"

/- Accessors -/

def getter (f : StoredField) : String :=
  "    public " ++ f.javaType ++ " get" ++ Text.capitalized f.identifier
    ++ "() \x7b\n        return " ++ f.identifier ++ ";\n    \x7d"

def setter (f : StoredField) : String :=
  "    public void set" ++ Text.capitalized f.identifier ++ "(" ++ f.javaType ++ " " ++ f.identifier
    ++ ") \x7b\n        this." ++ f.identifier ++ " = " ++ f.identifier ++ ";\n    \x7d"

def accessors (e : Entity) : String :=
  paragraphs ((storedFields e).flatMap fun f => [getter f, setter f])

def bindings (e : Entity) : Bindings :=
  e.bindings.setAll [("imports", imports e), ("fields", fields e), ("methods", methods e),
    ("accessors", accessors e)]

def text (e : Entity) : String := template.fill (bindings e)

end ClassScaffold.Layer.Model
