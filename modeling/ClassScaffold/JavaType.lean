import ClassScaffold.Text.Blank
import ClassScaffold.Text.Casing
/-!
Java types of the type names written in a class model. Names are compared after trimming and
lower-casing. A blank name stands for the default type; a name that the table does not list is taken
for a type of its own and kept as written.
-/
namespace ClassScaffold.JavaType
open Text (trimmed lowered)

def defaultType : String := "String"

def table : List (String × String) := [
  ("number", "Double"), ("double", "Double"), ("float", "Float"), ("integer", "Integer"),
  ("int", "Integer"), ("long", "Long"), ("string", "String"), ("text", "String"),
  ("char", "Character"), ("character", "Character"), ("boolean", "Boolean"), ("bool", "Boolean"),
  ("date", "LocalDate"), ("datetime", "LocalDateTime"), ("timestamp", "LocalDateTime"),
  ("time", "LocalTime"), ("decimal", "BigDecimal"), ("bigdecimal", "BigDecimal"),
  ("undefined", "void"), ("void", "void")]

def key (name : String) : String := lowered (trimmed name)

def isBlank (name : String) : Bool := (trimmed name).isEmpty

def listed? (name : String) : Option String := table.lookup (key name)

def ofName (name : String) : String :=
  if isBlank name then defaultType else (listed? name).getD name

def isKnown (name : String) : Bool := isBlank name || (listed? name).isSome

def import? (javaType : String) : Option String :=
  if javaType = "LocalDate" then some "java.time.LocalDate"
  else if javaType = "LocalDateTime" then some "java.time.LocalDateTime"
  else if javaType = "LocalTime" then some "java.time.LocalTime"
  else if javaType = "BigDecimal" then some "java.math.BigDecimal"
  else none

end ClassScaffold.JavaType
