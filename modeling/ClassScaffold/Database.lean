import ClassScaffold.Text.Blank
import ClassScaffold.Text.Casing
/-!
The databases that a project can be set up for.
-/
namespace ClassScaffold

inductive Database
  | postgresql
  | mysql
  deriving DecidableEq, Repr

namespace Database

def default : Database := postgresql

def name : Database → String
  | postgresql => "postgresql"
  | mysql => "mysql"

structure Unsupported where
  name : String
  deriving DecidableEq, Repr

def Unsupported.message (u : Unsupported) : String :=
  "Unsupported database type: '" ++ u.name ++ "'. Supported types: postgresql, mysql"

def ofName (name : String) : Except Unsupported Database :=
  let key := Text.lowered (Text.trimmed name)
  if key = "postgresql" ∨ key = "postgres" ∨ key = "pg" then .ok postgresql
  else if key = "mysql" then .ok mysql
  else .error ⟨key⟩

structure Driver where
  group : String
  artifact : String
  deriving DecidableEq, Repr

def driver : Database → Driver
  | postgresql => ⟨"org.postgresql", "postgresql"⟩
  | mysql => ⟨"com.mysql", "mysql-connector-j"⟩

def url (d : Database) (name : String) : String :=
  match d with
  | postgresql => "jdbc:postgresql://localhost:5432/" ++ name
  | mysql => "jdbc:mysql://localhost:3306/" ++ name

def userName : Database → String
  | postgresql => "postgres"
  | mysql => "root"

end Database
end ClassScaffold
