import ClassScaffold.Database
import ClassScaffold.Project.Application
import ClassScaffold.Project.Pom
import ClassScaffold.Project.Properties
import ClassScaffold.Text.Markup
import ClassScaffold.Text.Words
/-!
What a project is generated from besides its classes: its name, its package and its database. The
artifact and the database are named after the project in lower case with hyphens, the entry point in
mixed case.
-/
namespace ClassScaffold

structure Project where
  name : String
  package : String
  database : Database
  deriving DecidableEq, Repr

namespace Project

def entryStem : String := "Application"

def artifact (p : Project) : String := Text.kebab p.name

def entryClass (p : Project) : String := Text.pascal p.name ++ entryStem

def entryFile (p : Project) : String := p.entryClass ++ ".java"

def entryTestFile (p : Project) : String := p.entryClass ++ "Tests.java"

def bindings (p : Project) : Bindings :=
  ⟨[("project_name", Text.Markup.escaped p.name), ("artifact_id", Text.Markup.escaped p.artifact),
    ("group_id", Text.Markup.escaped p.package), ("package_name", p.package),
    ("entry_class", p.entryClass), ("driver_group", p.database.driver.group),
    ("driver_artifact", p.database.driver.artifact), ("jdbc_url", p.database.url p.artifact),
    ("db_username", p.database.userName)]⟩

inductive File
  | pom
  | properties
  | entry
  | entryTest
  deriving DecidableEq, Repr

def File.all : List File := [pom, properties, entry, entryTest]

def File.template : File → Template
  | pom => Pom.template
  | properties => Properties.template
  | entry => Application.template
  | entryTest => Application.testTemplate

def text (p : Project) (f : File) : String := f.template.fill p.bindings

end Project
end ClassScaffold
