import ClassScaffold.Proofs.Java.Declared
import ClassScaffold.Proofs.Template.Cut
import ClassScaffold.Proofs.Template.Source
import Mathlib
/-! The four files of a class side by side. A file is lines of its template with values for the slots; the lines
in which the files speak of each other or of the key can be listed for every class at once, whatever its
texts look like. -/
namespace ClassScaffold.Layer
open Java (Declares bindings template)
open Template (valueIn)

def linesWith (slots : List String) (l : Layer) : List Template :=
  ((template l).cut '\n').filter fun line => line.any fun p => p.name?.any slots.contains

def sharedSlots : List String := ["base_package", "entity", "repository", "service", "controller", "key_type",
  "key_import"]

/-- All lines in which a file names a package of the class, one of its types or the type of its key. The import
of that type is a line of its own, or nothing. -/
def sharedLines (e : Entity) (l : Layer) : List (List String) :=
  let base := e.package ++ "." ++ e.naming.group
  let entity := e.layerType .model
  let repository := e.layerType .repository
  let service := e.layerType .service
  let controller := e.layerType .controller
  let key := e.key.javaType
  let name := e.naming.typeName
  let value := e.naming.group
  match l with
  | .model => [
    ["package ", base, ".model;"],
    ["public class ", entity, " \x7b"]]
  | .repository => [
    ["package ", base, ".repository;"],
    ["import ", base, ".model.", entity, ";"],
    [e.keyImport],
    ["public interface ", repository, " extends JpaRepository<", entity, ", ", key, "> \x7b"]]
  | .service => [
    ["package ", base, ".service;"],
    ["import ", base, ".model.", entity, ";"],
    ["import ", base, ".repository.", repository, ";"],
    [e.keyImport],
    ["public class ", service, " \x7b"],
    ["    private ", repository, " repository;"],
    ["    public List<", entity, "> findAll() \x7b"],
    ["    public Optional<", entity, "> findById(", key, " id) \x7b"],
    ["    public ", entity, " save(", entity, " ", value, ") \x7b"],
    ["    public void deleteById(", key, " id) \x7b"]]
  | .controller => [
    ["package ", base, ".controller;"],
    ["import ", base, ".model.", entity, ";"],
    ["import ", base, ".service.", service, ";"],
    [e.keyImport],
    ["public class ", controller, " \x7b"],
    ["    private ", service, " service;"],
    ["    public List<", entity, "> getAll", name, "s() \x7b"],
    ["    public ResponseEntity<", entity, "> get", name, "ById(@PathVariable ", key, " id) \x7b"],
    ["    public ", entity, " create", name, "(@RequestBody ", entity, " ", value, ") \x7b"],
    ["    public ResponseEntity<", entity, "> update", name, "(@PathVariable ", key, " id, @RequestBody ", entity,
      " ", value, ") \x7b"],
    ["    public ResponseEntity<?> delete", name, "(@PathVariable ", key, " id) \x7b"]]

theorem sharedFilled (e : Entity) (l : Layer) :
    (linesWith sharedSlots l).map (List.map (Piece.fill (bindings e l))) = sharedLines e l := by
  cases l <;> cbv

theorem layerReadable (l : Layer) : (template l).IsReadable := by
  cases l <;> decide +kernel

def classSlots : List String := ["base_package", "type_name", "group", "variable", "entity", "repository",
  "service", "controller", "key_type", "key_import"]

def boundSlots : Layer → List String
  | .model => ["imports", "fields", "methods", "accessors"] ++ classSlots
  | _ => classSlots

theorem slotsBound (l : Layer) : ∀ name ∈ (template l).names, name ∈ boundSlots l := by
  cases l <;> decide +kernel

theorem layerBound (e : Entity) (l : Layer) : (template l).IsBound (bindings e l) (valueIn (bindings e l)) := by
  refine Template.boundListed fun name member => ?_
  have listed : (bindings e l).entries.map Prod.fst = boundSlots l := by cases l <;> rfl
  exact listed ▸ slotsBound l name member

theorem layerText (e : Entity) (l : Layer) : l.text e = (template l).fill (bindings e l) := by
  cases l <;> rfl

theorem keyImportText (e : Entity) : e.keyImport =
    match JavaType.import? e.key.javaType with
    | some qualified => "import " ++ qualified ++ ";\n"
    | none => "" := by
  unfold Entity.keyImport
  cases JavaType.import? e.key.javaType <;> rfl

theorem layerStarts (e : Entity) (l : Layer) : ∃ rest, l.text e =
    "package " ++ e.package ++ "." ++ e.naming.group ++ "." ++ l.directory ++ ";\n" ++ rest := by
  obtain ⟨lines, word, rest, _, whole, _⟩ := (Java.layerDeclares e l).whole
  refine ⟨lines ++ word ++ e.layerType l ++ " " ++ rest, ?_⟩
  rw [whole, Entity.basePackage]
  simp only [String.append_assoc]

structure Agrees (e : Entity) : Prop where
  /-- The source of a template is gone over once, all its slots are filled, and all else is kept. -/
  filled : ∀ l : Layer, l.text e = (Template.ofSource (template l).source).fill (bindings e l) ∧
    (Template.ofSource (template l).source).IsBound (bindings e l) (valueIn (bindings e l)) ∧
    l.text e = (Template.ofSource (template l).source).put (valueIn (bindings e l))
  lines : ∀ l : Layer, l.text e = "\n".intercalate (((template l).cut '\n').map (·.fill (bindings e l)))
  starts : ∀ l : Layer, ∃ rest, l.text e =
    "package " ++ e.package ++ "." ++ e.naming.group ++ "." ++ l.directory ++ ";\n" ++ rest
  declares : ∀ l : Layer, Declares (l.text e) (e.package ++ "." ++ e.naming.group ++ "." ++ l.directory) (e.layerType l)
  shared : ∀ l, (linesWith sharedSlots l).map (·.fill (bindings e l)) = (sharedLines e l).map String.join
  keyImport : e.keyImport = match JavaType.import? e.key.javaType with
    | some qualified => "import " ++ qualified ++ ";\n"
    | none => ""

/-- This holds of every class under any name and in any package. -/
theorem layersAgree (c : ClassModel) (n : Naming) (package : String) : Agrees (Entity.ofClass c n package) := by
  generalize Entity.ofClass c n package = e
  refine ⟨fun l => ?_, fun l => ?_, layerStarts e, Java.layerDeclares e, fun l => ?_, keyImportText e⟩
  · have scanned := Template.fillSource (layerReadable l) (bindings e l)
    have bound : (Template.ofSource (template l).source).IsBound (bindings e l) (valueIn (bindings e l)) := by
      intro name member
      rw [Template.namesSource (layerReadable l)] at member
      exact layerBound e l name member
    rw [layerText, ← scanned]
    exact ⟨rfl, bound, Template.fillBound bound⟩
  · rw [layerText, Template.cutFill '\n']
    rfl
  · have lines := congrArg (List.map String.join) (sharedFilled e l)
    rwa [List.map_map] at lines

end ClassScaffold.Layer
