import ClassScaffold.Layer.Files
import ClassScaffold.Project
import ClassScaffold.Proofs.Java.Source
/-! What the generated sources declare. Each template starts with its package and reaches its type over lines
that are fixed up to names and imports, so the two names of a source can be read off its slots. -/
namespace ClassScaffold.Java
open Piece (named)
open Text (isBlank trimStart)

/-- The text declares the names as they are, and reading it comes to them when they are plain. -/
structure Declares (text package type : String) : Prop where
  whole : ∃ lines word rest : String, word.toList ∈ typeWords ∧
    text = "package " ++ package ++ ";\n" ++ lines ++ word ++ type ++ " " ++ rest ∧
    ('\n' ∉ package.toList → IsPlainType type → Passes true lines.toList true)
  some : trimStart type.toList ≠ []

theorem declaresPackage {text type : String} {names : List String} (some : names ≠ [])
    (plain : ∀ name ∈ names, IsPlainName name) (declares : Declares text (".".intercalate names) type) :
    packageOf text = Option.some names := by
  obtain ⟨lines, word, rest, _, whole, _⟩ := declares.whole
  refine packageOfRead some plain (lines ++ word ++ type ++ " " ++ rest).toList ?_
  rw [whole]
  simp only [String.toList_append, List.append_assoc]
  rfl

theorem declaresType {text package type : String} (line : '\n' ∉ package.toList) (plain : IsPlainType type)
    (declares : Declares text package type) : typeOf text = some (String.ofList (trimStart type.toList)) := by
  obtain ⟨lines, word, rest, member, whole, passes⟩ := declares.whole
  have before := passesTrans (passesPackage line) (passes line plain)
  refine typeOfRead member before declares.some plain rest.toList ?_
  rw [whole]
  simp only [String.toList_append, List.append_assoc]
  rfl

/- Templates -/

variable {inLine own : List String} {b : Bindings}

/-- Where reading stands behind a piece. Slots within a line and slots for lines of their own are told apart
by their names. -/
def scanPiece (inLine own : List String) (start : Bool) : Piece → Option Bool
  | .text content => scan start content.toList
  | .slot _ name _ =>
    if start then if name ∈ own then some true else none else if name ∈ inLine then some false else none

def scanTemplate (inLine own : List String) (start : Bool) (t : Template) : Option Bool :=
  t.foldlM (scanPiece inLine own) start

structure IsQuiet (inLine own : List String) (b : Bindings) : Prop where
  inLine : ∀ name ∈ inLine, ∃ value, b.get? name = some value ∧ '\n' ∉ value.toList
  own : ∀ name ∈ own, ∃ value, b.get? name = some value ∧ Passes true value.toList true

theorem piecePasses (quiet : IsQuiet inLine own b) {start stop : Bool} {p : Piece}
    (ok : scanPiece inLine own start p = some stop) : Passes start (p.fill b).toList stop := by
  cases p with
  | text content => exact scanPasses ok
  | slot lead name trail =>
    cases start with
    | true =>
      simp only [scanPiece, if_true, Option.ite_none_right_eq_some, Option.some.injEq] at ok
      obtain ⟨member, rfl⟩ := ok
      obtain ⟨value, bound, passes⟩ := quiet.own name member
      simpa [Piece.fill, bound] using passes
    | false =>
      simp only [scanPiece, Bool.false_eq_true, if_false, Option.ite_none_right_eq_some, Option.some.injEq] at ok
      obtain ⟨member, rfl⟩ := ok
      obtain ⟨value, bound, absent⟩ := quiet.inLine name member
      simpa [Piece.fill, bound] using passesInLine absent

theorem templatePasses (quiet : IsQuiet inLine own b) {start stop : Bool} {t : Template}
    (ok : scanTemplate inLine own start t = some stop) : Passes start (t.fill b).toList stop := by
  unfold scanTemplate at ok
  induction t generalizing start with
  | nil =>
    cases ok
    exact fun _ => rfl
  | cons p rest ih =>
    rw [List.foldlM_cons] at ok
    obtain ⟨next, here, later⟩ := Option.bind_eq_some_iff.1 ok
    have text : (Template.fill (p :: rest) b).toList = (p.fill b).toList ++ (Template.fill rest b).toList := by
      simp [Template.fill]
    rw [text]
    exact passesTrans (piecePasses quiet here) (ih later)

/-- The template has a package line in front, then lines that declare nothing, then a type. -/
def IsOutlined (inLine own : List String) (t : Template) (base ending word slot suffix : String) : Prop :=
  ∃ header rest : Template, ∃ tail : String,
    t = [.text "package ", named base, .text (ending ++ ";\n\n")] ++ header ++
      [.text word, named slot, .text (suffix ++ " " ++ tail)] ++ rest ∧
    scanTemplate inLine own true header = some true

theorem fillDeclares {t : Template} {base ending word slot suffix package value : String}
    (outlined : IsOutlined inLine own t base ending word slot suffix) (member : word.toList ∈ typeWords)
    (packageValue : b.get? base = some package) (typeValue : b.get? slot = some value)
    (letter : ∃ c ∈ (value ++ suffix).toList, isBlank c = false)
    (quiet : '\n' ∉ (package ++ ending).toList → IsPlainType (value ++ suffix) → IsQuiet inLine own b) :
    Declares (t.fill b) (package ++ ending) (value ++ suffix) := by
  obtain ⟨header, rest, tail, rfl, ok⟩ := outlined
  have whole : Template.fill ([.text "package ", named base, .text (ending ++ ";\n\n")] ++ header ++
      [.text word, named slot, .text (suffix ++ " " ++ tail)] ++ rest) b =
      "package " ++ (package ++ ending) ++ ";\n" ++ ("\n" ++ header.fill b) ++ word ++ (value ++ suffix) ++ " " ++
        (tail ++ Template.fill rest b) := by
    have lines : ";\n\n" = ";\n" ++ "\n" := by decide
    simp only [Template.fill, named, Piece.fill, packageValue, typeValue, List.map_append, List.map_cons,
      List.map_nil, String.join_append, String.join_cons, String.join_nil, Option.getD_some, lines]
    simp only [String.append_assoc, String.append_empty]
  have some : trimStart (value ++ suffix).toList ≠ [] := by
    intro none
    obtain ⟨c, inside, other⟩ := letter
    have all := List.dropWhile_eq_nil_iff.1 none c inside
    rw [other] at all
    contradiction
  refine ⟨⟨_, word, _, member, whole, fun line plain => ?_⟩, some⟩
  have blank : Passes true "\n".toList true := scanPasses (by decide)
  rw [String.toList_append]
  exact passesTrans blank (templatePasses (quiet line plain) ok)

/- Layers -/

def entitySlots : List String := ["base_package", "group", "entity", "repository", "service"]

def template : Layer → Template
  | .model => Layer.Model.template
  | .repository => Layer.Repository.template
  | .service => Layer.Service.template
  | .controller => Layer.Controller.template

def typeSlot : Layer → String
  | .model => "entity"
  | l => l.directory

def typeWord : Layer → String
  | .repository => "public interface "
  | _ => "public class "

def importSlot : Layer → String
  | .model => "imports"
  | _ => "key_import"

def bindings (e : Entity) : Layer → Bindings
  | .model => Layer.Model.bindings e
  | _ => e.bindings

def header (t : Template) (word : String) : Template := (t.drop 3).takeWhile (· != .text word)

theorem layerOutlined (l : Layer) : IsOutlined entitySlots [importSlot l] (template l) "base_package"
    ("." ++ l.directory) (typeWord l) (typeSlot l) "" := by
  refine ⟨header (template l) (typeWord l), (template l).drop (6 + (header (template l) (typeWord l)).length), ?_⟩
  cases l with
  | model => exact ⟨"\x7b\n\n", by decide, by decide⟩
  | repository => exact ⟨"extends JpaRepository<", by decide, by decide⟩
  | service => exact ⟨"\x7b\n\n", by decide, by decide⟩
  | controller => exact ⟨"\x7b\n\n", by decide, by decide⟩

theorem importPasses {qualified : String} (absent : '\n' ∉ qualified.toList) :
    Passes true (Entity.importLine qualified).toList true := by
  have word : Passes true "import ".toList false := scanPasses (by decide)
  have last : Passes false ";\n".toList true := scanPasses (by decide)
  rw [Entity.importLine, String.toList_append, String.toList_append]
  exact passesTrans (passesTrans word (passesInLine absent)) last

theorem importPlain {javaType qualified : String} (found : JavaType.import? javaType = some qualified) :
    '\n' ∉ qualified.toList := by
  have listed : qualified ∈ ["java.time.LocalDate", "java.time.LocalDateTime", "java.time.LocalTime",
      "java.math.BigDecimal"] := by
    unfold JavaType.import? at found
    grind
  have plain : ∀ name ∈ ["java.time.LocalDate", "java.time.LocalDateTime", "java.time.LocalTime",
      "java.math.BigDecimal"], '\n' ∉ name.toList := by decide
  exact plain qualified listed

theorem keyImportPasses (e : Entity) : Passes true e.keyImport.toList true := by
  unfold Entity.keyImport
  cases found : JavaType.import? e.key.javaType with
  | none => exact fun _ => rfl
  | some qualified => exact importPasses (importPlain found)

theorem insertOnceMember {s x : String} {names : List String} (member : x ∈ Layer.Model.insertOnce s names) :
    x = s ∨ x ∈ names := by
  induction names with
  | nil => simpa [Layer.Model.insertOnce] using member
  | cons y rest ih =>
    simp only [Layer.Model.insertOnce] at member
    split at member
    · simpa using member
    · split at member
      · exact .inr member
      · rcases List.mem_cons.1 member with rfl | later
        · simp
        · exact (ih later).imp_right (List.mem_cons_of_mem _)

theorem neededPlain {e : Entity} : ∀ name ∈ Layer.Model.neededImports e, '\n' ∉ name.toList := by
  unfold Layer.Model.neededImports
  induction Layer.Model.mentionedTypes e with
  | nil => simp
  | cons type rest ih =>
    cases found : JavaType.import? type with
    | none => rwa [List.filterMap_cons_none found]
    | some qualified =>
      rw [List.filterMap_cons_some found, List.foldr_cons]
      intro name member
      rcases insertOnceMember member with rfl | later
      · exact importPlain found
      · exact ih name later

theorem linesPass {names : List String} (plain : ∀ name ∈ names, '\n' ∉ name.toList) :
    Passes true (String.join (names.map Entity.importLine)).toList true := by
  induction names with
  | nil => exact fun _ => rfl
  | cons name rest ih =>
    have tail := ih fun other member => plain other (List.mem_cons_of_mem _ member)
    rw [List.map_cons, String.join_cons, String.toList_append]
    exact passesTrans (importPasses (plain name List.mem_cons_self)) tail

theorem importsPass (e : Entity) : Passes true (Layer.Model.imports e).toList true := by
  have first : Passes true (Entity.importLine "javax.persistence.*").toList true := importPasses (by decide)
  have blank : Passes true "\n".toList true := scanPasses (by decide)
  rw [Layer.Model.imports, String.toList_append]
  refine passesTrans first ?_
  split
  · exact fun _ => rfl
  · rw [String.toList_append]
    exact passesTrans blank (linesPass neededPlain)

theorem layerQuiet (e : Entity) (l : Layer) (package : '\n' ∉ e.basePackage.toList)
    (type : '\n' ∉ e.naming.typeName.toList) : IsQuiet entitySlots [importSlot l] (bindings e l) := by
  have group : '\n' ∉ e.naming.group.toList := fun inside => package (by simp [Entity.basePackage, inside])
  have layers (other : Layer) : '\n' ∉ (e.layerType other).toList := by
    have stem : '\n' ∉ other.typeStem.toList := by cases other <;> decide
    simp [Entity.layerType, Layer.typeName, stem, type]
  refine ⟨fun name member => ?_, fun name member => ?_⟩
  · simp only [entitySlots, List.mem_cons, List.not_mem_nil, or_false] at member
    rcases member with rfl | rfl | rfl | rfl | rfl
    · exact ⟨e.basePackage, by cases l <;> rfl, package⟩
    · exact ⟨e.naming.group, by cases l <;> rfl, group⟩
    · exact ⟨e.layerType .model, by cases l <;> rfl, layers .model⟩
    · exact ⟨e.layerType .repository, by cases l <;> rfl, layers .repository⟩
    · exact ⟨e.layerType .service, by cases l <;> rfl, layers .service⟩
  · obtain rfl := List.mem_singleton.1 member
    cases l with
    | model => exact ⟨Layer.Model.imports e, rfl, importsPass e⟩
    | _ => exact ⟨e.keyImport, rfl, keyImportPasses e⟩

theorem layerLetter (l : Layer) : ∃ c rest, l.typeStem.toList = c :: rest ∧ isBlank c = false := by
  cases l <;> exact ⟨_, _, rfl, by decide⟩

theorem layerStart (l : Layer) (name : String) : trimStart (l.typeName name).toList = (l.typeName name).toList := by
  obtain ⟨c, rest, stem, other⟩ := layerLetter l
  simp [trimStart, Layer.typeName, stem, other]

theorem layerDeclares (e : Entity) (l : Layer) :
    Declares (l.text e) (e.basePackage ++ "." ++ l.directory) (e.layerType l) := by
  have text : l.text e = (template l).fill (bindings e l) := by cases l <;> rfl
  have package : (bindings e l).get? "base_package" = some e.basePackage := by cases l <;> rfl
  have type : (bindings e l).get? (typeSlot l) = some (e.layerType l) := by cases l <;> rfl
  have member : (typeWord l).toList ∈ typeWords := by cases l <;> decide
  have letter : ∃ c ∈ (e.layerType l).toList, isBlank c = false := by
    obtain ⟨c, rest, stem, other⟩ := layerLetter l
    exact ⟨c, by simp [Entity.layerType, Layer.typeName, stem], other⟩
  have declares := fillDeclares (layerOutlined l) member package type (by simpa using letter) ?_
  · simpa only [text, String.append_assoc, String.append_empty] using declares
  · intro line plain
    have newline : isBlank '\n' = true := by decide
    rw [String.append_empty, IsPlainType, Entity.layerType, layerStart] at plain
    refine layerQuiet e l (fun inside => line (by simp [inside])) fun inside => ?_
    have blank := plain '\n' (by simp [Layer.typeName, inside])
    rw [newline] at blank
    contradiction

/- The entry point and its test -/

theorem entryOutlined : IsOutlined [] [] (Project.File.template .entry) "package_name" "" "public class "
    "entry_class" "" :=
  ⟨header (Project.File.template .entry) "public class ", (Project.File.template .entry).drop 9,
    "\x7b\n\n", by decide, by decide⟩

theorem entryTestOutlined : IsOutlined [] [] (Project.File.template .entryTest) "package_name" "" "class "
    "entry_class" "Tests" :=
  ⟨header (Project.File.template .entryTest) "class ", (Project.File.template .entryTest).drop 9,
    "\x7b\n\n", by decide, by decide⟩

theorem noSlots (b : Bindings) : IsQuiet [] [] b := ⟨by simp, by simp⟩

theorem entryLetter (p : Project) (suffix : String) : ∃ c ∈ (p.entryClass ++ suffix).toList, isBlank c = false :=
  ⟨'A', by simp [Project.entryClass, Project.entryStem], by decide⟩

theorem entryDeclares (p : Project) : Declares (p.text .entry) p.package p.entryClass := by
  have member : "public class ".toList ∈ typeWords := by decide
  have declares := fillDeclares (b := p.bindings) entryOutlined member rfl rfl (entryLetter p "") fun _ _ => noSlots _
  simpa only [Project.text, String.append_empty] using declares

theorem entryTestDeclares (p : Project) : Declares (p.text .entryTest) p.package (p.entryClass ++ "Tests") := by
  have member : "class ".toList ∈ typeWords := by decide
  have declares := fillDeclares (b := p.bindings) entryTestOutlined member rfl rfl (entryLetter p "Tests")
    fun _ _ => noSlots _
  simpa only [Project.text, String.append_empty] using declares

end ClassScaffold.Java
