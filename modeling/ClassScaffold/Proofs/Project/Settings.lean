import ClassScaffold.Proofs.Template.Cut
import ClassScaffold.Proofs.Text.Escaped
import ClassScaffold.Project
/-! The settings of a project as they are read. The artifact is put into two lines as it is or as markup, so the
lines of the template are kept exactly when the artifact keeps to its line. -/
namespace ClassScaffold

namespace Project.Properties
open Template (filled)
open Text.Markup (escape)
open Text.Setting

/-- The lines of the file: a key and what it is to be set to, or an empty line. -/
def entries (p : Project) : List (Option (List Char × List Char)) := [
  some ("spring.application.name".toList, escape p.artifact.toList),
  some ("server.port".toList, "8080".toList),
  none,
  some ("spring.datasource.url".toList, (p.database.url p.artifact).toList),
  some ("spring.datasource.username".toList, p.database.userName.toList),
  some ("spring.datasource.password".toList, "changeme".toList),
  none,
  some ("spring.jpa.hibernate.ddl-auto".toList, "update".toList),
  some ("spring.jpa.show-sql".toList, "true".toList),
  none]

theorem templateLines : template.cut '\n' = [
    [.text "spring.application.name=", .named "artifact_id"],
    [.text "server.port=8080"],
    [],
    [.text "spring.datasource.url=", .named "jdbc_url"],
    [.text "spring.datasource.username=", .named "db_username"],
    [.text "spring.datasource.password=changeme"],
    [],
    [.text "spring.jpa.hibernate.ddl-auto=update"],
    [.text "spring.jpa.show-sql=true"],
    []] := by
  decide +kernel

theorem linesFilled (p : Project) : (template.cut '\n').map (filled p.bindings) = (entries p).map written := by
  have artifact : p.bindings.get? "artifact_id" = some (Text.Markup.escaped p.artifact) := rfl
  have url : p.bindings.get? "jdbc_url" = some (p.database.url p.artifact) := rfl
  have user : p.bindings.get? "db_username" = some p.database.userName := rfl
  simp [templateLines, entries, written, filled, Template.fill, Piece.fill, Piece.named, artifact, url, user,
    Text.Markup.escaped]

theorem textLines (p : Project) : (p.text .properties).toList = ['\n'].intercalate ((entries p).map written) := by
  rw [← linesFilled, ← Template.cutJoins]
  rfl

theorem keepsWritten {key : List Char} (kept : KeepsLine (key ++ ['='])) (value : List Char) :
    KeepsLine (written (some (key, value))) ↔ KeepsLine value := by
  have whole : written (some (key, value)) = key ++ ['='] ++ value := by simp [written]
  rw [whole, keepsAppend kept]

def urlStart : Database → String
  | .postgresql => "jdbc:postgresql://localhost:5432/"
  | .mysql => "jdbc:mysql://localhost:3306/"

theorem urlText (d : Database) (name : String) : (d.url name).toList = (urlStart d).toList ++ name.toList := by
  cases d <;> exact String.toList_append

theorem urlPlain (d : Database) : '\\' ∉ (urlStart d).toList ∧ KeepsLine (urlStart d).toList := by
  cases d <;> decide +kernel

theorem keepsUrl (d : Database) (name : String) : KeepsLine (d.url name).toList ↔ KeepsLine name.toList := by
  rw [urlText, keepsAppend (urlPlain d).2]

theorem userPlain (d : Database) : '\\' ∉ d.userName.toList ∧ KeepsLine d.userName.toList ∧
    d.userName.toList.dropWhile isSpace = d.userName.toList := by
  cases d <;> decide +kernel

theorem entriesKept (p : Project) :
    (∀ s ∈ (entries p).map written, KeepsLine s) ↔ KeepsLine p.artifact.toList := by
  have blank : KeepsLine (written none) := by decide
  have fixed : KeepsLine "8080".toList ∧ KeepsLine "changeme".toList ∧ KeepsLine "update".toList ∧
      KeepsLine "true".toList := by decide
  simp (disch := decide +kernel) only [entries, List.map_cons, List.map_nil, List.forall_mem_cons, keepsWritten,
    keepsEscaped, keepsUrl, userPlain, fixed, blank]
  simp

theorem keysPlain (p : Project) : ∀ entry ∈ entries p, ∀ setting ∈ entry, IsKey setting.1 := by
  simp only [entries, List.forall_mem_cons]
  simp
  decide

theorem linesRead (p : Project) :
    lines (p.text .properties).toList = (template.cut '\n').map (lineOf <| filled p.bindings ·) ↔
      KeepsLine p.artifact.toList := by
  have parts : (template.cut '\n').map (lineOf <| filled p.bindings ·) = ((entries p).map written).map lineOf := by
    rw [← linesFilled, List.map_map]
    rfl
  rw [parts, textLines]
  constructor
  · intro same
    have key : IsKey "spring.datasource.url".toList := by decide
    have member : Line.setting (written (some ("spring.datasource.url".toList, (p.database.url p.artifact).toList))) ∈
        lines (['\n'].intercalate ((entries p).map written)) := by
      rw [same, written, ← (settingLine key _).1]
      simp [entries, written]
    have kept := linesKeep member
    rwa [keepsWritten (by decide), keepsUrl] at kept
  · intro kept
    exact linesJoined (by simp [entries]) ((entriesKept p).2 kept)

theorem urlTrimmed (d : Database) (name : String) :
    (d.url name).toList.dropWhile isSpace = (d.url name).toList := by
  rw [urlText]
  cases d <;> rfl

/-- The settings of the template, in order, with the two that are made of the artifact. -/
def settings (d : Database) (name url : List Nat) : List (List Nat × List Nat) := [
  (units "spring.application.name".toList, name),
  (units "server.port".toList, units "8080".toList),
  (units "spring.datasource.url".toList, url),
  (units "spring.datasource.username".toList, units d.userName.toList),
  (units "spring.datasource.password".toList, units "changeme".toList),
  (units "spring.jpa.hibernate.ddl-auto".toList, units "update".toList),
  (units "spring.jpa.show-sql".toList, units "true".toList)]

theorem settingsRead {p : Project} (kept : KeepsLine p.artifact.toList) : load (p.text .properties).toList =
    (decode ((escape p.artifact.toList).dropWhile isSpace)).bind fun name =>
      (decode (p.database.url p.artifact).toList).map (settings p.database name) := by
  have lines : lines (p.text .properties).toList = ((entries p).map written).map lineOf := by
    rw [textLines]
    exact linesJoined (by simp [entries]) ((entriesKept p).2 kept)
  rw [load, lines, settingsWritten (keysPlain p)]
  have name : '\\' ∉ "spring.application.name".toList := by decide
  have url : '\\' ∉ "spring.datasource.url".toList := by decide
  have user : '\\' ∉ "spring.datasource.username".toList := by decide
  have port := decodeFixed (by decide : '\\' ∉ "server.port".toList ∧ '\\' ∉ "8080".toList) (by decide)
  have password := decodeFixed
    (by decide : '\\' ∉ "spring.datasource.password".toList ∧ '\\' ∉ "changeme".toList) (by decide)
  have ddl := decodeFixed
    (by decide : '\\' ∉ "spring.jpa.hibernate.ddl-auto".toList ∧ '\\' ∉ "update".toList) (by decide)
  have sql := decodeFixed (by decide : '\\' ∉ "spring.jpa.show-sql".toList ∧ '\\' ∉ "true".toList) (by decide)
  simp only [entries, List.filterMap_cons, id_eq, List.filterMap_nil, List.map_cons, List.map_nil, List.mapM_cons,
    List.mapM_nil, decodeKey name, decodeKey url, decodeFixed ⟨user, (userPlain p.database).1⟩ (userPlain _).2.2,
    port, password, ddl, sql, urlTrimmed]
  cases decode ((escape p.artifact.toList).dropWhile isSpace) <;> [rfl; skip]
  cases decode (p.database.url p.artifact).toList <;> rfl

theorem nameDecoded (s : List Char) : (decode ((escape s).dropWhile isSpace)).isSome = (decode s).isSome := by
  have spaces : '\\' ∉ (escape s).takeWhile isSpace := fun within => by
    simpa [isSpace] using List.mem_takeWhile_imp within
  have whole := decodePlain spaces ((escape s).dropWhile isSpace)
  rw [List.takeWhile_append_dropWhile, Text.Markup.escapeOnePass] at whole
  rw [← decodeEscaped s, whole, Option.isSome_map, Text.Markup.escapeOnePass]

theorem urlDecoded (d : Database) (name : String) :
    (decode (d.url name).toList).isSome = (decode name.toList).isSome := by
  rw [urlText, decodePlain (urlPlain d).1, Option.isSome_map]

structure AreRead (p : Project) (text : List Char) : Prop where
  /-- The lines are those of the template exactly when the artifact keeps to its line. -/
  unbroken : lines text = (template.cut '\n').map (lineOf <| filled p.bindings ·) ↔ KeepsLine p.artifact.toList
  values : KeepsLine p.artifact.toList → load text =
    (decode ((escape p.artifact.toList).dropWhile isSpace)).bind fun name =>
      (decode (p.database.url p.artifact).toList).map (settings p.database name)
  /-- The settings are those of the template exactly when the escapes of the artifact are whole as well. -/
  whole : (lines text = (template.cut '\n').map (lineOf <| filled p.bindings ·) ∧
      ∃ name url, load text = some (settings p.database name url)) ↔
    KeepsLine p.artifact.toList ∧ (decode p.artifact.toList).isSome

theorem areRead (p : Project) : AreRead p (p.text .properties).toList := by
  refine ⟨linesRead p, settingsRead, ?_⟩
  rw [linesRead p]
  refine and_congr_right fun kept => ?_
  rw [settingsRead kept]
  have name := nameDecoded p.artifact.toList
  have url := urlDecoded p.database p.artifact
  cases decoded : decode p.artifact.toList with
  | none =>
    rw [decoded] at name
    have none := Option.isSome_eq_false_iff.1 name
    simp [Option.isNone_iff_eq_none.1 none]
  | some value =>
    rw [decoded] at name url
    obtain ⟨nameValue, first⟩ := Option.isSome_iff_exists.1 name
    obtain ⟨urlValue, second⟩ := Option.isSome_iff_exists.1 url
    simp [first, second]

end Project.Properties
end ClassScaffold
