import ClassScaffold.Proofs.Java.Placed
import ClassScaffold.Proofs.Project.Pom
import ClassScaffold.Proofs.Scaffold.Settings
import ClassScaffold.Proofs.Text.Words
/-! What a project that was filled is called in its files. Its artifact and the start of its entry point are made of
the words of its name, so both are empty when the name has no word, and a name is not checked for one. -/
namespace ClassScaffold
open Session (Ends Program)
open Layout (sourceNames)
open Text (HasWord)
open Text.Markup (contents)

namespace Project

/-- The setting that names the database. -/
def urlLine (p : Project) : List Char :=
  "spring.datasource.url".toList ++ '=' :: ((Properties.urlStart p.database).toList ++ p.artifact.toList)

theorem urlWritten (p : Project) :
    ∃ before after, (p.text .properties).toList = before ++ '\n' :: p.urlLine ++ '\n' :: after := by
  have line (key : List Char) : Text.Setting.written (some (key, (p.database.url p.artifact).toList)) =
      key ++ '=' :: ((Properties.urlStart p.database).toList ++ p.artifact.toList) := by
    rw [Text.Setting.written, Properties.urlText]
  have cut : ∃ first second, first ≠ [] ∧ second ≠ [] ∧ Properties.entries p = first ++
      some ("spring.datasource.url".toList, (p.database.url p.artifact).toList) :: second :=
    ⟨_ :: _ :: _ :: [], _ :: _, by simp, by simp, rfl⟩
  obtain ⟨first, second, someFirst, someSecond, entries⟩ := cut
  rw [Properties.textLines, entries, List.map_append, List.map_cons, line,
    Text.intercalateAround '\n' (by simpa using someFirst) (by simpa using someSecond)]
  exact ⟨_, _, rfl⟩

theorem artifactSome (p : Project) : p.artifact ≠ "" ↔ HasWord p.name.toList := by
  rw [ne_eq, artifact, Text.kebabNone, not_not]

theorem entrySome (p : Project) : Text.pascal p.name ≠ "" ↔ HasWord p.name.toList := by
  rw [ne_eq, Text.pascalNone, not_not]

end Project

namespace Scaffold

variable {root : Path} {r : Request} {database : Database} {plan : Plan} {s s' : Session}

/-- Three planned files with the names that a project has in them: its artifact in the build descriptor and in the
address of the database, and its entry point. -/
structure Calls (root : Path) (plan : Plan) (p : Project) : Prop where
  pom : ∃ f ∈ plan.files, root.Within ["pom.xml"] f.path ∧
    contents ["project", "artifactId"] f.text.toList = some [p.artifact.toList]
  url : ∃ f ∈ plan.files, root.Within settingsNames f.path ∧
    ∃ before after, f.text.toList = before ++ '\n' :: p.urlLine ++ '\n' :: after
  entry : ∃ f ∈ plan.files,
    (∃ main, root.Within (sourceNames main ++ [Text.trimmed (p.entryClass ++ ".java")]) f.path) ∧
      Java.Declares f.text p.package p.entryClass

theorem planCalls (ok : Plan.ofRequest root r database = .ok plan) :
    ∃ p : Project, p.name = r.project ∧ p.database = database ∧ Calls root plan p := by
  obtain ⟨layout, entries, classes, accepted⟩ := Plan.ofRequestAccepted ok
  obtain ⟨main, test, package⟩ := Layout.ofPackageNames accepted.package
  obtain ⟨entryWithin, _⟩ := Java.entriesWithin package.source package.tests accepted.project
  have planned (f : Project.File) : ⟨layout.projectPath entries f,
      Project.text ⟨r.project, layout.package, database⟩ f⟩ ∈ plan.files := by
    rw [accepted.files]
    exact List.mem_append_left _ (List.mem_map_of_mem (by cases f <;> decide))
  refine ⟨⟨r.project, layout.package, database⟩, ?_, ?_, ⟨_, planned .pom, Layout.pomWithin package.below entries, ?_⟩,
    ⟨_, planned .properties, Layout.propertiesWithin package.below entries, Project.urlWritten _⟩,
    ⟨_, planned .entry, ⟨main, entryWithin⟩, Java.entryDeclares _⟩⟩
  · dsimp only
  · dsimp only
  · exact Project.Pom.elementHolds _ ("artifactId", "artifact_id") _ (by decide) rfl

/-- The artifact of a filled project is empty exactly when its name has nothing but underscores, hyphens and spaces,
and then its entry point has nothing in front of its stem. -/
theorem fillCalls {paths : List Path}
    (ends : Ends (fill root r database : Program FilingFault (List Path)) s (.ok paths) s') :
    ∃ plan p, Plan.ofRequest root r database = .ok plan ∧ paths = plan.files.map PlannedFile.path ∧
      p.name = r.project ∧ p.database = database ∧ Calls root plan p ∧
      (p.artifact ≠ "" ↔ HasWord r.project.toList) ∧
      ∃ start, p.entryClass = start ++ Project.entryStem ∧ (start ≠ "" ↔ HasWord r.project.toList) := by
  obtain ⟨plan, ok, same, _⟩ := fillPlan ends
  obtain ⟨p, name, database, calls⟩ := planCalls ok
  refine ⟨plan, p, ok, same, name, database, calls, ?_, Text.pascal p.name, ?_, ?_⟩
  · rw [← name]
    exact p.artifactSome
  · rw [Project.entryClass]
  · rw [← name]
    exact p.entrySome

def wordless : Request := ⟨some " _-_ ", none, []⟩

theorem wordlessEnds : ∃ paths s',
    Ends (fill ⟨"/"⟩ wordless .postgresql : Program FilingFault (List Path)) blank (.ok paths) s' :=
  Session.endsIsOk (by decide +kernel)

theorem wordlessName : ¬ HasWord wordless.project.toList := by decide +kernel

theorem fillCallsWordless : ∃ paths s' plan p,
    Ends (fill ⟨"/"⟩ wordless .postgresql : Program FilingFault (List Path)) blank (.ok paths) s' ∧
      Plan.ofRequest ⟨"/"⟩ wordless .postgresql = .ok plan ∧ Calls ⟨"/"⟩ plan p ∧ p.artifact = "" ∧
      p.entryClass = "Application" := by
  obtain ⟨paths, s', ends⟩ := wordlessEnds
  obtain ⟨plan, p, ok, _, _, _, calls, artifact, start, entry, some⟩ := fillCalls ends
  refine ⟨paths, s', plan, p, ends, ok, calls, ?_, ?_⟩
  · exact not_not.1 fun other => wordlessName (artifact.1 other)
  · rw [entry, not_not.1 fun other => wordlessName (some.1 other)]
    rfl

/-- A name of separators alone passes, and leaves the artifact and the start of the entry point empty. -/
theorem namesEmpty : ¬ ∀ (root : Path) (r : Request) (database : Database) (s s' : Session) (paths : List Path),
    Ends (fill root r database : Program FilingFault (List Path)) s (.ok paths) s' →
    Text.kebab r.project ≠ "" ∧ Text.pascal r.project ≠ "" := by
  intro all
  obtain ⟨paths, s', ends⟩ := wordlessEnds
  exact (all _ _ _ _ _ _ ends).1 (Text.kebabNone.2 wordlessName)

end Scaffold
end ClassScaffold
