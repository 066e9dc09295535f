import ClassScaffold.Proofs.Project.Settings
import ClassScaffold.Proofs.Scaffold.Confined
import ClassScaffold.Proofs.Scaffold.Tree
/-! The settings of a project that was filled. The artifact comes from the name of the project, and nothing that a
request is checked for keeps a break or a last backslash out of it. -/
namespace ClassScaffold.Scaffold
open Session (Ends Program)
open Text.Setting (load)
open Project.Properties (AreRead areRead settings)

variable {root : Path} {r : Request} {database : Database} {s s' : Session}

def settingsNames : List String := ["src", "main", "resources", "application.properties"]

/-- A planned file with the settings of a project that has the name and the database of a request. -/
structure HasSettings (root : Path) (r : Request) (database : Database) (p : Project) (file : PlannedFile) : Prop where
  path : root.Within settingsNames file.path
  name : p.name = r.project
  database : p.database = database
  text : file.text = p.text .properties

theorem planSettings {plan : Plan} (ok : Plan.ofRequest root r database = .ok plan) :
    ∃ p, ∃ file ∈ plan.files, HasSettings root r database p file := by
  obtain ⟨layout, entries, classes, accepted⟩ := Plan.ofRequestAccepted ok
  obtain ⟨main, test, package⟩ := Layout.ofPackageNames accepted.package
  refine ⟨⟨r.project, layout.package, database⟩, ⟨layout.projectPath entries .properties,
    Project.text ⟨r.project, layout.package, database⟩ .properties⟩, ?member, ?has⟩
  case member =>
    rw [accepted.files]
    exact List.mem_append_left _ (List.mem_map_of_mem (by decide : Project.File.properties ∈ Project.File.all))
  case has =>
    refine ⟨Layout.propertiesWithin package.below entries, ?_, ?_, ?_⟩ <;> dsimp only

/-- A filled project has its settings, in the lines of the template as far as the artifact keeps to its line. -/
theorem fillSettings {paths : List Path}
    (ends : Ends (fill root r database : Program FilingFault (List Path)) s (.ok paths) s') :
    ∃ plan p, Plan.ofRequest root r database = .ok plan ∧ paths = plan.files.map PlannedFile.path ∧
      ∃ file ∈ plan.files, HasSettings root r database p file ∧ AreRead p file.text.toList := by
  obtain ⟨plan, ok, same, _⟩ := fillPlan ends
  obtain ⟨p, file, member, has⟩ := planSettings ok
  exact ⟨plan, p, ok, same, file, member, has, has.text ▸ areRead p⟩

def broken : Request := ⟨some "a\nb", none, []⟩

theorem brokenEnds : ∃ paths s',
    Ends (fill ⟨"/"⟩ broken .postgresql : Program FilingFault (List Path)) blank (.ok paths) s' :=
  Session.endsIsOk (by decide +kernel)

theorem fillSettingsBroken : ∃ paths s' p, ∃ plan : Plan,
    Ends (fill ⟨"/"⟩ broken .postgresql : Program FilingFault (List Path)) blank (.ok paths) s' ∧
      paths = plan.files.map PlannedFile.path ∧
      ∃ file ∈ plan.files, HasSettings ⟨"/"⟩ broken .postgresql p file ∧ AreRead p file.text.toList := by
  obtain ⟨paths, s', ends⟩ := brokenEnds
  obtain ⟨plan, p, _, same, found⟩ := fillSettings ends
  exact ⟨paths, s', p, plan, ends, same, found⟩

theorem brokenLoad : (load (['\n'].intercalate
    ((Project.Properties.entries ⟨"a\nb", "", .postgresql⟩).map Text.Setting.written))).map List.length = some 9 := by
  decide +kernel

/-- A break in the name of a project is one in its settings: what is behind it is a key of its own. -/
theorem settingsBroken : ¬ ∀ (root : Path) (r : Request) (database : Database) (s s' : Session) (paths : List Path)
    (plan : Plan), Ends (fill root r database : Program FilingFault (List Path)) s (.ok paths) s' →
    Plan.ofRequest root r database = .ok plan → ∀ file ∈ plan.files, root.Within settingsNames file.path →
    ∃ name url, load file.text.toList = some (settings database name url) := by
  intro all
  obtain ⟨paths, s', ends⟩ := brokenEnds
  obtain ⟨plan, ok, _⟩ := fillPlan ends
  obtain ⟨⟨name, package, d⟩, file, member, within, named, same, text⟩ := planSettings ok
  obtain ⟨nameValue, url, read⟩ := all _ _ _ _ _ _ _ ends ok file member within
  obtain rfl : name = "a\nb" := named
  obtain rfl : d = .postgresql := same
  rw [text, Project.Properties.textLines] at read
  -- the package of the project is in none of the lines
  have fewer : (load (['\n'].intercalate ((Project.Properties.entries ⟨"a\nb", package, .postgresql⟩).map
      Text.Setting.written))).map List.length = some 7 := by
    rw [read]
    rfl
  cases fewer.symm.trans brokenLoad

end ClassScaffold.Scaffold
