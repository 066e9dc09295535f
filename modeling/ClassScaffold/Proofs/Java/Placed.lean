import ClassScaffold.Proofs.Java.Declared
import ClassScaffold.Proofs.Plan.Flat
import ClassScaffold.Proofs.Scaffold.Collision
/-! Where the generated sources lie. A compiler looks for a source below its tree, by the names of the package
that the source declares and under the name of its type. The names of a path come from a request by another
way than those in the text; both ways give the same names, so what is read from a source leads to it just
when reading gets these names back. -/
namespace ClassScaffold.Java
open Session (Ends Program)
open Layout (sourceNames testNames)

/- Files -/

structure JavaFile where
  tree : List String
  package : List String
  type : String
  deriving DecidableEq, Repr

namespace JavaFile

def name (j : JavaFile) : String := Text.trimmed (j.type ++ ".java")

def IsPlain (j : JavaFile) : Prop := (∀ name ∈ j.package, IsPlainName name) ∧ IsPlainType j.type
instance (j) : Decidable (IsPlain j) := by unfold IsPlain; infer_instance

structure IsAt (root : Path) (j : JavaFile) (f : PlannedFile) : Prop where
  path : root.Within (j.tree ++ j.package ++ [j.name]) f.path
  text : Declares f.text (".".intercalate j.package) j.type

theorem nameText (j : JavaFile) : j.name = String.ofList (Text.trimStart j.type.toList) ++ ".java" := by
  rw [name, ← String.ofList_toList (s := Text.trimmed _), fileTrimmed, String.ofList_append, String.ofList_toList]

end JavaFile

/-- The source is where it is looked for by the names that it declares. -/
def IsExpected (root : Path) (tree : List String) (f : PlannedFile) : Prop :=
  ∃ package ∈ packageOf f.text, ∃ type ∈ typeOf f.text, root.Within (tree ++ package ++ [type ++ ".java"]) f.path
instance (root tree f) : Decidable (IsExpected root tree f) := by unfold IsExpected Path.Within; infer_instance

theorem expectedIff {root : Path} {j : JavaFile} {f : PlannedFile} (placed : j.IsAt root f) (some : j.package ≠ []) :
    IsExpected root j.tree f ↔ j.IsPlain := by
  constructor
  · rintro ⟨package, packageRead, type, typeRead, within⟩
    have same : j.tree ++ package ++ [type ++ ".java"] = j.tree ++ j.package ++ [j.name] := by
      rw [← Path.namesFromWithin within, Path.namesFromWithin placed.path]
    obtain ⟨trees, names⟩ := List.append_inj' same (by simp)
    obtain rfl := List.append_cancel_left trees
    have types : type.toList = Text.trimStart j.type.toList := by
      have ends := (List.cons.inj names).1
      rw [JavaFile.nameText, String.append_left_inj] at ends
      simp [ends]
    refine ⟨packageOfPlain packageRead, fun c member => ?_⟩
    exact typeOfPlain typeRead c (types ▸ member)
  · rintro ⟨names, type⟩
    have typeRead := declaresType (dottedLine names) type placed.text
    refine ⟨j.package, declaresPackage some names placed.text, _, typeRead, ?_⟩
    rw [← JavaFile.nameText]
    exact placed.path

/-- The file has the names in both places, and is found by them when they are plain and not otherwise. -/
structure Places (root : Path) (j : JavaFile) (f : PlannedFile) : Prop where
  isAt : j.IsAt root f
  expected : IsExpected root j.tree f ↔ j.IsPlain

theorem atPlaces {root : Path} {j : JavaFile} {f : PlannedFile} (isAt : j.IsAt root f) (some : j.package ≠ []) :
    Places root j f := ⟨isAt, expectedIff isAt some⟩

/- Requests -/

def layerFile (package : List String) (n : Naming) (l : Layer) : JavaFile :=
  ⟨sourceNames [], package ++ [n.group, l.directory], l.typeName n.typeName⟩

def sources (package : List String) (entry : String) (namings : List Naming) : List JavaFile :=
  ⟨sourceNames [], package, entry⟩ :: ⟨testNames [], package, entry ++ "Tests"⟩ ::
    namings.flatMap fun n => Layer.all.map (layerFile package n)

def javaFiles (r : Request) : List JavaFile :=
  sources (Package.segments r.package) (Text.pascal r.project ++ Project.entryStem) (Plan.namings r)

/-- Two files of other kinds and then all sources, each at its place. -/
structure HasSources (root : Path) (r : Request) (pom properties : PlannedFile)
    (javas : List PlannedFile) : Prop where
  pom : root.Within ["pom.xml"] pom.path
  properties : root.Within ["src", "main", "resources", "application.properties"] properties.path
  javas : List.Forall₂ (Places root) (javaFiles r) javas

theorem intercalateConcat {names : List String} (some : names ≠ []) (name : String) :
    ".".intercalate (names ++ [name]) = ".".intercalate names ++ "." ++ name := by
  induction names with
  | nil => contradiction
  | cons first rest ih =>
    cases rest with
    | nil => simp
    | cons next others =>
      rw [List.cons_append, List.cons_append, String.intercalate_cons_cons, ← List.cons_append, ih (by simp),
        String.intercalate_cons_cons]
      simp only [String.append_assoc]

theorem layerName (n : Naming) (l : Layer) (package : List String) :
    (layerFile package n l).name = l.fileName n.typeName := by
  rw [JavaFile.nameText, layerFile, layerStart, String.ofList_toList, Layer.fileName]

theorem layerIsAt {root directory : Path} {segments : List String} {e : Entity} (some : segments ≠ [])
    (package : e.package = Package.ofSegments segments) (shape : e.naming.IsShaped)
    (flat : '/' ∉ e.naming.group.toList)
    (within : root.Within (sourceNames segments ++ [e.naming.directory]) directory) (l : Layer) :
    (layerFile segments e.naming l).IsAt root ⟨Layout.layerPath directory e.naming l, l.text e⟩ := by
  have isFlat : e.naming.IsFlat := by
    rcases shape with isFlat | cut
    · exact isFlat
    · exact absurd (by simp [cut.groupText]) flat
  constructor
  · have here := Layout.layerWithin shape within l
    rw [Naming.layerNamesFlat isFlat, ← layerName e.naming l segments] at here
    simpa [layerFile, sourceNames] using here
  · have names : ".".intercalate (segments ++ [e.naming.group, l.directory]) = e.basePackage ++ "." ++ l.directory := by
      rw [List.append_cons, intercalateConcat (by simp), intercalateConcat some, Entity.basePackage, package,
        Package.ofSegments]
    have declares := layerDeclares e l
    rw [← names] at declares
    exact declares

theorem packageFlat {root : Path} {segments main test : List String} {l : Layout}
    (plain : ∀ segment ∈ segments, Text.trimmed segment = segment ∧ '/' ∉ segment.toList)
    (package : Layout.HasPackage root segments l main test) : Layout.HasPackage root segments l segments segments := by
  obtain rfl := segmentsFlat package.single.1 plain
  obtain rfl := segmentsFlat package.single.2 plain
  exact package

theorem entriesWithin {root : Path} {l : Layout} {name package : String} {database : Database} {e : Layout.Entries}
    {main test : List String} (source : root.Within main l.packageDirectory)
    (tests : root.Within test l.testPackageDirectory) (ok : l.entries ⟨name, package, database⟩ = .ok e) :
    let p : Project := ⟨name, package, database⟩
    root.Within (main ++ [Text.trimmed (p.entryClass ++ ".java")]) e.main ∧
      root.Within (test ++ [Text.trimmed (p.entryClass ++ "Tests" ++ ".java")]) e.test := by
  obtain ⟨entry, entryTest, single, testSingle, within, testWithin⟩ := Plan.entriesNamed source tests ok
  have file : "Tests.java" = "Tests" ++ ".java" := rfl
  rw [file, ← String.append_assoc] at testSingle
  rw [fileSegment single] at within
  rw [fileSegment testSingle] at testWithin
  exact ⟨within, testWithin⟩

theorem entryIsAt {root path : Path} {segments : List String} {p : Project}
    (named : p.package = ".".intercalate segments)
    (within : root.Within (sourceNames segments ++ [Text.trimmed (p.entryClass ++ ".java")]) path) :
    JavaFile.IsAt root ⟨sourceNames [], segments, p.entryClass⟩ ⟨path, p.text .entry⟩ := by
  have declares := entryDeclares p
  rw [named] at declares
  exact ⟨within, declares⟩

theorem entryTestIsAt {root path : Path} {segments : List String} {p : Project}
    (named : p.package = ".".intercalate segments)
    (within : root.Within (testNames segments ++ [Text.trimmed (p.entryClass ++ "Tests" ++ ".java")]) path) :
    JavaFile.IsAt root ⟨testNames [], segments, p.entryClass ++ "Tests"⟩ ⟨path, p.text .entryTest⟩ := by
  have declares := entryTestDeclares p
  rw [named] at declares
  exact ⟨within, declares⟩

theorem projectFiles (l : Layout) (p : Project) (e : Layout.Entries) : Plan.projectGroup l p e =
    [⟨l.projectPath e .pom, p.text .pom⟩, ⟨l.projectPath e .properties, p.text .properties⟩,
      ⟨e.main, p.text .entry⟩, ⟨e.test, p.text .entryTest⟩] := rfl

theorem acceptedPlaces {root : Path} {r : Request} {l : Layout} {e : Layout.Entries} {classes : List Path}
    {segments : List String} {name : String} {database : Database}
    (package : Layout.HasPackage root segments l segments segments)
    (groups : ∀ n ∈ Plan.namings r, '/' ∉ n.group.toList) (entries : l.entries ⟨name, l.package, database⟩ = .ok e)
    (accepted : List.Forall₂ (fun n p => l.classDirectory n = .ok p) (Plan.namings r) classes) :
    let p : Project := ⟨name, l.package, database⟩
    List.Forall₂ (Places root) (sources segments (Text.pascal name ++ Project.entryStem) (Plan.namings r))
      (⟨e.main, p.text .entry⟩ :: ⟨e.test, p.text .entryTest⟩ ::
        (List.zipWith Plan.classGroup classes (Plan.entities r l.package)).flatten) := by
  obtain ⟨entryWithin, testWithin⟩ := entriesWithin package.source package.tests entries
  have entry := entryIsAt package.named entryWithin
  have entryTest := entryTestIsAt package.named testWithin
  have located : List.Forall₂ (fun n p => '/' ∉ n.group.toList ∧ n.IsShaped ∧
      root.Within (sourceNames segments ++ [n.directory]) p) (Plan.namings r) classes :=
    (List.forall₂_and_left _ _).2 ⟨groups, Plan.classesWithin package.source accepted⟩
  have layers := Plan.classGroupsRelated (Places root) (layerFile segments) located (Plan.entitiesNamed r l.package)
    fun p e ⟨flat, shape, within⟩ same l =>
      atPlaces (layerIsAt package.some (same.trans package.named) shape flat within l) (by simp [layerFile])
  exact .cons (atPlaces entry package.some) (.cons (atPlaces entryTest package.some) layers)

theorem planSources {root : Path} {r : Request} {database : Database} {plan : Plan} (flat : r.IsFlat)
    (ok : Plan.ofRequest root r database = .ok plan) :
    ∃ pom properties javas, plan.files = pom :: properties :: javas ∧ HasSources root r pom properties javas := by
  obtain ⟨layout, entries, classes, accepted⟩ := Plan.ofRequestAccepted ok
  obtain ⟨main, test, package⟩ := Layout.ofPackageNames accepted.package
  have package := packageFlat (Package.segmentsPlain flat.1) package
  have places := acceptedPlaces package (Plan.groupsFlat flat) accepted.project accepted.classes
  have files := accepted.files
  rw [projectFiles] at files
  have pom := Layout.pomWithin package.below entries
  exact ⟨_, _, _, files, pom, Layout.propertiesWithin package.below entries, places⟩

/- Filling -/

variable {root : Path} {r : Request} {database : Database} {s s' : Session}

theorem filledFlat {l : Disk.Location} {paths : List Path} (flat : r.IsFlat) (wf : s.disk.WellFormed)
    (found : s.disk.find root = .ok l) (directory : s.disk.get? l = some .directory)
    (empty : ∀ rel, rel ≠ [] → s.disk.get? (rel ++ l) = none)
    (ends : Ends (Scaffold.fill root r database : Program FilingFault (List Path)) s (.ok paths) s') :
    ∃ plan, Plan.ofRequest root r database = .ok plan ∧
      (s'.disk.filesBelow l).Perm (plan.files.map (Scaffold.placed root)) := by
  have clear : Disk.IsClear s.disk l := fun rel some target link => by
    rw [empty rel some] at link
    cases link
  obtain ⟨plan, ok, _, region, tree⟩ := Scaffold.fillShows ⟨wf, found, directory, clear⟩ empty ends
  refine ⟨plan, ok, (Disk.filesBelowPerm region.wellFormed tree (Scaffold.plannedPlaces ok)).2 ?_⟩
  refine (Scaffold.planNodup ok).2.2.2 (List.pairwise_of_forall_mem_list ?_)
  exact fun a member b _ clash => Plan.groupsFlat flat a member clash.cuts.1

/-- A filled project has its sources at the places of its request. A source whose package has no name with a
dot or a line break, and whose type has no white space, is where it is looked for; no other is. -/
theorem fillPlaces {paths : List Path} (flat : r.IsFlat)
    (ends : Ends (Scaffold.fill root r database : Program FilingFault (List Path)) s (.ok paths) s') :
    ∃ plan pom properties javas, Plan.ofRequest root r database = .ok plan ∧
      paths = plan.files.map PlannedFile.path ∧ plan.files = pom :: properties :: javas ∧
      HasSources root r pom properties javas ∧
      ∀ l, s.disk.WellFormed → s.disk.find root = .ok l → s.disk.get? l = some .directory →
        (∀ rel, rel ≠ [] → s.disk.get? (rel ++ l) = none) →
        (s'.disk.filesBelow l).Perm (plan.files.map (Scaffold.placed root)) := by
  obtain ⟨plan, ok, same, _⟩ := Scaffold.fillPlan ends
  obtain ⟨pom, properties, javas, files, sources⟩ := planSources flat ok
  refine ⟨plan, pom, properties, javas, ok, same, files, sources, fun l wf found directory empty => ?_⟩
  obtain ⟨other, otherOk, perm⟩ := filledFlat flat wf found directory empty ends
  obtain rfl := Except.ok.inj (ok.symm.trans otherOk)
  exact perm

def dotted : Request := ⟨some "p", some "p", [⟨["a.b"], [], []⟩]⟩

theorem dottedEnds : ∃ paths s', Ends (Scaffold.fill ⟨"/"⟩ dotted .postgresql) Scaffold.blank (.ok paths) s' :=
  Session.endsIsOk (by decide +kernel)

theorem dottedFlat : dotted.IsFlat := by decide +kernel

theorem dottedPlain : (javaFiles dotted).map (fun j => decide j.IsPlain) =
    [true, true, false, false, false, false] := by decide +kernel

theorem fillPlacesDotted : ∃ paths s' pom properties javas,
    Ends (Scaffold.fill ⟨"/"⟩ dotted .postgresql : Program FilingFault (List Path)) Scaffold.blank (.ok paths) s' ∧
      dotted.IsFlat ∧ paths = (pom :: properties :: javas).map PlannedFile.path ∧
      HasSources ⟨"/"⟩ dotted pom properties javas ∧
      (javaFiles dotted).map (fun j => decide j.IsPlain) = [true, true, false, false, false, false] := by
  obtain ⟨paths, s', ends⟩ := dottedEnds
  obtain ⟨plan, pom, properties, javas, _, same, files, sources, _⟩ := fillPlaces dottedFlat ends
  exact ⟨paths, s', pom, properties, javas, ends, dottedFlat, files ▸ same, sources, dottedPlain⟩

/-- A file below a tree of sources need not be where it is looked for. -/
theorem sourcesMisplaced : ¬ ∀ (root : Path) (r : Request) (database : Database) (s s' : Session)
    (paths : List Path), Ends (Scaffold.fill root r database : Program FilingFault (List Path)) s (.ok paths) s' →
    ∃ plan, Plan.ofRequest root r database = .ok plan ∧ paths = plan.files.map PlannedFile.path ∧
      ∀ f ∈ plan.files, ∀ tree ∈ [sourceNames [], testNames []],
        (∃ names, root.Within (tree ++ names) f.path) → IsExpected root tree f := by
  intro all
  obtain ⟨paths, s', ends⟩ := dottedEnds
  obtain ⟨plan, ok, _, expected⟩ := all _ _ _ _ _ _ ends
  obtain ⟨pom, properties, javas, files, sources⟩ := planSources dottedFlat ok
  -- a source that is not plain is in its tree, but reading its names does not lead to it
  have trees : ∀ j ∈ javaFiles dotted, j.tree ∈ [sourceNames [], testNames []] := by decide +kernel
  have placed : List.Forall₂ (fun f j => f ∈ javas ∧ Places ⟨"/"⟩ j f) javas (javaFiles dotted) :=
    (List.forall₂_and_left _ _).2 ⟨fun _ member => member, sources.javas.flip⟩
  have plain : List.Forall₂ (fun j _ => (j ∈ javaFiles dotted → j.IsPlain) ∧ True) (javaFiles dotted) javas := by
    refine placed.flip.imp fun j f ⟨member, places⟩ => ⟨fun inside => ?_, trivial⟩
    have within : (⟨"/"⟩ : Path).Within (j.tree ++ (j.package ++ [j.name])) f.path := by
      simpa using places.isAt.path
    exact places.expected.1 (expected f (by simp [files, member]) j.tree (trees j inside) ⟨_, within⟩)
  have missed : false ∈ (javaFiles dotted).map fun j => decide j.IsPlain := by
    rw [dottedPlain]
    decide
  obtain ⟨j, inside, value⟩ := List.mem_map.1 missed
  exact of_decide_eq_false value (((List.forall₂_and_left _ _).1 plain).1 j inside inside)

end ClassScaffold.Java
