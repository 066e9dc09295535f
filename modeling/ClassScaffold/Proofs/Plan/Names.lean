import ClassScaffold.Plan
import ClassScaffold.Proofs.Disk.Confine
import ClassScaffold.Proofs.Naming.Files
/-! The names that a plan goes by below its root. Every path of a plan goes on from the root by names alone,
whatever the request is made of. -/
namespace ClassScaffold
open ClassScaffold.Path (InvalidSegment Part)

/- Answers put together from answers -/

theorem okBind {ε α β : Type} {x : Except ε α} {f : α → Except ε β} {b : β} (ok : x >>= f = .ok b) :
    ∃ a, x = .ok a ∧ f a = .ok b := by
  cases x with
  | error e => contradiction
  | ok a => exact ⟨a, rfl, ok⟩

theorem okMapM {ε α β : Type} {f : α → Except ε β} {items : List α} {results : List β}
    (ok : items.mapM f = .ok results) : List.Forall₂ (fun item result => f item = .ok result) items results := by
  induction items generalizing results with
  | nil =>
    cases ok
    exact .nil
  | cons item rest ih =>
    rw [List.mapM_cons] at ok
    obtain ⟨result, first, ok⟩ := okBind ok
    obtain ⟨others, later, ok⟩ := okBind ok
    cases ok
    exact .cons first (ih later)

/- Segments -/

/-- A segment stands for one name, which is the segment itself when it has no separators. -/
def IsSegment (segment name : String) : Prop := (⟨Text.trimmed segment⟩ : Path).parts = [.normal name]

theorem withinSegment {root p q : Path} {before : List String} {segment context : String}
    (within : root.Within before p) (ok : p.joinSegment segment context = .ok q) :
    ∃ name, IsSegment segment name ∧ root.Within (before ++ [name]) q := by
  obtain ⟨_, name, shape, parts⟩ := Path.joinSegmentParts ok
  unfold Path.Within at *
  exact ⟨name, shape, by rw [parts, within]; simp⟩

namespace Layout

theorem descendWithin {root start q : Path} {before segments : List String}
    (within : root.Within before start) (ok : descend start segments = .ok q) :
    ∃ names, List.Forall₂ IsSegment segments names ∧ root.Within (before ++ names) q := by
  unfold descend at ok
  induction segments generalizing start before with
  | nil =>
    cases ok
    exact ⟨[], .nil, by simpa using within⟩
  | cons segment rest ih =>
    rw [List.foldlM_cons] at ok
    obtain ⟨p, first, later⟩ := okBind ok
    obtain ⟨name, single, here⟩ := withinSegment within first
    obtain ⟨names, singles, whole⟩ := ih here later
    exact ⟨name :: names, .cons single singles, by simpa using whole⟩

def sourceNames (main : List String) : List String := "src" :: "main" :: "java" :: main

def testNames (test : List String) : List String := "src" :: "test" :: "java" :: test

structure HasPackage (root : Path) (segments : List String) (l : Layout) (main test : List String) : Prop where
  below : l.root = root
  named : l.package = Package.ofSegments segments
  some : segments ≠ []
  single : List.Forall₂ IsSegment segments main ∧ List.Forall₂ IsSegment segments test
  source : root.Within (sourceNames main) l.packageDirectory
  tests : root.Within (testNames test) l.testPackageDirectory

theorem ofPackageNames {root : Path} {package : String} {l : Layout} (ok : ofPackage root package = .ok l) :
    ∃ main test, HasPackage root (Package.segments package) l main test := by
  simp only [ofPackage] at ok
  split at ok
  · contradiction
  · next some =>
    obtain ⟨mainPath, mainOk, ok⟩ := okBind ok
    obtain ⟨testPath, testOk, ok⟩ := okBind ok
    cases ok
    have source : root.Within ["src", "main", "java"] (root.join sourceRoot) :=
      withinJoin (withinSelf root) (by simp) (by decide)
    have tests : root.Within ["src", "test", "java"] (root.join testSourceRoot) :=
      withinJoin (withinSelf root) (by simp) (by decide)
    obtain ⟨main, mainSegments, mainWithin⟩ := descendWithin source mainOk
    obtain ⟨test, testSegments, testWithin⟩ := descendWithin tests testOk
    exact ⟨main, test, rfl, rfl, by simpa using some, ⟨mainSegments, testSegments⟩, mainWithin, testWithin⟩

theorem resourcesWithin {root : Path} {l : Layout} (below : l.root = root) :
    root.Within ["src", "main", "resources"] l.resourceDirectory ∧
      root.Within ["src", "test", "resources"] l.testResourceDirectory := by
  rw [resourceDirectory, testResourceDirectory, below]
  exact ⟨withinJoin (withinSelf _) (by simp) (by decide), withinJoin (withinSelf _) (by simp) (by decide)⟩

theorem pomWithin {root : Path} {l : Layout} (below : l.root = root) (e : Entries) :
    root.Within ["pom.xml"] (l.projectPath e .pom) := by
  rw [projectPath, below]
  exact withinJoin (withinSelf _) (by simp) (by decide)

theorem propertiesWithin {root : Path} {l : Layout} (below : l.root = root) (e : Entries) :
    root.Within ["src", "main", "resources", "application.properties"] (l.projectPath e .properties) := by
  change root.Within (["src", "main", "resources"] ++ ["application.properties"]) _
  exact withinJoin (resourcesWithin below).1 (by simp) (by decide)

theorem layerWithin {root directory : Path} {before : List String} {n : Naming}
    (shape : n.IsShaped) (within : root.Within (before ++ [n.directory]) directory) (layer : Layer) :
    root.Within (before ++ n.layerNames layer) (layerPath directory n layer) := by
  have inner : root.Within ((before ++ [n.directory]) ++ [layer.directory])
      (directory.join layer.directory) := withinJoin within (by simp) (by cases layer <;> decide)
  have some : n.fileNames layer ≠ [] := by
    unfold Naming.fileNames
    split <;> simp
  have whole := withinJoin inner some (Naming.fileParts shape layer)
  simpa [layerPath, Naming.layerNames] using whole

end Layout

namespace Plan
open Layout (sourceNames testNames)

def projectNames (main test : List String) (entry entryTest : String) : List (List String) :=
  [["pom.xml"], ["src", "main", "resources", "application.properties"], sourceNames main ++ [entry],
    testNames test ++ [entryTest]]

def classNames (main : List String) (n : Naming) : List (List String) :=
  Layer.all.map fun layer => sourceNames main ++ n.layerNames layer

structure HasNames (root : Path) (namings : List Naming) (plan : Plan) (main test : List String)
    (entry entryTest : String) : Prop where
  directories : List.Forall₂ root.Within [sourceNames main, testNames test,
    ["src", "main", "resources"], ["src", "test", "resources"]] plan.directories
  files : List.Forall₂ root.Within (projectNames main test entry entryTest ++
    namings.flatMap (classNames main)) (plan.files.map PlannedFile.path)
  shapes : ∀ n ∈ namings, n.IsShaped

theorem classGroupRelated {α : Type} {related : α → PlannedFile → Prop} {expected : Layer → α} {directory : Path}
    {e : Entity} (each : ∀ layer, related (expected layer) ⟨Layout.layerPath directory e.naming layer, layer.text e⟩) :
    List.Forall₂ related (Layer.all.map expected) (classGroup directory e) := by
  unfold classGroup
  rw [List.forall₂_map_left_iff, List.forall₂_map_right_iff, List.forall₂_same]
  exact fun layer _ => each layer

/-- What holds of every layer of a class holds of the files of all classes, in their order. -/
theorem classGroupsRelated {α : Type} (related : α → PlannedFile → Prop) (expected : Naming → Layer → α)
    {located : Naming → Path → Prop} {package : String} {namings : List Naming} {directories : List Path}
    {entities : List Entity} (within : List.Forall₂ located namings directories)
    (same : List.Forall₂ (fun n (e : Entity) => e.naming = n ∧ e.package = package) namings entities)
    (each : ∀ p (e : Entity), located e.naming p → e.package = package → ∀ layer,
      related (expected e.naming layer) ⟨Layout.layerPath p e.naming layer, layer.text e⟩) :
    List.Forall₂ related (namings.flatMap fun n => Layer.all.map (expected n))
      (List.zipWith classGroup directories entities).flatten := by
  induction within generalizing entities with
  | nil => simp
  | @cons n p namings directories head _ ih =>
    cases same with
    | @cons _ e _ entities here rest =>
      obtain ⟨rfl, package⟩ := here
      rw [List.flatMap_cons, List.zipWith_cons_cons, List.flatten_cons]
      exact List.rel_append (classGroupRelated (each p e head package)) (ih rest)

theorem classGroupsEach {located : Naming → Path → Prop} {package : String} {namings : List Naming}
    {directories : List Path} {entities : List Entity} (within : List.Forall₂ located namings directories)
    (same : List.Forall₂ (fun n (e : Entity) => e.naming = n ∧ e.package = package) namings entities) :
    ∀ group ∈ List.zipWith classGroup directories entities,
      ∃ p, ∃ e : Entity, located e.naming p ∧ group = classGroup p e := by
  induction within generalizing entities with
  | nil => simp
  | @cons n p namings directories head _ ih =>
    cases same with
    | @cons _ e _ entities here rest =>
      obtain ⟨rfl, _⟩ := here
      intro group member
      rcases List.mem_cons.1 member with rfl | later
      · exact ⟨p, e, head, rfl⟩
      · exact ih rest group later

theorem namingsTrimmed (r : Request) :
    ∀ name ∈ r.classes.map ClassModel.canonicalName, Text.IsTrimmed name.toList := by
  intro name member
  obtain ⟨c, _, rfl⟩ := List.mem_map.1 member
  unfold ClassModel.canonicalName
  rw [Text.toListTrimmed]
  exact Text.trimIsTrimmed _

def entities (r : Request) (package : String) : List Entity :=
  (r.classes.zip (namings r)).map fun (c, n) => Entity.ofClass c n package

theorem entitiesNamed (r : Request) (package : String) :
    List.Forall₂ (fun n (e : Entity) => e.naming = n ∧ e.package = package) (namings r) (entities r package) := by
  have lengths : (namings r).length = r.classes.length := by
    simp [namings, Naming.assign, Naming.assignAfterLength]
  have zipped (classes : List ClassModel) (all : List Naming) (same : all.length = classes.length) :
      List.Forall₂ (fun n (pair : ClassModel × Naming) => pair.2 = n) all (classes.zip all) := by
    induction all generalizing classes with
    | nil => simp
    | cons n rest ih =>
      cases classes with
      | nil => simp at same
      | cons c classes => exact .cons rfl (ih classes (by simpa using same))
  rw [entities, List.forall₂_map_right_iff]
  exact (zipped _ _ lengths).imp fun n pair named => ⟨named, rfl⟩

/-- What an accepted request is made into. -/
structure Accepted (root : Path) (r : Request) (database : Database) (plan : Plan) (l : Layout)
    (e : Layout.Entries) (within : List Path) : Prop where
  package : Layout.ofPackage root r.package = .ok l
  project : l.entries ⟨r.project, l.package, database⟩ = .ok e
  classes : List.Forall₂ (fun n p => l.classDirectory n = .ok p) (namings r) within
  directories : plan.directories = l.directories
  files : plan.files = projectGroup l ⟨r.project, l.package, database⟩ e ++
    (List.zipWith classGroup within (entities r l.package)).flatten

theorem ofRequestOpened {root : Path} {r : Request} {database : Database} {plan : Plan}
    (ok : ofRequest root r database = .ok plan) :
    ∃ layout entries classes, Accepted root r database plan layout entries classes ∧
      plan.groups = projectGroup layout ⟨r.project, layout.package, database⟩ entries ::
        List.zipWith classGroup classes (entities r layout.package) := by
  unfold ofRequest at ok
  obtain ⟨layout, layoutOk, ok⟩ := okBind ok
  obtain ⟨entries, entriesOk, ok⟩ := okBind ok
  obtain ⟨classes, classesOk, ok⟩ := okBind ok
  cases ok
  exact ⟨layout, entries, classes, ⟨layoutOk, entriesOk, okMapM classesOk, rfl, rfl⟩, rfl⟩

theorem ofRequestAccepted {root : Path} {r : Request} {database : Database} {plan : Plan}
    (ok : ofRequest root r database = .ok plan) :
    ∃ layout entries classes, Accepted root r database plan layout entries classes := by
  obtain ⟨layout, entries, classes, accepted, _⟩ := ofRequestOpened ok
  exact ⟨layout, entries, classes, accepted⟩

theorem classesWithin {root : Path} {r : Request} {l : Layout} {classes : List Path} {main : List String}
    (source : root.Within (sourceNames main) l.packageDirectory)
    (accepted : List.Forall₂ (fun n p => l.classDirectory n = .ok p) (namings r) classes) :
    List.Forall₂ (fun n p => n.IsShaped ∧ root.Within (sourceNames main ++ [n.directory]) p)
      (namings r) classes := by
  have members : List.Forall₂ (fun n p => n ∈ namings r ∧ l.classDirectory n = .ok p) (namings r) classes :=
    (List.forall₂_and_left _ _).2 ⟨fun _ member => member, accepted⟩
  refine members.imp fun n p ⟨member, checked⟩ => ?_
  obtain ⟨name, parts, within⟩ := withinSegment source checked
  obtain rfl := Naming.groupParts (namingsTrimmed r) member parts
  exact ⟨Naming.acceptedShape (namingsTrimmed r) member parts, within⟩

/-- The texts that the names of a plan stand for. -/
structure IsNamed (segments : List String) (stem : String) (main test : List String) (entry entryTest : String) :
    Prop where
  main : List.Forall₂ IsSegment segments main
  test : List.Forall₂ IsSegment segments test
  entry : IsSegment (stem ++ ".java") entry
  entryTest : IsSegment (stem ++ "Tests.java") entryTest

theorem entriesNamed {l : Layout} {name package : String} {database : Database} {e : Layout.Entries} {root : Path}
    {main test : List String} (source : root.Within main l.packageDirectory)
    (tests : root.Within test l.testPackageDirectory) (ok : l.entries ⟨name, package, database⟩ = .ok e) :
    ∃ entry entryTest, IsSegment (Text.pascal name ++ Project.entryStem ++ ".java") entry ∧
      IsSegment (Text.pascal name ++ Project.entryStem ++ "Tests.java") entryTest ∧
      root.Within (main ++ [entry]) e.main ∧ root.Within (test ++ [entryTest]) e.test := by
  obtain ⟨entryPath, entryOk, ok⟩ := okBind ok
  obtain ⟨entryTestPath, entryTestOk, ok⟩ := okBind ok
  cases ok
  obtain ⟨entry, segment, within⟩ := withinSegment source entryOk
  obtain ⟨entryTest, testSegment, testWithin⟩ := withinSegment tests entryTestOk
  exact ⟨entry, entryTest, segment, testSegment, within, testWithin⟩

theorem projectGroupWithin {root : Path} {l : Layout} {e : Layout.Entries} {main test : List String}
    {entry entryTest : String} (below : l.root = root) (source : root.Within (sourceNames main ++ [entry]) e.main)
    (tests : root.Within (testNames test ++ [entryTest]) e.test) (p : Project) :
    List.Forall₂ root.Within (projectNames main test entry entryTest) ((projectGroup l p e).map PlannedFile.path) :=
  .cons (Layout.pomWithin below e) (.cons (Layout.propertiesWithin below e) (.cons source (.cons tests .nil)))

theorem ofRequestNames {root : Path} {r : Request} {database : Database} {plan : Plan}
    (ok : ofRequest root r database = .ok plan) : ∃ main test entry entryTest,
    HasNames root (namings r) plan main test entry entryTest ∧
      IsNamed (Package.segments r.package) (Text.pascal r.project ++ Project.entryStem) main test entry entryTest := by
  obtain ⟨layout, entries, classes, accepted⟩ := ofRequestAccepted ok
  obtain ⟨main, test, package⟩ := Layout.ofPackageNames accepted.package
  obtain ⟨entry, entryTest, segment, testSegment, entryWithin, entryTestWithin⟩ :=
    entriesNamed package.source package.tests accepted.project
  have within := classesWithin package.source accepted.classes
  obtain ⟨resources, testResources⟩ := Layout.resourcesWithin package.below
  refine ⟨main, test, entry, entryTest, ⟨?_, ?_, ((List.forall₂_and_left _ _).1 within).1⟩,
    ⟨package.single.1, package.single.2, segment, testSegment⟩⟩
  · rw [accepted.directories]
    exact .cons package.source (.cons package.tests (.cons resources (.cons testResources .nil)))
  · rw [accepted.files, List.map_append]
    refine List.rel_append (projectGroupWithin package.below entryWithin entryTestWithin _) ?_
    rw [List.forall₂_map_right_iff]
    exact classGroupsRelated (fun names f => root.Within names f.path) _ within (entitiesNamed r layout.package)
      fun p e located _ layer => Layout.layerWithin located.1 located.2 layer

/-- A group is made of the files of the project or of the files of one class. -/
theorem groupNames {root : Path} {r : Request} {database : Database} {plan : Plan}
    (ok : ofRequest root r database = .ok plan) : ∃ main test entry entryTest, ∀ group ∈ plan.groups,
    ∃ all, List.Forall₂ root.Within all (group.map PlannedFile.path) ∧
      (all = projectNames main test entry entryTest ∨ ∃ n, all = classNames main n) := by
  obtain ⟨layout, entries, classes, accepted, groups⟩ := ofRequestOpened ok
  obtain ⟨main, test, package⟩ := Layout.ofPackageNames accepted.package
  obtain ⟨entry, entryTest, _, _, entryWithin, entryTestWithin⟩ :=
    entriesNamed package.source package.tests accepted.project
  refine ⟨main, test, entry, entryTest, fun group member => ?_⟩
  rw [groups] at member
  rcases List.mem_cons.1 member with rfl | later
  · exact ⟨_, projectGroupWithin package.below entryWithin entryTestWithin _, .inl rfl⟩
  · obtain ⟨p, e, located, rfl⟩ := classGroupsEach (classesWithin package.source accepted.classes)
      (entitiesNamed r layout.package) group later
    refine ⟨classNames main e.naming, ?_, .inr ⟨e.naming, rfl⟩⟩
    rw [List.forall₂_map_right_iff]
    exact classGroupRelated fun layer => Layout.layerWithin located.1 located.2 layer

end Plan
end ClassScaffold
