import ClassScaffold.Proofs.Scaffold.Tree
/-! The tree of a plan in the names by which its paths go on from the root: the last file of each path, and
the directories around the files. -/
namespace ClassScaffold
open Disk (Location Shows place placeFrom)
open Text.Utf8 (Bytes encode)

namespace Disk

theorem suffixPlace {rel : Location} {names : List String} :
    rel <:+ place names ↔ ∃ outer, outer <+: names ∧ rel = place outer := by
  constructor
  · intro suffix
    rw [place, ← List.reverse_prefix, List.reverse_reverse] at suffix
    have same := List.prefix_iff_eq_take.1 suffix
    refine ⟨names.take rel.reverse.length, List.take_prefix .., ?_⟩
    rw [place, List.map_take, ← same, List.reverse_reverse]
  · rintro ⟨outer, ⟨rest, rfl⟩, rfl⟩
    rw [placeAppend]
    exact List.suffix_append ..

end Disk

theorem properPrefix {α : Type} {outer names : List α} (some : names ≠ []) :
    outer <+: names ∧ outer ≠ names ↔ outer <+: names.dropLast := by
  constructor
  · rintro ⟨⟨rest, rfl⟩, other⟩
    have more : rest ≠ [] := by simpa using other
    rw [List.dropLast_append_of_ne_nil more]
    exact List.prefix_append ..
  · intro within
    refine ⟨within.trans (List.dropLast_prefix names), fun same => ?_⟩
    have lengths := within.length_le
    have long := List.length_pos_of_ne_nil some
    rw [same, List.length_dropLast] at lengths
    omega

namespace Plan
open Layout (sourceNames testNames)

def IsLast (root : Path) (plan : Plan) (f : PlannedFile) : Prop :=
  ∃ before after, plan.files = before ++ f :: after ∧
    ∀ other ∈ after, root.namesFrom other.path ≠ root.namesFrom f.path

/-- A planned file is in the directory, or it is the one that stays empty. -/
def HasDirectory (root : Path) (plan : Plan) (names : List String) : Prop :=
  names ≠ [] ∧ ((∃ f ∈ plan.files, names <+: root.namesFrom f.path ∧ names ≠ root.namesFrom f.path) ∨
    names = ["src", "test", "resources"])

variable {root : Path} {r : Request} {database : Database} {plan : Plan} {d : Disk} {l rel : Location}

theorem fileNamesFrom (ok : ofRequest root r database = .ok plan) {f : PlannedFile} (member : f ∈ plan.files) :
    root.namesFrom f.path ≠ [] ∧ root.Within (root.namesFrom f.path) f.path := by
  obtain ⟨names, some, within⟩ := (Scaffold.planWithin ok).2 f member
  rw [Path.namesFromWithin within]
  exact ⟨some, within⟩

theorem lastFile {f : PlannedFile} (last : IsLast root plan f) : f ∈ plan.files := by
  obtain ⟨before, after, whole, _⟩ := last
  simp [whole]

theorem showsFile (tree : Shows d l (Scaffold.waysOf root plan) (plan.files.map (Scaffold.placed root)).reverse)
    (some : rel ≠ []) {c : Bytes} : d.get? (rel ++ l) = .some (.file c) ↔
      ∃ f, IsLast root plan f ∧ rel = placeFrom root f.path ∧ c = encode f.text := by
  rw [tree.file rel some c, List.lookup_eq_some_iff]
  constructor
  · rintro ⟨after, before, whole, apart⟩
    rw [List.reverse_eq_iff, List.reverse_append, List.reverse_cons, List.append_assoc, List.singleton_append,
      List.map_eq_append_iff] at whole
    obtain ⟨first, rest, files, _, later⟩ := whole
    obtain ⟨f, others, rfl, placed, tail⟩ := List.map_eq_cons_iff.1 later
    cases placed
    refine ⟨f, ⟨first, others, files, fun other member same => ?_⟩, rfl, rfl⟩
    have inside : Scaffold.placed root other ∈ after := by
      rw [← List.mem_reverse, ← tail]
      exact List.mem_map.2 ⟨other, member, rfl⟩
    have := apart _ inside
    simp [Scaffold.placed, placeFrom, same] at this
  · rintro ⟨f, ⟨before, after, files, apart⟩, rfl, rfl⟩
    refine ⟨(after.map (Scaffold.placed root)).reverse, (before.map (Scaffold.placed root)).reverse, ?_, ?_⟩
    · simp [files, Scaffold.placed]
    · intro entry member
      obtain ⟨other, inside, rfl⟩ := List.mem_map.1 (List.mem_reverse.1 member)
      have different : placeFrom root f.path ≠ placeFrom root other.path := fun same =>
        apart other inside (Disk.placeInjective same).symm
      simpa [Scaffold.placed] using different

theorem plannedNames (ok : ofRequest root r database = .ok plan) : ∃ main test entry entryTest,
    plan.files.map (fun f => root.namesFrom f.path) =
      projectNames main test entry entryTest ++ (namings r).flatMap (classNames main) ∧
    plan.directories.map (placeFrom root) = [sourceNames main, testNames test,
      ["src", "main", "resources"], ["src", "test", "resources"]].map place ∧
    IsNamed (Package.segments r.package) (Text.pascal r.project ++ Project.entryStem) main test entry entryTest := by
  obtain ⟨main, test, entry, entryTest, names, named⟩ := ofRequestNames ok
  refine ⟨main, test, entry, entryTest, ?_, ?_, named⟩
  · have same := Scaffold.mapWithin names.files (g := root.namesFrom) (h := id) fun _ _ within =>
      Path.namesFromWithin within
    rwa [List.map_map, List.map_id] at same
  · exact Scaffold.mapWithin names.directories fun _ _ within => Disk.placeFromWithin within

theorem fileTail (f : PlannedFile) : (placeFrom root f.path).tail = place (root.namesFrom f.path).dropLast := by
  rw [placeFrom, place, place, List.map_dropLast, List.tail_reverse]

theorem aroundFile (ok : ofRequest root r database = .ok plan) {f : PlannedFile} (member : f ∈ plan.files)
    (some : rel ≠ []) (suffix : rel <:+ place (root.namesFrom f.path).dropLast) :
    ∃ names, HasDirectory root plan names ∧ rel = place names := by
  obtain ⟨outer, within, same⟩ := Disk.suffixPlace.1 suffix
  have proper := (properPrefix (fileNamesFrom ok member).1).2 within
  exact ⟨outer, ⟨fun none => some (by rw [same, none]; rfl), .inl ⟨f, member, proper⟩⟩, same⟩

/-- The directories that are made first are around files as well, except one of them. -/
theorem aroundDirectory (ok : ofRequest root r database = .ok plan) {p : Path} (member : p ∈ plan.directories)
    (some : rel ≠ []) (suffix : rel <:+ placeFrom root p) :
    ∃ names, HasDirectory root plan names ∧ rel = place names := by
  obtain ⟨main, test, entry, entryTest, files, directories, _⟩ := plannedNames ok
  have around {names : List String} (project : names ∈ projectNames main test entry entryTest)
      (inside : rel <:+ place names.dropLast) : ∃ names, HasDirectory root plan names ∧ rel = place names := by
    have planned : names ∈ plan.files.map fun f => root.namesFrom f.path := by
      rw [files]
      exact List.mem_append_left _ project
    obtain ⟨f, inPlan, rfl⟩ := List.mem_map.1 planned
    exact aroundFile ok inPlan some inside
  have inMain : sourceNames main ++ [entry] ∈ projectNames main test entry entryTest := by simp [projectNames]
  have inTest : testNames test ++ [entryTest] ∈ projectNames main test entry entryTest := by simp [projectNames]
  have inResources : ["src", "main", "resources", "application.properties"] ∈
      projectNames main test entry entryTest := by simp [projectNames]
  have listed := List.mem_map_of_mem (f := placeFrom root) member
  rw [directories] at listed
  obtain ⟨names, listed, same⟩ := List.mem_map.1 listed
  rw [← same] at suffix
  simp only [List.mem_cons, List.not_mem_nil, or_false] at listed
  rcases listed with rfl | rfl | rfl | rfl
  · exact around inMain (by simpa using suffix)
  · exact around inTest (by simpa using suffix)
  · exact around inResources suffix
  · obtain ⟨outer, within, rfl⟩ := Disk.suffixPlace.1 suffix
    by_cases whole : outer = ["src", "test", "resources"]
    · exact ⟨outer, ⟨by simp [whole], .inr whole⟩, rfl⟩
    · have shorter := (properPrefix (by simp)).1 ⟨within, whole⟩
      refine around inTest (Disk.suffixPlace.2 ⟨outer, shorter.trans ?_, rfl⟩)
      simp [testNames]

theorem waysDirectory (ok : ofRequest root r database = .ok plan) (some : rel ≠ []) :
    (∃ way ∈ Scaffold.waysOf root plan, rel <:+ way) ↔
      ∃ names, HasDirectory root plan names ∧ rel = place names := by
  rw [Scaffold.waysOf, ← List.reverse_append]
  simp only [List.mem_reverse, List.mem_append]
  constructor
  · rintro ⟨way, directory | file, suffix⟩
    · obtain ⟨p, member, rfl⟩ := List.mem_map.1 directory
      exact aroundDirectory ok member some suffix
    · obtain ⟨f, member, rfl⟩ := List.mem_map.1 file
      rw [fileTail] at suffix
      exact aroundFile ok member some suffix
  · rintro ⟨names, ⟨_, ⟨f, member, proper⟩ | rfl⟩, rfl⟩
    · refine ⟨_, .inr (List.mem_map.2 ⟨f, member, rfl⟩), ?_⟩
      rw [fileTail]
      exact Disk.suffixPlace.2 ⟨names, (properPrefix (fileNamesFrom ok member).1).1 proper, rfl⟩
    · obtain ⟨main, test, _, _, _, directories, _⟩ := plannedNames ok
      refine ⟨place ["src", "test", "resources"], .inl ?_, List.suffix_refl _⟩
      rw [directories]
      simp

theorem showsDirectory (ok : ofRequest root r database = .ok plan)
    (tree : Shows d l (Scaffold.waysOf root plan) (plan.files.map (Scaffold.placed root)).reverse)
    (some : rel ≠ []) : d.get? (rel ++ l) = .some .directory ↔
      ∃ names, HasDirectory root plan names ∧ rel = place names :=
  (tree.directory rel some).trans (waysDirectory ok some)

theorem fileStart (ok : ofRequest root r database = .ok plan) {f : PlannedFile} (member : f ∈ plan.files) :
    root.namesFrom f.path = ["pom.xml"] ∨ ∃ next rest, root.namesFrom f.path = "src" :: next :: rest := by
  obtain ⟨main, test, entry, entryTest, files, _, _⟩ := plannedNames ok
  have inside : root.namesFrom f.path ∈
      projectNames main test entry entryTest ++ (namings r).flatMap (classNames main) := by
    rw [← files]
    exact List.mem_map.2 ⟨f, member, rfl⟩
  rcases List.mem_append.1 inside with project | classes
  · simp only [projectNames, sourceNames, testNames, List.mem_cons, List.not_mem_nil, or_false] at project
    rcases project with pom | properties | main | test
    · exact .inl pom
    · exact .inr ⟨_, _, properties⟩
    · exact .inr ⟨_, _, main⟩
    · exact .inr ⟨_, _, test⟩
  · obtain ⟨n, _, layers⟩ := List.mem_flatMap.1 classes
    obtain ⟨layer, _, same⟩ := List.mem_map.1 layers
    exact .inr ⟨_, _, same.symm⟩

end Plan
end ClassScaffold
