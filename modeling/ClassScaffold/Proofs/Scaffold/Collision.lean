import ClassScaffold.Proofs.Scaffold.Tree
import ClassScaffold.Proofs.Text.Utf8
/-! Whether the files of a filled directory are as many as were planned. Files of the project and files of
classes never meet. The files of two classes meet layer by layer when the names of the classes clash, and
then the texts of one class are lost. -/
namespace ClassScaffold
open Session (Ends Program)
open Disk (Location Region Shows place)
open Text.Utf8 (Bytes encode)

namespace Plan
open Layout (sourceNames testNames)

variable {main test : List String} {entry entryTest : String} {namings : List Naming}

theorem classNamesDisjoint {a b : Naming} (shapeA : a.IsShaped) (shapeB : b.IsShaped)
    (other : a.group ≠ b.group) :
    List.Disjoint (classNames main a) (classNames main b) ↔ ¬ Naming.Clash a b := by
  constructor
  · intro apart clash
    have same := (Naming.layerNamesClash shapeA shapeB other .model).2 clash
    refine apart (a := sourceNames main ++ a.layerNames .model) ?_ ?_
    · exact List.mem_map.2 ⟨.model, by decide, rfl⟩
    · exact List.mem_map.2 ⟨.model, by decide, by rw [same]⟩
  · intro noClash names left right
    obtain ⟨layer, _, rfl⟩ := List.mem_map.1 left
    obtain ⟨layer', _, same⟩ := List.mem_map.1 right
    have same := List.append_cancel_left same
    obtain rfl := Naming.layerNamesLayer same
    exact noClash ((Naming.layerNamesClash shapeA shapeB other layer').1 same.symm)

theorem classNamesNodup (n : Naming) : (classNames main n).Nodup := by
  refine List.Nodup.map_on (fun layer _ layer' _ same => ?_) (by decide)
  exact Naming.layerNamesLayer (List.append_cancel_left same)

theorem projectNamesNodup : (projectNames main test entry entryTest).Nodup := by
  simp [projectNames, sourceNames, testNames]

theorem projectApart {names : List String} {n : Naming}
    (project : names ∈ projectNames main test entry entryTest) : names ∉ classNames main n := by
  intro classes
  obtain ⟨layer, _, rfl⟩ := List.mem_map.1 classes
  simp only [projectNames, sourceNames, testNames, Naming.layerNames, List.mem_cons, List.not_mem_nil,
    or_false] at project
  rcases project with pom | properties | entry | entryTest
  · simp at pom
  · simp at properties
  · simp at entry
  · simp at entryTest

theorem namesNodup (shapes : ∀ n ∈ namings, n.IsShaped)
    (distinct : (namings.map Naming.group).Nodup) :
    (projectNames main test entry entryTest ++ namings.flatMap (classNames main)).Nodup ↔
      namings.Pairwise fun a b => ¬ Naming.Clash a b := by
  have groups : namings.Pairwise fun a b => a.group ≠ b.group := List.pairwise_map.1 distinct
  have apart : List.Disjoint (projectNames main test entry entryTest)
      (namings.flatMap (classNames main)) := by
    intro names project classes
    obtain ⟨n, _, inside⟩ := List.mem_flatMap.1 classes
    exact projectApart project inside
  rw [List.nodup_append', List.nodup_flatMap]
  have pairs : namings.Pairwise (Function.onFun List.Disjoint (classNames main)) ↔
      namings.Pairwise fun a b => ¬ Naming.Clash a b := by
    have both {R S : Naming → Naming → Prop} (pairs : namings.Pairwise R)
        (step : ∀ a ∈ namings, ∀ b ∈ namings, a.group ≠ b.group → R a b → S a b) :
        namings.Pairwise S := by
      have all := groups.and pairs
      exact all.imp_of_mem fun h h' ⟨other, holds⟩ => step _ h _ h' other holds
    constructor
    · intro pairs
      exact both pairs fun a h b h' other =>
        (classNamesDisjoint (shapes a h) (shapes b h') other).1
    · intro pairs
      exact both pairs fun a h b h' other =>
        (classNamesDisjoint (shapes a h) (shapes b h') other).2
  rw [pairs]
  exact ⟨fun h => h.2.1.2, fun h => ⟨projectNamesNodup, ⟨fun n _ => classNamesNodup n, h⟩, apart⟩⟩

end Plan

namespace Disk

def filesBelow (d : Disk) (l : Location) : List (Location × Bytes) :=
  (d.below l).filterMap fun e =>
    match e.2 with
    | .file contents => some (e.1, contents)
    | _ => none

variable {d : Disk} {l : Location}

theorem memFilesBelow (wf : d.WellFormed) {rel : Location} {c : Bytes} :
    (rel, c) ∈ d.filesBelow l ↔ rel ≠ [] ∧ d.get? (rel ++ l) = some (.file c) := by
  rw [← belowGet wf, filesBelow, List.mem_filterMap]
  constructor
  · rintro ⟨⟨rel', e⟩, member, found⟩
    cases e with
    | file contents =>
      cases found
      exact member
    | directory => contradiction
    | link target => contradiction
  · intro member
    exact ⟨_, member, rfl⟩

theorem filesBelowDistinct (wf : d.WellFormed) (l : Location) :
    ((d.filesBelow l).map Prod.fst).Nodup := by
  refine (belowDistinct wf l).sublist ?_
  unfold filesBelow
  induction d.below l with
  | nil => exact .slnil
  | cons e rest ih =>
    obtain ⟨rel, e⟩ := e
    cases e with
    | file contents => exact ih.cons_cons rel
    | directory => exact ih.cons rel
    | link target => exact ih.cons rel

theorem filesBelowPerm {ways : List Location} {files : List (Location × Bytes)} (wf : d.WellFormed)
    (tree : Shows d l ways files.reverse) (some : ∀ f ∈ files, f.1 ≠ []) :
    (d.filesBelow l).Perm files ↔ (files.map Prod.fst).Nodup := by
  constructor
  · intro perm
    exact (perm.map Prod.fst).nodup_iff.1 (filesBelowDistinct wf l)
  · intro distinct
    have reversed : (files.reverse.map Prod.fst).Nodup := by
      rwa [List.map_reverse, List.nodup_reverse]
    refine (List.perm_ext_iff_of_nodup (List.Nodup.of_map _ (filesBelowDistinct wf l))
      (List.Nodup.of_map _ distinct)).2 fun ⟨rel, c⟩ => ?_
    rw [memFilesBelow wf, ← List.mem_reverse, ← lookupDistinct reversed]
    constructor
    · rintro ⟨someRel, file⟩
      exact (tree.file rel someRel c).1 file
    · intro found
      have inside := (lookupDistinct reversed).1 found
      have someRel := some _ (List.mem_reverse.1 inside)
      exact ⟨someRel, (tree.file rel someRel c).2 found⟩

end Disk

namespace Scaffold
open Disk (placeFrom placeFromWithin filesBelow)

variable {root : Path} {r : Request} {database : Database} {plan : Plan}

theorem plannedPlaces (ok : Plan.ofRequest root r database = .ok plan) :
    ∀ f ∈ plan.files.map (placed root), f.1 ≠ [] := by
  intro _ member
  obtain ⟨f, inside, rfl⟩ := List.mem_map.1 member
  obtain ⟨names, some, within⟩ := (planWithin ok).2 f inside
  rw [placed, placeFromWithin within]
  exact fun none => some (Disk.placeEmpty.1 none)

theorem planNodup (ok : Plan.ofRequest root r database = .ok plan) :
    plan.files.length = 4 * r.classes.length + 4 ∧
    ((plan.files.map fun f => f.path.parts).Nodup ↔
      (Plan.namings r).Pairwise fun a b => ¬ Naming.Clash a b) ∧
    (((plan.files.map (placed root)).map Prod.fst).Nodup ↔
      (Plan.namings r).Pairwise fun a b => ¬ Naming.Clash a b) := by
  obtain ⟨main, test, entry, entryTest, names, _⟩ := Plan.ofRequestNames ok
  have nodup : (Plan.projectNames main test entry entryTest ++
      (Plan.namings r).flatMap (Plan.classNames main)).Nodup ↔ _ :=
    Plan.namesNodup names.shapes (Naming.assignDistinct _)
  have parts : plan.files.map (fun f => f.path.parts) = (Plan.projectNames main test entry entryTest ++
      (Plan.namings r).flatMap (Plan.classNames main)).map fun names =>
        root.parts ++ names.map .normal := by
    have same := mapWithin names.files (g := Path.parts) fun _ _ within => within
    rwa [List.map_map] at same
  have places : (plan.files.map (placed root)).map Prod.fst =
      (Plan.projectNames main test entry entryTest ++
        (Plan.namings r).flatMap (Plan.classNames main)).map place := by
    have same := mapWithin names.files (g := placeFrom root) fun _ _ => placeFromWithin
    rw [List.map_map] at same ⊢
    exact same
  refine ⟨?_, ?_, ?_⟩
  · have counted : (Plan.namings r).length = r.classes.length := by
      simp [Plan.namings, Naming.assign, Naming.assignAfterLength]
    have lengths := congrArg List.length parts
    simp only [List.length_map, List.length_append, List.length_flatMap, Plan.classNames, Layer.all,
      Plan.projectNames, List.length_cons, List.length_nil, List.map_const', List.sum_replicate_nat,
      counted] at lengths
    rw [lengths]
    simp
    omega
  · rw [parts, ← nodup]
    refine List.nodup_map_iff fun a b same => ?_
    exact List.map_injective_iff.2 (fun _ _ => Path.Part.normal.inj) (List.append_cancel_left same)
  · rw [places, ← nodup]
    exact List.nodup_map_iff fun _ _ => Disk.placeInjective

theorem groupApart (ok : Plan.ofRequest root r database = .ok plan) {group : List PlannedFile}
    (member : group ∈ plan.groups) : (group.map fun f => f.path.parts).Nodup := by
  obtain ⟨main, test, entry, entryTest, each⟩ := Plan.groupNames ok
  obtain ⟨all, within, named⟩ := each group member
  have distinct : all.Nodup := by
    rcases named with rfl | ⟨n, rfl⟩
    · exact Plan.projectNamesNodup
    · exact Plan.classNamesNodup n
  have parts := mapWithin within (g := Path.parts) fun _ _ within => within
  rw [List.map_map] at parts
  change (group.map (Path.parts ∘ PlannedFile.path)).Nodup
  rw [parts]
  refine distinct.map fun a b same => ?_
  exact List.map_injective_iff.2 (fun _ _ => Path.Part.normal.inj) (List.append_cancel_left same)

/-- Filling an empty directory gives four files for every class and four more, unless the names of two
classes clash; then, and only then, two paths lead to one file. -/
theorem fillFiles {s s' : Session} {l : Location} {paths : List Path} (wf : s.disk.WellFormed)
    (found : s.disk.find root = .ok l) (directory : s.disk.get? l = some .directory)
    (empty : ∀ rel, rel ≠ [] → s.disk.get? (rel ++ l) = none)
    (ends : Ends (fill root r database : Program FilingFault (List Path)) s (.ok paths) s') :
    paths.length = 4 * r.classes.length + 4 ∧
    ((paths.map Path.parts).Nodup ↔ (Plan.namings r).Pairwise fun a b => ¬ Naming.Clash a b) ∧
    ∃ plan, Plan.ofRequest root r database = .ok plan ∧ paths = plan.files.map PlannedFile.path ∧
      ((filesBelow s'.disk l).Perm (plan.files.map (placed root)) ↔
        (Plan.namings r).Pairwise fun a b => ¬ Naming.Clash a b) := by
  have clear : Disk.IsClear s.disk l := fun rel some target link => by
    rw [empty rel some] at link
    cases link
  obtain ⟨plan, ok, rfl, region, tree⟩ := fillShows ⟨wf, found, directory, clear⟩ empty ends
  obtain ⟨count, parts, places⟩ := planNodup ok
  refine ⟨by rw [List.length_map, count], by rwa [List.map_map], plan, ok, rfl, ?_⟩
  rw [Disk.filesBelowPerm region.wellFormed tree (plannedPlaces ok), places]

/- Two classes with one directory and the same files -/

theorem blankEmpty (rel : Location) (some : rel ≠ []) : blank.disk.get? (rel ++ []) = none := by
  simp [blank, Session.start, Disk.get?, Disk.empty, some]

def slashed : Request := ⟨some "p", some "p", [⟨["a/"], [], []⟩, ⟨["a//"], [], []⟩]⟩

def slashedRun : Except FilingFault (List Path) × Session :=
  (fill ⟨"/"⟩ slashed .postgresql : Program FilingFault (List Path)).run.run blank

def repeatsPath : Except FilingFault (List Path) → Bool
  | .ok paths => !decide (paths.map Path.parts).Nodup
  | .error _ => false

theorem slashedRepeats : repeatsPath slashedRun.1 = true := by decide +kernel

theorem slashedEnds : ∃ paths s', Ends (fill ⟨"/"⟩ slashed .postgresql) blank (.ok paths) s' ∧
    ¬ (paths.map Path.parts).Nodup := by
  have repeats := slashedRepeats
  rcases run : slashedRun with ⟨result, s'⟩
  rw [run] at repeats
  cases result with
  | error e => contradiction
  | ok paths => exact ⟨paths, s', run, by simpa [repeatsPath] using repeats⟩

theorem slashedClash : Naming.Clash ⟨"A/", "a/"⟩ ⟨"A//", "a//"⟩ :=
  ⟨by decide, by decide, by decide, by decide⟩

theorem fillFilesSlashed : ∃ paths s',
    Ends (fill ⟨"/"⟩ slashed .postgresql : Program FilingFault (List Path)) blank (.ok paths) s' ∧
      paths.length = 12 ∧ ¬ (paths.map Path.parts).Nodup := by
  obtain ⟨paths, s', ends, _⟩ := slashedEnds
  have namings : Plan.namings slashed = [⟨"A/", "a/"⟩, ⟨"A//", "a//"⟩] := by decide +kernel
  obtain ⟨count, nodup, _⟩ := fillFiles (Disk.emptyWellFormed .usual) (by decide) rfl blankEmpty ends
  refine ⟨paths, s', ends, count, fun distinct => ?_⟩
  have apart := nodup.1 distinct
  rw [namings] at apart
  exact (List.pairwise_cons.1 apart).1 _ (by simp) slashedClash

theorem pathsRepeat : ¬ ∀ (s s' : Session) (root : Path) (r : Request) (database : Database) (l : Location)
    (paths : List Path), s.disk.WellFormed → s.disk.find root = .ok l → s.disk.get? l = some .directory →
    (∀ rel, rel ≠ [] → s.disk.get? (rel ++ l) = none) →
    Ends (fill root r database : Program FilingFault (List Path)) s (.ok paths) s' →
    (paths.map Path.parts).Nodup := by
  intro all
  obtain ⟨paths, s', ends, repeats⟩ := slashedEnds
  exact repeats (all blank s' ⟨"/"⟩ slashed .postgresql [] paths (Disk.emptyWellFormed .usual) (by decide)
    rfl blankEmpty ends)

end Scaffold
end ClassScaffold
