import ClassScaffold.Proofs.Disk.Fill
import ClassScaffold.Proofs.Plan.Apart
import ClassScaffold.Proofs.Plan.Ready
import ClassScaffold.Proofs.Scaffold.Planned
import ClassScaffold.Proofs.Scaffold.Refused
/-! Filling an empty directory succeeds when all names of the request pass and the limits of the disk take every
path of the plan. No file of a plan stands on the way to another place of the plan, and whatever has been made so
far is part of the plan. -/
namespace ClassScaffold
open Session (Ends Program)
open Disk (Location Region place placeFrom IsMakeable IsWritable)
open Text.Utf8 (encode)

namespace Plan

variable {root : Path} {r : Request} {database : Database} {plan : Plan}

/-- No planned file stands on the way to a planned file or directory. -/
structure KeepsApart (root : Path) (plan : Plan) : Prop where
  files : ∀ f ∈ plan.files, ∀ g ∈ plan.files, root.namesFrom f.path <+: root.namesFrom g.path →
    root.namesFrom f.path = root.namesFrom g.path
  directories : ∀ f ∈ plan.files, ∀ p ∈ plan.directories, ¬ root.namesFrom f.path <+: root.namesFrom p

theorem ofRequestApart (ok : ofRequest root r database = .ok plan) : KeepsApart root plan := by
  obtain ⟨main, test, entry, entryTest, names, named⟩ := ofRequestNames ok
  have listed {all : List (List String)} {paths : List Path} (within : List.Forall₂ root.Within all paths) :
      ∀ p ∈ paths, root.namesFrom p ∈ all := by
    intro p member
    have same := Scaffold.mapWithin within (g := root.namesFrom) (h := id) fun _ _ within =>
      Path.namesFromWithin within
    rw [List.map_id] at same
    exact same ▸ List.mem_map_of_mem member
  have file (f : PlannedFile) (member : f ∈ plan.files) := listed names.files f.path (List.mem_map_of_mem member)
  have fits (n : Naming) (member : n ∈ namings r) : n.IsFitting := Naming.assignFitting member
  have small (n : Naming) (member : n ∈ namings r) : 'A' ∉ n.directory.toList := Naming.directoryCapital member
  have capital := entryCapital named
  refine ⟨fun f inF g inG => ?_, fun f inF p inP => ?_⟩
  · exact filesPrefix names.shapes fits small capital (file f inF) (file g inG)
  · exact directoriesPrefix names.shapes fits small capital (file f inF) (listed names.directories p inP)

theorem memWays {way : Location} (member : way ∈ Scaffold.waysOf root plan) :
    (∃ f ∈ plan.files, way = place (root.namesFrom f.path).dropLast) ∨
      ∃ p ∈ plan.directories, way = placeFrom root p := by
  rw [Scaffold.waysOf, ← List.reverse_append, List.mem_reverse, List.mem_append] at member
  rcases member with directory | file
  · obtain ⟨p, inside, rfl⟩ := List.mem_map.1 directory
    exact .inr ⟨p, inside, rfl⟩
  · obtain ⟨f, inside, rfl⟩ := List.mem_map.1 file
    exact .inl ⟨f, inside, by rw [placeFrom, place, place, List.map_dropLast, List.tail_reverse]⟩

theorem wayFree (ok : ofRequest root r database = .ok plan) {f : PlannedFile} (member : f ∈ plan.files)
    {way : Location} (inWays : way ∈ Scaffold.waysOf root plan) : ¬ placeFrom root f.path <:+ way := by
  intro suffix
  have apart := ofRequestApart ok
  rcases memWays inWays with ⟨g, inside, rfl⟩ | ⟨p, inside, rfl⟩
  · obtain ⟨outer, within, same⟩ := Disk.suffixPlace.1 suffix
    obtain rfl := Disk.placeInjective same
    obtain ⟨before, other⟩ := (properPrefix (fileNamesFrom ok inside).1).2 within
    exact other (apart.files f member g inside before)
  · obtain ⟨outer, within, same⟩ := Disk.suffixPlace.1 suffix
    obtain rfl := Disk.placeInjective same
    exact apart.directories f member p inside within

/-- Limits that take the path of everything in a plan. -/
structure IsTaken (root : Path) (limits : Disk.Limits) (plan : Plan) : Prop where
  directories : ∀ p ∈ plan.directories, limits.Takes p (root.namesFrom p)
  files : ∀ f ∈ plan.files, limits.Takes f.path (root.namesFrom f.path)

theorem takenUnlimited (root : Path) (plan : Plan) : IsTaken root .unlimited plan :=
  ⟨fun _ _ => Disk.takesUnlimited .., fun _ _ => Disk.takesUnlimited ..⟩

end Plan

namespace Scaffold

variable {root : Path} {r : Request} {database : Database} {plan : Plan} {l : Location} {limits : Disk.Limits}
  {s s' : Session}

/-- What there can be while a plan is carried out, as places of its files and as ways. -/
def IsFile (root : Path) (plan : Plan) (rel : Location) : Prop := ∃ f ∈ plan.files, rel = placeFrom root f.path

def IsWay (root : Path) (plan : Plan) (rel : Location) : Prop := rel ≠ [] ∧ ∃ way ∈ waysOf root plan, rel <:+ way

abbrev InProgress (root : Path) (plan : Plan) (l : Location) (limits : Disk.Limits) (s : Session) : Prop :=
  Disk.Filling root l limits (IsFile root plan) (IsWay root plan) s.disk ∧ s.Quiet

section
variable (ok : Plan.ofRequest root r database = .ok plan) (taken : plan.IsTaken root limits)
  (progress : InProgress root plan l limits s)
include ok taken progress

omit taken progress in
theorem planApart (rel : Location) (file : IsFile root plan rel) : ¬ IsWay root plan rel := by
  obtain ⟨f, member, rfl⟩ := file
  rintro ⟨_, way, inside, suffix⟩
  exact Plan.wayFree ok member inside suffix

theorem makeDirectoriesProgress {p : Path} (member : p ∈ plan.directories) :
    ∃ s', Ends (makeDirectories p : Program FilingFault Unit) s (.ok ()) s' ∧ InProgress root plan l limits s' := by
  obtain ⟨filling, quiet⟩ := progress
  have makeable := (Plan.ofRequestReady ok (Disk.findText filling.region.found).1).1 p member
  obtain ⟨names, some, within⟩ := (planWithin ok).1 p member
  have parts : p.parts ≠ [] := by
    rw [within]
    simp [some]
  have way : place names ∈ waysOf root plan := by
    refine List.mem_append_right _ (List.mem_reverse.2 (List.mem_map.2 ⟨p, member, ?_⟩))
    exact Disk.placeFromWithin within
  have takes := Path.namesFromWithin within ▸ taken.directories p member
  obtain ⟨d, runs, filled, _⟩ := Disk.makeDirectoriesFills (planApart ok) filling takes within parts makeable.clean
    (fun _ => makeable) fun rel some suffix => ⟨some, _, way, suffix⟩
  exact ⟨s.record (.makeDirectories p) none d, Session.attemptEnds (Session.makeDirectoriesRuns quiet runs), filled,
    Session.quietRecord quiet (.makeDirectories p) none d⟩

theorem writeProgress {f : PlannedFile} (member : f ∈ plan.files) :
    ∃ s', Ends (write f : Program FilingFault Unit) s (.ok ()) s' ∧ InProgress root plan l limits s' := by
  obtain ⟨filling, quiet⟩ := progress
  have writable := (Plan.ofRequestReady ok (Disk.findText filling.region.found).1).2 f member
  obtain ⟨some, within⟩ := Plan.fileNamesFrom ok member
  have way : (placeFrom root f.path).tail ∈ waysOf root plan :=
    List.mem_append_left _ (List.mem_reverse.2 (List.mem_map.2 ⟨f, member, rfl⟩))
  obtain ⟨q, above, d, runs, d', wrote, filled⟩ := Disk.writeFills (planApart ok) filling (taken.files f member) within
    some writable (fun rel some suffix => ⟨some, _, way, suffix⟩) ⟨f, member, rfl⟩ (encode f.text)
  have between := Session.quietRecord quiet (.makeDirectories q) none d
  refine ⟨(s.record (.makeDirectories q) none d).record (.writeFile f.path) none d', ?_, filled,
    Session.quietRecord between (.writeFile f.path) none d'⟩
  unfold write
  rw [above]
  exact Session.bindEnds (Session.attemptEnds (Session.makeDirectoriesRuns quiet runs))
    (Session.attemptEnds (Session.writeFileRuns between wrote))

theorem carryOutSucceeds : ∃ s', Ends (carryOut plan : Program FilingFault PUnit) s (.ok ⟨⟩) s' := by
  obtain ⟨t, first, progress⟩ := Session.forMRuns (InProgress root plan l limits) progress fun p member s progress =>
    makeDirectoriesProgress ok taken progress member
  obtain ⟨s', later, _⟩ := Session.forMRuns (InProgress root plan l limits) progress fun f member s progress =>
    writeProgress ok taken progress member
  exact ⟨s', Session.bindEnds first later⟩

end

theorem fillEnds {paths : List Path} (ok : Plan.ofRequest root r database = .ok plan)
    (same : paths = plan.files.map PlannedFile.path)
    (carried : Ends (carryOut plan : Program FilingFault PUnit) s (.ok ⟨⟩) s') :
    Ends (fill root r database : Program FilingFault (List Path)) s (.ok paths) s' := by
  unfold fill
  rw [ok, same]
  exact Session.bindEnds carried rfl

theorem fillTaken (region : Region s.disk root l) (empty : ∀ rel, rel ≠ [] → s.disk.get? (rel ++ l) = none)
    (quiet : s.Quiet) (ok : Plan.ofRequest root r database = .ok plan) (taken : plan.IsTaken root s.disk.limits) :
    ∃ paths s', Ends (fill root r database : Program FilingFault (List Path)) s (.ok paths) s' := by
  obtain ⟨s', ends⟩ := carryOutSucceeds ok taken ⟨Disk.fillingEmpty region rfl empty, quiet⟩
  exact ⟨plan.files.map PlannedFile.path, s', fillEnds ok rfl ends⟩

theorem fillSucceeds (region : Region s.disk root l) (empty : ∀ rel, rel ≠ [] → s.disk.get? (rel ++ l) = none)
    (unlimited : s.disk.limits = .unlimited) (quiet : s.Quiet) (passes : Plan.refusal? r database = none) :
    ∃ paths s', Ends (fill root r database : Program FilingFault (List Path)) s (.ok paths) s' := by
  obtain ⟨plan, ok⟩ := Plan.ofRequestPasses root database passes
  exact fillTaken region empty quiet ok (unlimited ▸ Plan.takenUnlimited root plan)

end Scaffold
end ClassScaffold
