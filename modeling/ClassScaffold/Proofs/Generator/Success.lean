import ClassScaffold.Proofs.Archive.Faithful
import ClassScaffold.Proofs.Generator.Cleanup
import ClassScaffold.Proofs.Scaffold.Again
/-! A request is generated when all its names pass, nothing is limited or fails, and the records of an archive can
hold the names and the texts of its files. -/
namespace ClassScaffold
open Session (Ends Program)
open Disk (Location Region Shows place placeFrom)
open Archive (Node IsCalled)
open Text.Utf8 (Bytes encode)

namespace Plan

variable {root : Path} {r : Request} {database : Database} {plan : Plan} {d : Disk} {l : Location}

/-- The records of an archive can hold the names and the texts of all files. -/
structure FitsArchive (root : Path) (plan : Plan) : Prop where
  names : ∀ f ∈ plan.files, (encode ("/".intercalate (root.namesFrom f.path))).length ≤ Archive.nameLimit
  texts : ∀ f ∈ plan.files, (encode f.text).length ≤ Archive.lengthLimit

/-- Whether they fit does not depend on where the plan is rooted. -/
theorem fitsElsewhere {root' : Path} {plan' : Plan} (ok : ofRequest root r database = .ok plan)
    (ok' : ofRequest root' r database = .ok plan') (fits : FitsArchive root' plan') : FitsArchive root plan := by
  have same := ofRequestSame ok ok'
  have other {f : PlannedFile} (member : f ∈ plan.files) : ∃ f' ∈ plan'.files,
      root.namesFrom f.path = root'.namesFrom f'.path ∧ encode f.text = encode f'.text := by
    have placed : Scaffold.placed root f ∈ plan'.files.map (Scaffold.placed root') :=
      same ▸ List.mem_map_of_mem member
    obtain ⟨f', inside, alike⟩ := List.mem_map.1 placed
    exact ⟨f', inside, Disk.placeInjective (congrArg Prod.fst alike).symm, (congrArg Prod.snd alike).symm⟩
  refine ⟨fun f member => ?_, fun f member => ?_⟩
  · obtain ⟨f', inside, names, _⟩ := other member
    exact names ▸ fits.names f' inside
  · obtain ⟨f', inside, _, text⟩ := other member
    exact text ▸ fits.texts f' inside

section
variable (ok : ofRequest root r database = .ok plan) (region : Region d root l)
  (tree : Shows d l (Scaffold.waysOf root plan) (plan.files.map (Scaffold.placed root)).reverse)
include ok

theorem fileNamesClean (clean : '\x00' ∉ root.text.toList) {f : PlannedFile} (member : f ∈ plan.files) :
    ∀ name ∈ root.namesFrom f.path, Path.Plain name.toList ∧ '\x00' ∉ name.toList := by
  obtain ⟨_, within⟩ := fileNamesFrom ok member
  have parts := Disk.partsClean ((ofRequestReady ok clean).2 f member).clean (by decide)
  refine fun name inside => ⟨Path.withinPlain within name inside, parts (.normal name) ?_⟩
  rw [within]
  exact List.mem_append_right _ (List.mem_map_of_mem inside)

theorem directoryNamesClean (clean : '\x00' ∉ root.text.toList) {names : List String}
    (has : HasDirectory root plan names) : ∀ name ∈ names, Path.Plain name.toList ∧ '\x00' ∉ name.toList := by
  obtain ⟨_, ⟨f, member, within, _⟩ | rfl⟩ := has
  · exact fun name inside => fileNamesClean ok clean member name (within.subset inside)
  · simp [Path.Plain]

include region tree

theorem plannedCalled {n : Node} (member : n ∈ Archive.nodesBelow d l) : ∃ names, IsCalled n names := by
  have clean := (Disk.findText region.found).1
  obtain ⟨some, e, there, _⟩ := (Archive.memNodesBelow region.wellFormed).1 member
  have named {names : List String} (same : n.location = place names)
      (all : ∀ name ∈ names, Path.Plain name.toList ∧ '\x00' ∉ name.toList) : ∃ names, IsCalled n names :=
    ⟨names, same, fun none => some (same.trans (Disk.placeEmpty.2 none)), fun name inside => (all name inside).1,
      fun name inside => (all name inside).2⟩
  cases e with
  | directory =>
    obtain ⟨names, has, same⟩ := (showsDirectory ok tree some).1 there
    exact named same (directoryNamesClean ok clean has)
  | file c =>
    obtain ⟨f, last, same, _⟩ := (showsFile tree some).1 there
    exact named same (fileNamesClean ok clean (lastFile last))
  | link target => exact absurd there (region.clear _ some target)

theorem plannedNamed (fits : FitsArchive root plan) {n : Node} (member : n ∈ Archive.nodesBelow d l) :
    (encode n.entryName).length ≤ Archive.nameLimit := by
  obtain ⟨rel, kind⟩ := n
  obtain ⟨some, e, there, rfl⟩ := (Archive.memNodesBelow region.wellFormed).1 member
  cases e with
  | directory =>
    obtain ⟨names, ⟨more, has⟩, rfl⟩ := (showsDirectory ok tree some).1 there
    rw [if_pos rfl, Node.entryName, Archive.nodePath]
    obtain ⟨f, inside, ⟨rest, whole⟩, other⟩ | rfl := has
    · -- the name of a file in the directory goes on from the name of the directory
      have bound := fits.names f inside
      have deeper : rest ≠ [] := by
        rintro rfl
        exact other (by simpa using whole)
      rw [← whole, String.intercalate_append_of_ne_nil more deeper, Text.Utf8.encodeAppend,
        List.length_append] at bound
      exact (Nat.le_add_right _ _).trans bound
    · decide
  | file c =>
    obtain ⟨f, last, rfl, _⟩ := (showsFile tree some).1 there
    rw [if_neg (by simp), Node.entryName, placeFrom, Archive.nodePath]
    exact fits.names f (lastFile last)
  | link target => exact absurd there (region.clear _ some target)

theorem plannedPackable (unlimited : d.limits = .unlimited) (fits : FitsArchive root plan) :
    Archive.Packable d root l := by
  refine ⟨fun n member => ?_, ?_, fun _ _ _ _ => by rw [unlimited]; rfl⟩
  · obtain ⟨some, _⟩ := (Archive.memNodesBelow region.wellFormed).1 member
    refine ⟨plannedNamed ok region tree fits member, by rw [unlimited]; rfl, fun c there => ?_⟩
    obtain ⟨f, last, _, rfl⟩ := (showsFile tree some).1 there
    exact fits.texts f (lastFile last)
  · exact Archive.calledDistinct region.wellFormed fun _ member => plannedCalled ok region tree member

end

end Plan

namespace Generator

variable {g : Generator} {s s' : Session} {w : Workspace} {r : Request} {d : Disk} {l lp : Location}

/- The project and the archive in the workspace -/

theorem archiveOutside (rel : Location) : place ["project.zip"] ≠ rel ++ place ["project"] := by
  intro same
  have last := congrArg List.getLast? same
  simp [place] at last
  revert last
  decide

theorem archiveBeside {d' : Disk} {lp : Location} {c : Bytes} (root : Region d w.root l)
    (project : Region d w.project lp) (ok : d.write w.archive c = .ok d') :
    Region d' w.root l ∧ Region d' w.project lp ∧ ∀ rel, d'.get? (rel ++ lp) = d.get? (rel ++ lp) := by
  have confined := Disk.writeConfined root.wellFormed (by simp) (archiveWithin w) ok
  refine ⟨Disk.regionConfined root confined, Disk.regionGrows project confined.grows confined.wellFormed, ?_⟩
  obtain ⟨rfl, _⟩ := Disk.writeExact root (archiveWithin w) (by simp) ok
  obtain ⟨rfl, _⟩ := Disk.regionFind root (projectWithin w) project.found
  intro rel
  rw [Disk.getPut d (by simp [place]), if_neg]
  rw [← List.append_assoc]
  exact fun same => archiveOutside rel (List.append_cancel_right same).symm

/-- A workspace that has been made, with nothing in it but the directory of the project. -/
structure IsNew (w : Workspace) (d : Disk) (l lp : Location) : Prop where
  root : Region d w.root l
  project : Region d w.project lp
  archive : d.get? (place ["project.zip"] ++ l) = none
  empty : ∀ rel, rel ≠ [] → d.get? (rel ++ lp) = none

theorem createdNew {p : Path} (wf : s.disk.WellFormed) (created : Created p w s (.ok w) s') :
    s'.disk.limits = s.disk.limits ∧ ∃ l lp, IsNew w s'.disk l lp := by
  obtain ⟨shared, root, sharedOk, rootOk, projectOk⟩ := createdOk created
  have made := Disk.madeByDirectories wf sharedOk
  obtain ⟨l, region, _, _, _, nothing⟩ := Disk.freshRegion made.wellFormed rootOk
  obtain ⟨lp, project, some, _, put, empty⟩ := Disk.freshRegion region.wellFormed projectOk
  have rootMade := (Disk.makeDirectoryMade made.wellFormed rootOk).1
  have projectMade := (Disk.makeDirectoryMade region.wellFormed projectOk).1
  have confined := Disk.madeConfined region.wellFormed (Disk.regionThere region) (projectWithin w) projectMade
  have regionP := Disk.regionConfined region confined
  refine ⟨projectMade.grows.limits.trans (rootMade.grows.limits.trans made.grows.limits), l, lp, regionP, project, ?_,
    empty⟩
  obtain ⟨rfl, _⟩ := Disk.regionFind regionP (projectWithin w) project.found
  rw [put, Disk.getPut _ some, if_neg fun same => ?_]
  · exact nothing _ (by simp [place])
  · exact archiveOutside [] (List.append_cancel_right same)

/- A run that succeeds -/

theorem buildSucceeds {paths : List Path} {t u : Session} {count : Nat} {contents : Bytes}
    (filled : Ends (Scaffold.fill w.project r g.database : Program FilingFault _) s (.ok paths) t)
    (packed : Ends (Archive.pack w.project w.archive : Program ArchiveFault _) t (.ok count) u) (quiet : u.Quiet)
    (read : u.disk.read w.archive = .ok contents) : ∃ s', Ends (g.build w r : Program Failure _) s (.ok contents) s' := by
  refine ⟨u.record (.readFile w.archive) none u.disk, ?_⟩
  unfold build
  refine Session.bindEnds (Session.adaptEnds filled) (Session.bindEnds (Session.adaptEnds packed) ?_)
  exact Session.attemptEnds (Session.lookRuns quiet read)

theorem generateSucceeds {t : Session} {contents : Bytes}
    (created : Ends (Workspace.create g.sharedRoot : Program FilingFault _) s (.ok w) t)
    (built : Ends (g.build w r : Program Failure _) t (.ok contents) s') :
    Ends (g.generate r : Program Failure _) s (.ok (Stream.openOn (fileName r) contents w)) s' := by
  unfold generate
  refine Session.bindEnds (Session.adaptEnds created) ?_
  unfold generateIn Ends
  rw [ExceptT.run_mk, StateT.run_bind, built]
  rfl

theorem fillLeaves {t : Session} {paths : List Path} (quiet : s.Quiet) (unlimited : s.disk.limits = .unlimited)
    (new : IsNew w s.disk l lp)
    (filled : Ends (Scaffold.fill w.project r g.database : Program FilingFault _) s (.ok paths) t) :
    t.Quiet ∧ t.disk.limits = .unlimited ∧ Region t.disk w.root l ∧
      t.disk.get? (place ["project.zip"] ++ l) = none := by
  have confined := Scaffold.fillStays filled new.project.wellFormed (Disk.regionThere new.project)
  refine ⟨?_, confined.grows.limits.trans unlimited,
    Disk.regionConfined new.root (confinedOuter (projectWithin w) confined), ?_⟩
  · unfold Session.Quiet
    rw [(Scaffold.fillAsks filled).mishaps]
    exact quiet
  · rw [← new.archive]
    by_contra other
    obtain ⟨rel, _, same⟩ := Disk.changedBelow new.project confined other
    obtain ⟨rfl, _⟩ := Disk.regionFind new.root (projectWithin w) new.project.found
    rw [← List.append_assoc] at same
    exact archiveOutside rel (List.append_cancel_right same)

theorem archiveStarts {d : Disk} (unlimited : d.limits = .unlimited) (root : Region d w.root l)
    (free : d.get? (place ["project.zip"] ++ l) = none) :
    ∃ d', d.write w.archive [] = .ok d' ∧ d'.limits = .unlimited := by
  have writable : Disk.IsWritable w.archive :=
    Disk.joinWritable (Disk.findText root.found).1 (by decide) (Disk.nameWritable (by decide) (by decide) (by decide))
  have archived : w.root.Within ([] ++ ["project.zip"]) w.archive := archiveWithin w
  have vacant : d.get? (place ["project.zip"] ++ l) ≠ some .directory := fun there => by cases free.symm.trans there
  have takes : d.limits.Takes w.archive ([] ++ ["project.zip"]) := unlimited.symm ▸ Disk.takesUnlimited ..
  obtain ⟨d', opened⟩ := Disk.writeRuns root takes archived writable root.directory vacant []
  obtain ⟨_, _, rfl, _⟩ := Disk.writeFound root.wellFormed opened
  exact ⟨_, opened, unlimited⟩

theorem buildRuns (quiet : s.Quiet) (unlimited : s.disk.limits = .unlimited) (new : IsNew w s.disk l lp)
    (passes : Plan.refusal? r g.database = none)
    (fits : ∀ plan, Plan.ofRequest w.project r g.database = .ok plan → Plan.FitsArchive w.project plan) :
    ∃ contents s', Ends (g.build w r : Program Failure _) s (.ok contents) s' := by
  obtain ⟨paths, t, filled⟩ := Scaffold.fillSucceeds new.project new.empty unlimited quiet passes
  obtain ⟨plan, ok, _, project, tree⟩ := Scaffold.fillShows new.project new.empty filled
  obtain ⟨quietT, unlimitedT, root, free⟩ := fillLeaves quiet unlimited new filled
  obtain ⟨d, opened, limits⟩ := archiveStarts unlimitedT root free
  obtain ⟨_, again⟩ := Disk.writeReopens root.wellFormed opened
  obtain ⟨_, projectD, same⟩ := archiveBeside root project opened
  have packable := Plan.plannedPackable ok projectD (Disk.showsSame tree fun rel _ => same rel) limits (fits plan ok)
  obtain ⟨count, u, packed, quietU, contents, written⟩ :=
    Archive.packSucceeds quietT opened again projectD packable
  have read := Disk.readWritten projectD.wellFormed written
  obtain ⟨s', built⟩ := buildSucceeds filled packed quietU read
  exact ⟨contents, s', built⟩

/-- A request whose names pass is generated once its workspace has been made. -/
theorem generateRuns {t : Session} (wf : s.disk.WellFormed) (quiet : s.Quiet) (unlimited : s.disk.limits = .unlimited)
    (made : Ends (Workspace.create g.sharedRoot : Program FilingFault _) s (.ok w) t)
    (passes : Plan.refusal? r g.database = none)
    (fits : ∀ plan, Plan.ofRequest w.project r g.database = .ok plan → Plan.FitsArchive w.project plan) :
    ∃ stream s', Ends (g.generate r : Program Failure _) s (.ok stream) s' := by
  have created := createCases made
  obtain rfl : w = g.workspace s := by
    cases created
    rfl
  obtain ⟨limits, l, lp, new⟩ := createdNew wf created
  have told : Session.Traced (ToldOrRemoved g (g.workspace s) fun _ => True) s t := createdTold created fun _ _ => trivial
  have quietT : t.Quiet := by
    unfold Session.Quiet
    rw [told.mishaps]
    exact quiet
  obtain ⟨contents, s', built⟩ := buildRuns quietT (limits.trans unlimited) new passes fits
  exact ⟨_, s', generateSucceeds made built⟩

end Generator
end ClassScaffold
