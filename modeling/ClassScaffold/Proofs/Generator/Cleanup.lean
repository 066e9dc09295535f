import ClassScaffold.Proofs.Disk.Restore
import ClassScaffold.Proofs.Generator.Phase
/-! A failure leaves nothing of the workspace. Whatever has failed, the disk is as it was before, but for
directories that were made on the way to the directory that all workspaces share. -/
namespace ClassScaffold
open Session (Ends Keeps Program)
open Disk (Made Confined)
open Scaffold (StaysWithin staysComposes)

namespace Generator

variable {g : Generator} {s s' : Session} {w : Workspace} {r : Request}

/- What stays within the workspace -/

theorem confinedOuter {root inner : Path} {names : List String} {d d' : Disk} (within : root.Within names inner)
    (confined : Confined inner d d') : Confined root d d' := by
  refine ⟨confined.grows, confined.wellFormed, fun l other => ?_⟩
  obtain ⟨q, more, some, below, found⟩ := confined.changed l other
  refine ⟨q, names ++ more, by simp [some], ?_, found⟩
  unfold Path.Within at *
  rw [below, within, List.map_append, List.append_assoc]

theorem lookStays {ε α : Type} {root : Path} {fault : Disk.Fault → ε} {o : Operation}
    {f : Disk → Except Disk.Fault α} :
    Keeps (StaysWithin root) (Host.attempt fault (Session.look o f)) := by
  intro s r s' ends wf _
  obtain ⟨_, ran, _⟩ := Session.endsAttempt ends
  rw [Session.lookDisk ran]
  exact Disk.confinedRefl wf root

theorem collectStays {root source : Path} {taken : List String} {nodes : List Archive.Node} :
    Keeps (StaysWithin root) (Archive.collect source taken nodes : Program ArchiveFault _) := by
  have composes := staysComposes root
  induction nodes generalizing taken with
  | nil => exact Session.keepsPure composes _
  | cons n rest ih =>
    have contents : Keeps (StaysWithin root) (Archive.contentsOf source n : Program ArchiveFault _) := by
      unfold Archive.contentsOf
      split
      · exact Session.keepsBind composes lookStays fun _ => Session.keepsPure composes _
      · exact Session.keepsBind composes lookStays fun _ =>
          Session.keepsUnless composes fun _ => Session.keepsPure composes _
    unfold Archive.collect
    refine Session.keepsUnless composes fun _ => Session.keepsUnless composes fun _ => ?_
    exact Session.keepsBind composes contents fun _ =>
      Session.keepsBind composes ih fun _ => Session.keepsPure composes _

theorem packStays : Keeps (StaysWithin w.root) (Archive.pack w.project w.archive : Program ArchiveFault _) := by
  have composes := staysComposes w.root
  have writes {contents : Text.Utf8.Bytes} : Keeps (StaysWithin w.root)
      (Host.attempt (.file w.archive) (Host.writeFile w.archive contents) : Program ArchiveFault _) :=
    Scaffold.writeFileStays (by simp) (archiveWithin w) contents
  unfold Archive.pack
  refine Session.keepsBind composes writes fun _ => Session.keepsBind composes lookStays fun nodes => ?_
  refine Session.keepsBind composes collectStays fun entries => ?_
  exact Session.keepsBind composes writes fun _ => Session.keepsPure composes _

theorem buildConfined {result : Except Failure Text.Utf8.Bytes} (wf : s.disk.WellFormed)
    (rootThere : s.disk.isDirectory w.root = true) (there : s.disk.isDirectory w.project = true)
    (ends : Ends (g.build w r : Program Failure _) s result s') : Confined w.root s.disk s'.disk := by
  have filling {ran : Except FilingFault (List Path)} {t : Session}
      (ends : Ends (Scaffold.fill w.project r g.database : Program FilingFault _) s ran t) :
      Confined w.root s.disk t.disk := confinedOuter (projectWithin w) (Scaffold.fillStays ends wf there)
  have composes := staysComposes w.root
  unfold build at ends
  rcases Session.endsBind ends with ⟨f, failed, _⟩ | ⟨paths, t, filled, ends⟩
  · obtain ⟨e, _, before⟩ := inPhaseError failed
    exact filling before
  · have before := filling (inPhaseOk filled)
    refine Disk.confinedTrans before ?_
    have packing : Keeps (StaysWithin w.root)
        (inPhase (m := StateM Session) .package .archive (Archive.pack w.project w.archive)) := by
      intro s r s' ends
      obtain ⟨_, packed, _⟩ := Session.endsAdapt ends
      exact packStays packed
    exact Session.keepsBind composes packing (fun _ => lookStays) ends before.wellFormed
      (Disk.isDirectoryGrows before.grows rootThere)

/- What is left -/

theorem createdOk {p : Path} (created : Created p w s (.ok w) s') :
    ∃ shared root, s.disk.makeDirectories p = (.ok (), shared) ∧ shared.makeDirectory w.root = .ok root ∧
      root.makeDirectory w.project = .ok s'.disk := by
  cases created with
  | @done t u v shared root project =>
    refine ⟨t.disk, u.disk, Session.makeDirectoriesOk shared, ?_, ?_⟩
    · rcases Session.makeDirectoryCases root with ⟨_, ok⟩ | ⟨_, impossible, _⟩
      · exact ok
      · cases impossible
    · rcases Session.makeDirectoryCases project with ⟨_, ok⟩ | ⟨_, impossible, _⟩
      · exact ok
      · cases impossible

/-- Either the shared directory could not be made, or it is there and nothing else is left. -/
inductive Leaves (p : Path) (s s' : Session) : Prop where
  | part (stopped : ∃ f, (Host.makeDirectories p : StateM Session _).run s = (.error f, s'))
  | shared (made : Disk) (ok : s.disk.makeDirectories p = (.ok (), made)) (alike : Disk.Alike made s'.disk)
      (distinct : (s'.disk.entries.map Prod.fst).Nodup)

theorem leavesMade {p : Path} (wf : s.disk.WellFormed) (leaves : Leaves p s s') : Made p s.disk s'.disk := by
  cases leaves with
  | part stopped =>
    obtain ⟨_, ran⟩ := stopped
    exact Session.makeDirectoriesMade wf ran
  | shared made ok alike distinct => exact Disk.madeAlike (Disk.madeByDirectories wf ok) alike distinct

theorem createdLeaves {p : Path} {e : FilingFault} (wf : s.disk.WellFormed)
    (stopped : Created p w s (.error e) s') : Leaves p s s' := by
  cases stopped with
  | noSharedRoot stopped => exact .part ⟨_, stopped⟩
  | noRoot shared stopped =>
    have made := Session.makeDirectoriesMade wf shared
    rcases Session.makeDirectoryCases stopped with ⟨impossible, _⟩ | ⟨_, _, same⟩
    · cases impossible
    · rw [numbered] at same
      exact .shared _ (Session.makeDirectoriesOk shared) (same ▸ ⟨rfl, rfl, fun _ => rfl⟩)
        (same ▸ made.wellFormed.distinct)
  | noProject shared root stopped =>
    have made := Session.makeDirectoriesMade wf shared
    rcases Session.makeDirectoryCases root with ⟨_, ok⟩ | ⟨_, impossible, _⟩
    · rcases Session.makeDirectoryCases stopped with ⟨impossible, _⟩ | ⟨_, _, same⟩
      · cases impossible
      have after := (Disk.makeDirectoryMade made.wellFormed ok).1.wellFormed
      have restored := Disk.removeRestores made.wellFormed ok (Disk.confinedRefl after w.root)
      rw [← same] at restored after
      exact .shared _ (Session.makeDirectoriesOk shared) restored (Disk.removeDistinct after w.root)
    · cases impossible

theorem builtConfined {result : Except Failure Text.Utf8.Bytes} {t : Session} {p : Path} (wf : s.disk.WellFormed)
    (created : Created p w s (.ok w) t) (built : Ends (g.build w r : Program Failure _) t result s') :
    ∃ shared root, s.disk.makeDirectories p = (.ok (), shared) ∧ shared.makeDirectory w.root = .ok root ∧
      Confined w.root root s'.disk := by
  obtain ⟨shared, root, sharedOk, rootOk, projectOk⟩ := createdOk created
  have made := Disk.madeByDirectories wf sharedOk
  obtain ⟨rootMade, rootThere⟩ := Disk.makeDirectoryMade made.wellFormed rootOk
  obtain ⟨projectMade, there⟩ := Disk.makeDirectoryMade rootMade.wellFormed projectOk
  have first := Disk.madeConfined rootMade.wellFormed rootThere (projectWithin w) projectMade
  have next := buildConfined first.wellFormed (Disk.isDirectoryGrows first.grows rootThere) there built
  exact ⟨shared, root, sharedOk, rootOk, Disk.confinedTrans first next⟩

/-- All changes since the root was made are below it, and are removed with it. -/
theorem builtLeaves {result : Except Failure Text.Utf8.Bytes} {t u : Session} {p : Path} (wf : s.disk.WellFormed)
    (created : Created p w s (.ok w) t) (built : Ends (g.build w r : Program Failure _) t result u)
    (removed : s'.disk = u.disk.remove w.root) : Leaves p s s' := by
  obtain ⟨shared, root, sharedOk, rootOk, confined⟩ := builtConfined wf created built
  have restored := Disk.removeRestores (Disk.madeByDirectories wf sharedOk).wellFormed rootOk confined
  have distinct := Disk.removeDistinct confined.wellFormed w.root
  rw [← removed] at restored distinct
  exact .shared shared sharedOk restored distinct

theorem generatedLeaves {f : Failure} (wf : s.disk.WellFormed) (generated : Generated g w r s (.error f) s') :
    Leaves g.sharedRoot s s' := by
  cases generated with
  | noWorkspace stopped => exact createdLeaves wf stopped
  | stopped created failed => exact builtLeaves wf created failed rfl

/-- Every operation of a run belongs to a phase, and the first one that fails, like a refused name or entry,
makes the run fail in that phase. What a failed run leaves is the directories on the way to the shared one:
nothing when that one was there, and nothing below it when its path has no upward steps. -/
theorem generateFails {result : Except Failure Stream} (wf : s.disk.WellFormed)
    (ends : Ends (g.generate r : Program Failure _) s result s') :
    (∃ added, s'.history = s.history ++ added ∧
      (∀ i entry, added[i]? = some entry →
        ((∃ phase, BelongsTo g (g.workspace s) entry.operation phase) ∧
            (entry.fault ≠ none → ∃ f, result = .error f ∧
              ∀ phase, BelongsTo g (g.workspace s) entry.operation phase ↔ phase = f.phase) ∨
          entry = ⟨.removeTree (g.workspace s).root, none⟩) ∧
        ∀ mishap, s.mishaps (s.history.length + i) = some mishap →
          entry.fault = some mishap.fault ∨ ∃ p, entry.operation = .removeTree p) ∧
      ((∀ entry ∈ added, entry.fault = none) → Refused g (g.workspace s) r result)) ∧
    ∀ f, result = .error f →
      Made g.sharedRoot s.disk s'.disk ∧
      (s.disk.isDirectory g.sharedRoot = true → ∀ l, s'.disk.get? l = s.disk.get? l) ∧
      (.parent ∉ g.sharedRoot.parts → ∀ place, s'.disk.find g.sharedRoot = .ok place →
        ∀ rel, rel ≠ [] → s'.disk.get? (rel ++ place) = s.disk.get? (rel ++ place)) := by
  have generated := generateCases ends
  constructor
  · obtain ⟨added, history, each⟩ := (generatedTold generated).history
    obtain ⟨added', history', refused⟩ := generatedRefused generated
    obtain rfl : added = added' := List.append_cancel_left (history.symm.trans history')
    refine ⟨added, history, fun i entry found => ?_, refused⟩
    obtain ⟨⟨phase, belongs, fails⟩ | removal, given⟩ := each i entry found
    · refine ⟨.inl ⟨⟨phase, belongs⟩, fun faulty => ?_⟩, given⟩
      obtain ⟨f, failed, same⟩ := fails faulty
      refine ⟨f, failed, fun other => ⟨fun h => (belongsUnique h belongs).trans same.symm, ?_⟩⟩
      rintro rfl
      rwa [same]
    · exact ⟨.inr removal, given⟩
  · rintro f rfl
    have made := leavesMade wf (generatedLeaves wf generated)
    refine ⟨made, fun there l => Disk.madeThere wf there made l, fun descends place found rel some => ?_⟩
    by_contra other
    obtain ⟨more, whole⟩ := Disk.madeAround wf made descends found other
    have lengths := congrArg List.length whole
    have long := List.length_pos_of_ne_nil some
    simp only [List.length_append] at lengths
    omega

def failureOf {α : Type} : Except Failure α → Option Failure
  | .ok _ => none
  | .error f => some f

def stubborn : Session := { Scaffold.blank with mishaps := fun n => if n = 2 then some ⟨.notFound, none⟩ else none }

theorem generateFailsStubborn : ∃ s', Ends (generate ⟨⟨"t"⟩, .postgresql⟩ Scaffold.climbing : Program Failure _)
      stubborn (.error ⟨.createWorkspace, .filing (.createWorkspace ⟨"t"⟩ .notFound)⟩) s' ∧
    s'.history.length = 4 ∧ Made ⟨"t"⟩ (.empty .usual) s'.disk := by
  let generating : Program Failure Stream := generate ⟨⟨"t"⟩, .postgresql⟩ Scaffold.climbing
  have stopped : failureOf (generating.run.run stubborn).1 =
      some ⟨.createWorkspace, .filing (.createWorkspace ⟨"t"⟩ .notFound)⟩ := by decide +kernel
  have recorded : (generating.run.run stubborn).2.history.length = 4 := by decide +kernel
  rcases run : generating.run.run stubborn with ⟨result, s'⟩
  rw [run] at stopped recorded
  cases result with
  | ok => cases stopped
  | error f =>
    cases stopped
    have left := (generateFails (Disk.emptyWellFormed .usual) run).2 _ rfl
    exact ⟨s', run, recorded, left.1⟩

/-- A directory on the way to a shared one whose path climbs again is made below that one, and stays. -/
theorem generateClimbs : ¬ ∀ (g : Generator) (r : Request) (s s' : Session) (result : Except Failure Stream),
    s.disk.WellFormed → Ends (g.generate r : Program Failure _) s result s' → ∀ f, result = .error f →
      ∀ place, s'.disk.find g.sharedRoot = .ok place →
        ∀ rel, rel ≠ [] → s'.disk.get? (rel ++ place) = s.disk.get? (rel ++ place) := by
  intro kept
  let generating : Program Failure Stream :=
    generate ⟨⟨"x/.."⟩, .postgresql⟩ ⟨none, none, [⟨[".."], [], []⟩]⟩
  have failed : (failureOf (generating.run.run Scaffold.blank).1).isSome = true := by decide +kernel
  have found : (generating.run.run Scaffold.blank).2.disk.find ⟨"x/.."⟩ = .ok [] := by decide +kernel
  have there : (generating.run.run Scaffold.blank).2.disk.get? [Text.Utf8.encode "x"] = some .directory := by
    decide +kernel
  rcases run : generating.run.run Scaffold.blank with ⟨result, s'⟩
  rw [run] at failed found there
  cases result with
  | ok => cases failed
  | error f =>
    have same := kept _ _ _ s' _ (Disk.emptyWellFormed .usual) run f rfl [] found [Text.Utf8.encode "x"] (by simp)
    rw [List.append_nil, there] at same
    revert same
    decide

end Generator
end ClassScaffold
