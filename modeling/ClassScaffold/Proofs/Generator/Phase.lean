import ClassScaffold.Proofs.Generator.Workspace
/-! Which operations generating an archive asks for, and the phase that each of them belongs to. When one of
them fails the generator fails in that phase. -/
namespace ClassScaffold
open Session (Ends Program Traces Traced)

namespace Generator

inductive BelongsTo (g : Generator) (w : Workspace) : Operation → Phase → Prop where
  | sharedRoot : BelongsTo g w (.makeDirectories g.sharedRoot) .createWorkspace
  | root : BelongsTo g w (.makeDirectory w.root) .createWorkspace
  | project : BelongsTo g w (.makeDirectory w.project) .createWorkspace
  | planned {o} (asks : Scaffold.Asks w.project o) : BelongsTo g w o .scaffold
  | archive : BelongsTo g w (.writeFile w.archive) .package
  | walk : BelongsTo g w (.nodesBelow w.project) .package
  | input (l) : BelongsTo g w (.readBelow w.project l) .package
  | listing (l) : BelongsTo g w (.enterBelow w.project l) .package
  | reading : BelongsTo g w (.readFile w.archive) .stream

variable {g : Generator} {s s' : Session} {w : Workspace}

theorem sharedRootApart (names : List String) : ¬ (g.workspace s).project.Within names g.sharedRoot := by
  intro within
  -- the project lies two names below the shared directory
  have lengths := congrArg List.length within
  rw [projectWithin, workspaceWithin] at lengths
  simp at lengths

theorem archiveApart (names : List String) : ¬ w.project.Within names w.archive := by
  intro within
  unfold Path.Within at within
  rw [projectWithin, archiveWithin, List.append_assoc] at within
  have names := List.append_cancel_left within
  simp at names

theorem belongsKind {o : Operation} {phase : Phase} (belongs : BelongsTo g w o phase) :
    match o with
    | .makeDirectory _ => phase = .createWorkspace
    | .makeDirectories p => phase = .createWorkspace ∧ p = g.sharedRoot ∨
        phase = .scaffold ∧ ∃ names, w.project.Within names p
    | .writeFile p => phase = .package ∧ p = w.archive ∨ phase = .scaffold ∧ ∃ names, w.project.Within names p
    | .nodesBelow _ | .readBelow _ _ | .enterBelow _ _ => phase = .package
    | .readFile _ => phase = .stream
    | _ => False := by
  cases belongs with
  | planned asks =>
    obtain ⟨p, names, within, _, rfl | ⟨rfl, _⟩⟩ := asks
    · exact .inr ⟨rfl, names, within⟩
    · exact .inr ⟨rfl, names, within⟩
  | sharedRoot => exact .inl ⟨rfl, rfl⟩
  | archive => exact .inl ⟨rfl, rfl⟩
  | _ => rfl

theorem belongsUnique {o : Operation} {a b : Phase} (first : BelongsTo g (g.workspace s) o a)
    (second : BelongsTo g (g.workspace s) o b) : a = b := by
  have kindA := belongsKind first
  have kindB := belongsKind second
  cases o with
  | makeDirectories p =>
    rcases kindA with ⟨rfl, rfl⟩ | ⟨rfl, names, within⟩
    · rcases kindB with ⟨rfl, _⟩ | ⟨_, names, within⟩
      · rfl
      · exact absurd within (sharedRootApart names)
    · rcases kindB with ⟨_, rfl⟩ | ⟨rfl, _⟩
      · exact absurd within (sharedRootApart names)
      · rfl
  | writeFile p =>
    rcases kindA with ⟨rfl, rfl⟩ | ⟨rfl, names, within⟩
    · rcases kindB with ⟨rfl, _⟩ | ⟨_, names, within⟩
      · rfl
      · exact absurd within (archiveApart names)
    · rcases kindB with ⟨_, rfl⟩ | ⟨rfl, _⟩
      · exact absurd within (archiveApart names)
      · rfl
  | appendFile | removeTree | grant => exact kindA.elim
  | _ => exact kindA.trans kindB.symm

/- Failures and their phases -/

def Told (g : Generator) (w : Workspace) (fails : Phase → Prop) (entry : Record) : Prop :=
  ∃ phase, BelongsTo g w entry.operation phase ∧ (entry.fault ≠ none → fails phase)

def FailsIn {α : Type} (result : Except Failure α) (phase : Phase) : Prop :=
  ∃ f, result = .error f ∧ f.phase = phase

theorem phaseTold {ε α : Type} {phase : Phase} {cause : ε → Cause} {step : Program ε α}
    {r : Except Failure α} (traces : Traces (fun o => BelongsTo g w o phase) step)
    (ends : Ends (inPhase (m := StateM Session) phase cause step) s r s') :
    Traced (Told g w (FailsIn r)) s s' := by
  obtain ⟨result, before, rfl⟩ := Session.endsAdapt ends
  refine Session.tracedMono (traces before) fun entry ⟨belongs, error⟩ => ⟨phase, belongs, fun faulty => ?_⟩
  obtain ⟨e, rfl⟩ := error faulty
  exact ⟨_, rfl, rfl⟩

theorem toldOk {α β : Type} {a : α} {result : Except Failure β} {entry : Record}
    (told : Told g w (FailsIn (.ok a)) entry) : Told g w (FailsIn result) entry := by
  obtain ⟨phase, belongs, fails⟩ := told
  refine ⟨phase, belongs, fun faulty => ?_⟩
  obtain ⟨_, impossible, _⟩ := fails faulty
  cases impossible

theorem toldError {α β : Type} {f : Failure} {entry : Record}
    (told : Told g w (FailsIn (.error f : Except Failure α)) entry) :
    Told g w (FailsIn (.error f : Except Failure β)) entry := by
  obtain ⟨phase, belongs, fails⟩ := told
  refine ⟨phase, belongs, fun faulty => ?_⟩
  obtain ⟨_, same, inPhase⟩ := fails faulty
  cases same
  exact ⟨f, rfl, inPhase⟩

theorem tracesContents {n : Archive.Node} :
    Traces (fun o => BelongsTo g w o .package) (Archive.contentsOf w.project n : Program ArchiveFault _) := by
  unfold Archive.contentsOf
  split
  · exact Session.tracesBind (Session.tracesEnterBelow (.listing n.location)) fun _ => Session.tracesPure _
  · exact Session.tracesBind (Session.tracesReadBelow (.input n.location)) fun contents =>
      Session.tracesUnless fun _ => Session.tracesPure _

theorem tracesCollect {taken : List String} {nodes : List Archive.Node} :
    Traces (fun o => BelongsTo g w o .package)
      (Archive.collect w.project taken nodes : Program ArchiveFault _) := by
  induction nodes generalizing taken with
  | nil => exact Session.tracesPure _
  | cons n rest ih =>
    unfold Archive.collect
    exact Session.tracesUnless fun _ => Session.tracesUnless fun _ =>
      Session.tracesBind tracesContents fun _ => Session.tracesBind ih fun _ => Session.tracesPure _

theorem tracesPack :
    Traces (fun o => BelongsTo g w o .package) (Archive.pack w.project w.archive : Program ArchiveFault _) := by
  unfold Archive.pack
  refine Session.tracesBind (Session.tracesWriteFile .archive) fun _ => ?_
  refine Session.tracesBind (Session.tracesNodesBelow .walk) fun nodes => ?_
  refine Session.tracesBind tracesCollect fun entries => ?_
  exact Session.tracesBind (Session.tracesWriteFile .archive) fun _ => Session.tracesPure _

theorem tracesFill {r : Request} : Traces (fun o => BelongsTo g w o .scaffold)
    (Scaffold.fill w.project r g.database : Program FilingFault _) := by
  intro s result s' ends
  exact Session.tracedMono (Scaffold.fillAsks ends) fun entry ⟨asks, error⟩ => ⟨.planned asks, error⟩

theorem tracesRead : Traces (fun o => BelongsTo g w o .stream)
    (Host.attempt (fun e => ⟨.stream, .archive (.file w.archive e)⟩) (Host.readFile w.archive) :
      Program Failure _) := Session.tracesReadFile .reading

theorem buildTold {r : Request} {result : Except Failure Text.Utf8.Bytes}
    (ends : Ends (g.build w r : Program Failure _) s result s') : Traced (Told g w (FailsIn result)) s s' := by
  unfold build at ends
  rcases Session.endsBind ends with ⟨e, failed, same⟩ | ⟨paths, t, filled, ends⟩
  · rw [same]
    exact Session.tracedMono (phaseTold tracesFill failed) fun _ => toldError
  refine Session.tracedTrans (Session.tracedMono (phaseTold tracesFill filled) fun _ => toldOk) ?_
  rcases Session.endsBind ends with ⟨e, failed, same⟩ | ⟨count, u, packed, ends⟩
  · rw [same]
    exact Session.tracedMono (phaseTold tracesPack failed) fun _ => toldError
  refine Session.tracedTrans (Session.tracedMono (phaseTold tracesPack packed) fun _ => toldOk) ?_
  refine Session.tracedMono (tracesRead ends) fun entry ⟨belongs, error⟩ => ⟨.stream, belongs, fun faulty => ?_⟩
  obtain ⟨f, rfl⟩ := error faulty
  obtain ⟨e, rfl, _⟩ := Session.attemptError ends
  exact ⟨_, rfl, rfl⟩

/- With the workspace around it -/

def ToldOrRemoved (g : Generator) (w : Workspace) (fails : Phase → Prop) (entry : Record) : Prop :=
  Told g w fails entry ∨ entry = ⟨.removeTree w.root, none⟩

theorem removedTraced {fails : Phase → Prop} : Traced (ToldOrRemoved g w fails) s (removed w s) :=
  Session.tracedRecord (fun _ _ => .inr ⟨_, rfl⟩) (.inr rfl)

theorem createdTold {fails : Phase → Prop} {r : Except FilingFault Workspace}
    (created : Created g.sharedRoot w s r s') (fail : ∀ e, r = .error e → fails .createWorkspace) :
    Traced (ToldOrRemoved g w fails) s s' := by
  let first := fun o => BelongsTo g w o .createWorkspace
  have step {α : Type} {a : Except Disk.Fault α} {s s' : Session}
      (error : ∀ e, a = .error e → ∃ e, r = .error e)
      (traced : Traced (fun entry => first entry.operation ∧ (entry.fault ≠ none → ∃ e, a = .error e)) s s') :
      Traced (ToldOrRemoved g w fails) s s' := by
    refine Session.tracedMono traced fun entry ⟨belongs, faulty⟩ => .inl ⟨_, belongs, fun h => ?_⟩
    obtain ⟨e, failed⟩ := faulty h
    obtain ⟨e, failed⟩ := error e failed
    exact fail e failed
  have numbering (t : Session) : Traced (ToldOrRemoved g w fails) t (numbered t) :=
    Session.tracedSame rfl rfl
  cases created with
  | noSharedRoot stopped =>
    exact step (fun _ _ => ⟨_, rfl⟩) (Session.makeDirectoriesTraced first BelongsTo.sharedRoot stopped)
  | noRoot shared stopped =>
    have shared := Session.makeDirectoriesTraced first BelongsTo.sharedRoot shared
    have stopped := Session.makeDirectoryTraced first BelongsTo.root stopped
    refine Session.tracedTrans (step (fun _ same => by cases same) shared) ?_
    exact Session.tracedTrans (numbering _) (step (fun _ _ => ⟨_, rfl⟩) stopped)
  | noProject shared made stopped =>
    have shared := Session.makeDirectoriesTraced first BelongsTo.sharedRoot shared
    have made := Session.makeDirectoryTraced first BelongsTo.root made
    have stopped := Session.makeDirectoryTraced first BelongsTo.project stopped
    refine Session.tracedTrans (step (fun _ same => by cases same) shared) ?_
    refine Session.tracedTrans (numbering _) ?_
    refine Session.tracedTrans (step (fun _ same => by cases same) made) ?_
    exact Session.tracedTrans (step (fun _ _ => ⟨_, rfl⟩) stopped) removedTraced
  | done shared made project =>
    have shared := Session.makeDirectoriesTraced first BelongsTo.sharedRoot shared
    have made := Session.makeDirectoryTraced first BelongsTo.root made
    have project := Session.makeDirectoryTraced first BelongsTo.project project
    refine Session.tracedTrans (step (fun _ same => by cases same) shared) ?_
    refine Session.tracedTrans (numbering _) ?_
    refine Session.tracedTrans (step (fun _ same => by cases same) made) ?_
    exact step (fun _ same => by cases same) project

theorem generatedTold {r : Request} {result : Except Failure Stream} (generated : Generated g w r s result s') :
    Traced (ToldOrRemoved g w (FailsIn result)) s s' := by
  cases generated with
  | noWorkspace stopped => exact createdTold stopped fun _ _ => ⟨_, rfl, rfl⟩
  | stopped created failed =>
    refine Session.tracedTrans (createdTold created fun _ same => by cases same) ?_
    exact Session.tracedTrans (Session.tracedMono (buildTold failed) fun _ told => .inl (toldError told))
      removedTraced
  | done created built =>
    refine Session.tracedTrans (createdTold created fun _ same => by cases same) ?_
    exact Session.tracedMono (buildTold built) fun _ told => .inl (toldOk told)

/- Runs in which no operation fails -/

/-- What comes of a run in which no operation fails. Names are refused before anything is filled, and the
archive refuses what it cannot hold. -/
structure Refused {α : Type} (g : Generator) (w : Workspace) (r : Request) (result : Except Failure α) : Prop where
  names : ∀ segment, Plan.ofRequest w.project r g.database = .error segment →
    result = .error ⟨.scaffold, .filing (.invalidSegment segment)⟩
  entries : ∀ plan, Plan.ofRequest w.project r g.database = .ok plan →
    ∀ f, result = .error f → f.phase = .package

theorem sureFill {root : Path} {r : Request} {database : Database} {plan : Plan}
    (ok : Plan.ofRequest root r database = .ok plan) :
    Session.Sure (Scaffold.fill root r database : Program FilingFault _) := by
  unfold Scaffold.fill
  rw [ok]
  refine Session.sureBind ?_ fun _ => Session.surePure _
  refine Session.sureBind (Session.sureForM fun p => Session.sureMakeDirectories) fun _ => ?_
  refine Session.sureForM fun f => ?_
  unfold Scaffold.write
  split
  · exact Session.sureBind Session.sureMakeDirectories fun _ => Session.sureWriteFile
  · exact Session.sureBind (Session.surePure _) fun _ => Session.sureWriteFile

theorem refusedFill {root : Path} {r : Request} {database : Database} {segment : Path.InvalidSegment}
    {result : Except FilingFault (List Path)} (refused : Plan.ofRequest root r database = .error segment)
    (ends : Ends (Scaffold.fill root r database : Program FilingFault _) s result s') :
    result = .error (.invalidSegment segment) ∧ s' = s := by
  unfold Scaffold.fill at ends
  rw [refused] at ends
  exact Session.endsThrow ends

theorem inPhaseOk {ε α : Type} {phase : Phase} {cause : ε → Cause} {step : Program ε α} {a : α}
    (ends : Ends (inPhase (m := StateM Session) phase cause step) s (.ok a) s') : Ends step s (.ok a) s' := by
  obtain ⟨result, before, same⟩ := Session.endsAdapt ends
  cases result with
  | error => cases same
  | ok =>
    cases same
    exact before

theorem inPhaseError {ε α : Type} {phase : Phase} {cause : ε → Cause} {step : Program ε α} {f : Failure}
    (ends : Ends (inPhase (m := StateM Session) phase cause step) s (.error f) s') :
    ∃ e, f = ⟨phase, cause e⟩ ∧ Ends step s (.error e) s' := by
  obtain ⟨result, before, same⟩ := Session.endsAdapt ends
  cases result with
  | ok => cases same
  | error e =>
    cases same
    exact ⟨e, rfl, before⟩

theorem buildNames {r : Request} {result : Except Failure Text.Utf8.Bytes} {segment : Path.InvalidSegment}
    (refused : Plan.ofRequest w.project r g.database = .error segment)
    (ends : Ends (g.build w r : Program Failure _) s result s') :
    result = .error ⟨.scaffold, .filing (.invalidSegment segment)⟩ ∧ s' = s := by
  unfold build at ends
  rcases Session.endsBind ends with ⟨f, failed, same⟩ | ⟨paths, t, filled, _⟩
  · obtain ⟨e, rfl, before⟩ := inPhaseError failed
    obtain ⟨refusal, rfl⟩ := refusedFill refused before
    cases refusal
    exact ⟨same, rfl⟩
  · obtain ⟨impossible, _⟩ := refusedFill refused (inPhaseOk filled)
    cases impossible

theorem buildEntries {r : Request} {result : Except Failure Text.Utf8.Bytes} {plan : Plan}
    (ok : Plan.ofRequest w.project r g.database = .ok plan)
    (ends : Ends (g.build w r : Program Failure _) s result s') : ∃ added, s'.history = s.history ++ added ∧
      ((∀ entry ∈ added, entry.fault = none) → ∀ f, result = .error f → f.phase = .package) := by
  unfold build at ends
  rcases Session.endsBind ends with ⟨f, failed, rfl⟩ | ⟨paths, t, filled, ends⟩
  · obtain ⟨e, rfl, before⟩ := inPhaseError failed
    obtain ⟨added, history, sure⟩ := sureFill ok before
    refine ⟨added, history, fun none => ?_⟩
    obtain ⟨_, impossible⟩ := sure none
    cases impossible
  obtain ⟨filling, historyA, _⟩ := sureFill ok (inPhaseOk filled)
  rcases Session.endsBind ends with ⟨f, failed, rfl⟩ | ⟨count, u, packed, ends⟩
  · obtain ⟨e, rfl, before⟩ := inPhaseError failed
    obtain ⟨packing, historyB, _⟩ := (tracesPack (g := g) before).history
    refine ⟨filling ++ packing, by rw [historyB, historyA, List.append_assoc], fun _ f same => ?_⟩
    cases same
    rfl
  obtain ⟨packing, historyB, _⟩ := (tracesPack (g := g) (inPhaseOk packed)).history
  obtain ⟨reading, historyC, sure⟩ := Session.sureReadFile ends
  refine ⟨filling ++ packing ++ reading, by rw [historyC, historyB, historyA]; simp, fun none f same => ?_⟩
  obtain ⟨bytes, found⟩ := sure fun entry member => none entry (List.mem_append_right _ member)
  rw [found] at same
  cases same

theorem buildRefused {r : Request} {result : Except Failure Text.Utf8.Bytes}
    (ends : Ends (g.build w r : Program Failure _) s result s') : ∃ added, s'.history = s.history ++ added ∧
      ((∀ entry ∈ added, entry.fault = none) → Refused g w r result) := by
  cases planned : Plan.ofRequest w.project r g.database with
  | error segment =>
    obtain ⟨same, rfl⟩ := buildNames planned ends
    refine ⟨[], by simp, fun _ => ⟨fun other refused => ?_, fun plan ok => ?_⟩⟩
    · rw [planned] at refused
      cases refused
      exact same
    · rw [planned] at ok
      cases ok
  | ok plan =>
    obtain ⟨added, history, entries⟩ := buildEntries planned ends
    refine ⟨added, history, fun none => ⟨fun segment refused => ?_, fun _ _ => entries none⟩⟩
    rw [planned] at refused
    cases refused

theorem createdRefused {p : Path} {made : Except FilingFault Workspace} (created : Created p w s made s') :
    ∃ added, s'.history = s.history ++ added ∧ ((∀ entry ∈ added, entry.fault = none) → made = .ok w) := by
  cases created with
  | noSharedRoot stopped =>
    obtain ⟨a, history, ok⟩ := Session.makeDirectoriesRecord stopped
    refine ⟨[a], history, fun none => ?_⟩
    obtain ⟨_, impossible⟩ := ok (none a List.mem_cons_self)
    cases impossible
  | noRoot shared stopped =>
    obtain ⟨a, historyA, _⟩ := Session.makeDirectoriesRecord shared
    obtain ⟨b, historyB, ok⟩ := Session.makeDirectoryRecord stopped
    refine ⟨[a, b], by rw [historyB]; simp [numbered, historyA], fun none => ?_⟩
    obtain ⟨_, impossible⟩ := ok (none b (by simp))
    cases impossible
  | noProject shared made stopped =>
    obtain ⟨a, historyA, _⟩ := Session.makeDirectoriesRecord shared
    obtain ⟨b, historyB, _⟩ := Session.makeDirectoryRecord made
    obtain ⟨c, historyC, ok⟩ := Session.makeDirectoryRecord stopped
    refine ⟨[a, b, c, ⟨.removeTree w.root, none⟩], ?_, fun none => ?_⟩
    · simp [removed, Session.record, historyC, historyB, numbered, historyA]
    · obtain ⟨_, impossible⟩ := ok (none c (by simp))
      cases impossible
  | done shared made project =>
    obtain ⟨a, historyA, _⟩ := Session.makeDirectoriesRecord shared
    obtain ⟨b, historyB, _⟩ := Session.makeDirectoryRecord made
    obtain ⟨c, historyC, _⟩ := Session.makeDirectoryRecord project
    refine ⟨[a, b, c], ?_, fun _ => rfl⟩
    simp [historyC, historyB, numbered, historyA]

theorem generatedRefused {r : Request} {result : Except Failure Stream} (generated : Generated g w r s result s') :
    ∃ added, s'.history = s.history ++ added ∧
      ((∀ entry ∈ added, entry.fault = none) → Refused g w r result) := by
  cases generated with
  | noWorkspace stopped =>
    obtain ⟨added, history, ok⟩ := createdRefused stopped
    refine ⟨added, history, fun none => ?_⟩
    cases ok none
  | stopped created failed =>
    obtain ⟨early, historyA, _⟩ := createdRefused created
    obtain ⟨late, historyB, refused⟩ := buildRefused failed
    refine ⟨early ++ late ++ [⟨.removeTree w.root, none⟩], ?_, fun none => ?_⟩
    · simp [removed, Session.record, historyB, historyA]
    · obtain ⟨names, entries⟩ := refused fun entry member => none entry (by simp [member])
      refine ⟨fun segment h => ?_, fun plan ok f same => ?_⟩
      · cases names segment h
        rfl
      · cases same
        exact entries plan ok _ rfl
  | done created built =>
    obtain ⟨early, historyA, _⟩ := createdRefused created
    obtain ⟨late, historyB, refused⟩ := buildRefused built
    refine ⟨early ++ late, by rw [historyB, historyA, List.append_assoc], fun none => ?_⟩
    obtain ⟨names, _⟩ := refused fun entry member => none entry (List.mem_append_right _ member)
    refine ⟨fun segment h => ?_, fun _ _ f same => by cases same⟩
    cases names segment h

end Generator
end ClassScaffold
