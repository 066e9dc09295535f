import ClassScaffold.Command.Validate
import ClassScaffold.Proofs.Command.Ends
import ClassScaffold.Proofs.Scaffold.Refused
/-! What the report on a request foretells of generating it. The report looks at tokens and not at names, so a
request that is reported to be clean may have a name that generating refuses. Nothing else about a name can go
wrong. -/
namespace ClassScaffold
open ClassScaffold.Path (InvalidSegment)
open Session (Ends Program)

def Failure.ofName (x : InvalidSegment) : Failure := ⟨.scaffold, .filing (.invalidSegment x)⟩

/- Telling failures apart by their messages -/

theorem invalidStarts (x : InvalidSegment) : x.message.toList.head? = some 'i' := by
  unfold InvalidSegment.message
  simp

theorem filingStarts {fault : FilingFault} (first : fault.message.toList.head? = some 'i') :
    ∃ x, fault = .invalidSegment x := by
  unfold FilingFault.message at first
  cases fault with
  | invalidSegment x => exact ⟨x, rfl⟩
  | _ => simp at first

theorem archiveStarts (fault : ArchiveFault) : fault.message.toList.head? ≠ some 'i' := by
  unfold ArchiveFault.message ArchiveFault.walkMessage ArchiveFault.duplicateMessage
  cases fault <;> simp

theorem failureOfMessage {f : Failure} {x : InvalidSegment} (same : f.message = (Failure.ofName x).message) :
    ∃ y, f = .ofName y := by
  obtain ⟨phase, cause⟩ := f
  unfold Failure.ofName Failure.message at same
  simp only [String.append_assoc, String.append_right_inj] at same
  have letters := congrArg String.toList same
  obtain rfl : phase = .scaffold := by
    cases phase with
    | scaffold => rfl
    | _ => simp [Phase.name] at letters
  simp only [String.append_right_inj] at same
  have first : cause.message.toList.head? = some 'i' := by
    rw [same]
    exact invalidStarts x
  unfold Cause.message at first
  cases cause with
  | filing fault =>
    obtain ⟨y, rfl⟩ := filingStarts first
    exact ⟨y, rfl⟩
  | archive fault => exact absurd first (archiveStarts fault)

namespace Generator

variable {g : Generator} {w : Workspace} {r : Request} {s s' : Session} {x : InvalidSegment}

theorem buildRefusal (failed : Ends (g.build w r : Program Failure _) s (.error (.ofName x)) s') :
    Plan.refusal? r g.database = some x := by
  unfold build at failed
  rcases Session.endsBind failed with ⟨f, failed, same⟩ | ⟨_, t, _, later⟩
  · cases same
    obtain ⟨e, same, filling⟩ := inPhaseError failed
    cases same
    cases found : Plan.refusal? r g.database with
    | some y =>
      obtain ⟨same, _⟩ := refusedFill (Plan.ofRequestRefused w.project g.database found) filling
      cases same
      rfl
    | none =>
      obtain ⟨plan, ok⟩ := Plan.ofRequestPasses w.project g.database found
      exact absurd rfl (Scaffold.plannedFault ok filling x)
  rcases Session.endsBind later with ⟨f, failed, same⟩ | ⟨_, u, _, reading⟩
  · cases same
    obtain ⟨e, same, _⟩ := inPhaseError failed
    cases same
  · obtain ⟨f, same, _⟩ := Session.attemptError reading
    cases same

theorem generatedRefusal {f : Failure} (generated : Generated g w r s (.error f) s') (named : f = .ofName x) :
    Plan.refusal? r g.database = some x := by
  cases generated with
  | noWorkspace => cases named
  | stopped _ failed =>
    subst named
    exact buildRefusal failed

theorem refusalStops {stream : Stream} (refusal : Plan.refusal? r g.database = some x) :
    ¬ Generated g w r s (.ok stream) s' := by
  intro generated
  obtain ⟨_, _, _, built, _⟩ := generatedOk generated
  obtain ⟨impossible, _⟩ := buildNames (Plan.ofRequestRefused w.project g.database refusal) built
  cases impossible

end Generator

namespace Command

variable {e : Environment} {o : GenerateOptions} {s s' t t' : Session} {report outcome : Outcome}

def complaint (x : InvalidSegment) : List String := ["Error: " ++ (Failure.ofName x).message]

theorem complaintStarts {message : String} {x : InvalidSegment}
    (same : ["Error: " ++ message] = complaint x) : message.toList.head? = some 'g' := by
  obtain rfl : message = (Failure.ofName x).message := by simpa [complaint] using same
  unfold Failure.message
  simp

theorem loadStarts (fault : Request.LoadFault) : fault.message.toList.head? ≠ some 'g' := by
  unfold Request.LoadFault.message
  cases fault <;> simp

theorem unsupportedStarts (u : Database.Unsupported) : u.message.toList.head? ≠ some 'g' := by
  unfold Database.Unsupported.message
  simp

theorem notDeliveredStarts {output : Path} {stream : Stream} {message : String}
    (failed : Delivers output stream s (.error message) s') : message.toList.head? ≠ some 'g' := by
  cases failed with
  | notCreated =>
    unfold Report.notCreated
    simp
  | notCopied =>
    unfold Report.notWritten
    simp

theorem reportCases {request : Path} (ran : (reportOn request : StateM Session _).run s = (report, s'))
    (valid : report.code = 0) : ∃ r, Request.IsLoaded s.disk request r ∧
      report.lines.getLast? = some (Report.verdict (Report.count r)) := by
  unfold reportOn at ran
  rcases loading : (Request.load request : Program Request.LoadFault _).run.run s with ⟨answer, t⟩
  rw [Session.runBind, loading] at ran
  cases answer with
  | error fault =>
    cases ran
    cases valid
  | ok r =>
    cases ran
    refine ⟨r, Request.loadOk loading, ?_⟩
    change (_ ++ (_ ++ ["", Report.verdict (Report.count r)])).getLast? = _
    rw [← List.append_assoc, List.getLast?_append]
    rfl

theorem writtenComplaint {r : Request} (loaded : Request.IsLoaded s.disk o.request r) (writes : Writes e o s outcome s')
    {x : InvalidSegment} (told : outcome.errors = complaint x) :
    ∃ g y, generatorFor e o = .ok g ∧ Plan.refusal? r g.database = some y ∧ outcome.errors = complaint y := by
  cases writes with
  | notLoaded => exact absurd (complaintStarts told) (loadStarts _)
  | notKnown => exact absurd (complaintStarts told) (unsupportedStarts _)
  | @notGenerated r' g f _ _ loading known failed =>
    obtain rfl := Request.loadedUnique loaded (Request.loadOk loading)
    have same : f.message = (Failure.ofName x).message := by simpa [complaint, Outcome.failed] using told
    obtain ⟨y, rfl⟩ := failureOfMessage same
    exact ⟨g, y, known, Generator.generatedRefusal failed rfl, rfl⟩
  | notDelivered _ _ _ failed => exact absurd (complaintStarts told) (notDeliveredStarts failed)
  | done => simp [Outcome.done, complaint] at told

theorem writtenRefusal {r : Request} {g : Generator} {x : InvalidSegment}
    (loaded : Request.IsLoaded s.disk o.request r) (known : generatorFor e o = .ok g)
    (refusal : Plan.refusal? r g.database = some x) (writes : Writes e o s outcome s') :
    outcome.code = 1 ∧ ∃ added, s'.history = s.history ++ added ∧
      ((∀ entry ∈ added, entry.fault = none) → outcome.errors = complaint x) := by
  cases writes with
  | notLoaded loading =>
    refine ⟨rfl, ?_⟩
    rcases Request.loadCases loading with ⟨bytes, found, parsed, _⟩ | ⟨f, _, rfl⟩
    · obtain ⟨bytes', found', parsed'⟩ := loaded
      cases found.symm.trans found'
      cases parsed.trans parsed'
    · exact ⟨[⟨.readFile o.request, some f⟩], rfl, fun none => by simp at none⟩
  | notKnown _ unknown => cases known.symm.trans unknown
  | notGenerated loading known' failed =>
    cases known.symm.trans known'
    obtain rfl := Request.loadedUnique loaded (Request.loadOk loading)
    refine ⟨rfl, ?_⟩
    obtain ⟨added, history, refused⟩ := Generator.generatedRefused failed
    rcases Request.loadCases loading with ⟨_, _, _, rfl⟩ | ⟨_, impossible, _⟩
    · refine ⟨⟨.readFile o.request, none⟩ :: added, by simp [history, Session.record], fun none => ?_⟩
      obtain ⟨names, _⟩ := refused fun entry member => none entry (List.mem_cons_of_mem _ member)
      cases names x (Plan.ofRequestRefused _ g.database refusal)
      rfl
    · cases impossible
  | notDelivered loading known' generated =>
    cases known.symm.trans known'
    obtain rfl := Request.loadedUnique loaded (Request.loadOk loading)
    exact absurd generated (Generator.refusalStops refusal)
  | done loading known' generated =>
    cases known.symm.trans known'
    obtain rfl := Request.loadedUnique loaded (Request.loadOk loading)
    exact absurd generated (Generator.refusalStops refusal)

/-- A report that goes well says that the request can be loaded. Generating it then complains about a name only
when one of the names that it is made of is refused as a part of a path, and when one is, it cannot go well: on a
machine where nothing else fails it complains about the first such name. -/
theorem reportAgrees (reported : (reportOn o.request : StateM Session _).run s = (report, s'))
    (written : (writeArchive e o : StateM Session _).run t = (outcome, t'))
    (same : t.disk = s.disk) (valid : report.code = 0) :
    ∃ r, Request.IsLoaded s.disk o.request r ∧
      report.lines.getLast? = some (Report.verdict (Report.count r)) ∧
      (∀ x, outcome.errors = complaint x → ∃ g y, generatorFor e o = .ok g ∧
        Plan.refusal? r g.database = some y ∧ outcome.errors = complaint y) ∧
      ∀ g x, generatorFor e o = .ok g → Plan.refusal? r g.database = some x →
        outcome.code = 1 ∧ ∃ added, t'.history = t.history ++ added ∧
          ((∀ entry ∈ added, entry.fault = none) → outcome.errors = complaint x) := by
  obtain ⟨r, loaded, verdict⟩ := reportCases reported valid
  have there : Request.IsLoaded t.disk o.request r := by rwa [same]
  have writes := writeArchiveCases written
  exact ⟨r, loaded, verdict, fun x => writtenComplaint there writes,
    fun g x known refusal => writtenRefusal there known refusal writes⟩

def misleading : Session :=
  .start ((Disk.empty .usual).put [Text.Utf8.encode "r.json"]
    (.file (Text.Utf8.encode "\x7b\"classes\":[\x7b\"name\":[\"..\"]\x7d]\x7d"))) fun _ => ⟨0⟩

def offered : GenerateOptions := ⟨⟨"r.json"⟩, none, none, some ⟨"t"⟩⟩

theorem misleadingRuns : ∃ report outcome s t,
    (reportOn offered.request : StateM Session _).run misleading = (report, s) ∧ report.code = 0 ∧
      (writeArchive ⟨[]⟩ offered : StateM Session _).run misleading = (outcome, t) ∧
      outcome.errors = complaint ⟨"class name", ".."⟩ := by
  have valid : ((reportOn offered.request : StateM Session _).run misleading).1.code = 0 := by decide +kernel
  have told : ((writeArchive ⟨[]⟩ offered : StateM Session _).run misleading).1.errors =
      complaint ⟨"class name", ".."⟩ := by decide +kernel
  rcases reported : (reportOn offered.request : StateM Session _).run misleading with ⟨report, s⟩
  rcases written : (writeArchive ⟨[]⟩ offered : StateM Session _).run misleading with ⟨outcome, t⟩
  rw [reported] at valid
  rw [written] at told
  exact ⟨report, outcome, s, t, rfl, valid, rfl, told⟩

theorem reportAgreesMisleading : ∃ report outcome s t r,
    (reportOn offered.request : StateM Session _).run misleading = (report, s) ∧ report.code = 0 ∧
      (writeArchive ⟨[]⟩ offered : StateM Session _).run misleading = (outcome, t) ∧
      Request.IsLoaded misleading.disk offered.request r ∧
      ∃ x, Plan.refusal? r .postgresql = some x ∧ outcome.errors = complaint x := by
  obtain ⟨report, outcome, s, t, reported, valid, written, told⟩ := misleadingRuns
  obtain ⟨r, loaded, _, complains, _⟩ := reportAgrees reported written rfl valid
  obtain ⟨g, x, known, refusal, told⟩ := complains _ told
  obtain rfl : (⟨⟨"t"⟩, .postgresql⟩ : Generator) = g := Except.ok.inj known
  exact ⟨report, outcome, s, t, r, reported, valid, written, loaded, x, refusal, told⟩

theorem reportMisleads : ¬ ∀ (e : Environment) (o : GenerateOptions) (s s' t' : Session) (report outcome : Outcome),
    (reportOn o.request : StateM Session _).run s = (report, s') → report.code = 0 →
      (writeArchive e o : StateM Session _).run s = (outcome, t') → ∀ x, outcome.errors ≠ complaint x := by
  intro agrees
  obtain ⟨report, outcome, s, t, reported, valid, written, told⟩ := misleadingRuns
  exact agrees ⟨[]⟩ offered misleading s t report outcome reported valid written _ told

end Command
end ClassScaffold
