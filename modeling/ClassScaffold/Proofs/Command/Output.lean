import ClassScaffold.Proofs.Command.Ends
import ClassScaffold.Proofs.Generator.Contents
import ClassScaffold.Proofs.Generator.Named
import ClassScaffold.Proofs.Generator.Phase
/-! Where a run that is to write an archive writes. All its files are below the workspace of the generator but one,
which is the output; when none is asked for, that is the name of the archive in the directory that one is in. -/
namespace ClassScaffold.Command
open Session (Ends Program Traced)
open Generator (IsHeader IsNamed IsOwnName boundless fileName rooted shop)
open Text (IsSafe)
open Text.Utf8 (Bytes)

/- Operations that write -/

/-- Where the operation writes, if it writes a file at all, is allowed. -/
def WritesAt (allowed : Path → Prop) (o : Operation) : Prop :=
  ∀ p, o = .writeFile p ∨ o = .appendFile p → allowed p

def AllWriteAt (allowed : Path → Prop) : Session → Session → Prop :=
  Traced fun entry => WritesAt allowed entry.operation

variable {allowed : Path → Prop} {s s' : Session}

theorem performWrites {α : Type} {o : Operation} {run : Disk → Except Disk.Fault α × Disk}
    {stopped : Nat → Disk → Disk} {result : Except Disk.Fault α}
    (ran : (Session.perform o run stopped).run s = (result, s')) (holds : WritesAt allowed o) :
    AllWriteAt allowed s s' :=
  Session.tracedMono (Session.performTraced holds ran) fun _ both => both.1

theorem grantWrites {count : Nat} {answer : Except Disk.Fault Nat}
    (ran : (Host.grant count : StateM Session _).run s = (answer, s')) : AllWriteAt allowed s s' := by
  change (Session.look _ _).run s = _ at ran
  unfold Session.look at ran
  refine performWrites ran fun p writes => ?_
  rcases writes with impossible | impossible <;> cases impossible

theorem openWrites {output : Path} (here : allowed output) {contents : Bytes} {answer : Except Disk.Fault Unit}
    (ran : (Host.writeFile output contents : StateM Session _).run s = (answer, s')) : AllWriteAt allowed s s' := by
  change (Session.change _ _ _).run s = _ at ran
  unfold Session.change at ran
  refine performWrites ran fun p writes => ?_
  rcases writes with same | impossible
  · cases same
    exact here
  · cases impossible

theorem appendWrites {output : Path} (here : allowed output) {contents : Bytes} {answer : Except Disk.Fault Unit}
    (ran : (Host.appendFile output contents : StateM Session _).run s = (answer, s')) : AllWriteAt allowed s s' := by
  change (Session.change _ _ _).run s = _ at ran
  unfold Session.change at ran
  refine performWrites ran fun p writes => ?_
  rcases writes with impossible | same
  · cases impossible
  · cases same
    exact here

theorem removedWrites (w : Option Workspace) {u : Unit}
    (ran : (Stream.removeAll w : StateM Session Unit).run s = (u, s')) :
    AllWriteAt allowed s s' := by
  cases w with
  | none =>
    cases ran
    exact Session.tracedRefl s
  | some w =>
    cases ran
    refine Session.tracedRecord (fun _ _ => .inr ⟨w.root, rfl⟩) fun p writes => ?_
    rcases writes with impossible | impossible <;> cases impossible

theorem answerWrites {stream : Stream} {room : Nat} {answer : Stream.Answer}
    (ran : (stream.answerFor room : StateM Session _).run s = (answer, s')) : AllWriteAt allowed s s' := by
  unfold Stream.answerFor at ran
  split at ran
  · cases ran
    exact Session.tracedRefl s
  · rcases granted : (Host.grant room : StateM Session (Except Disk.Fault Nat)).run s with ⟨result, t⟩
    rw [Session.runBind, granted] at ran
    have same : t = s' := by cases result <;> exact congrArg Prod.snd ran
    subst same
    exact grantWrites granted

theorem readWrites {stream next : Stream} {room : Nat} {outcome : Stream.Outcome}
    (ran : (stream.read room : StateM Session _).run s = ((next, outcome), s')) : AllWriteAt allowed s s' := by
  unfold Stream.read at ran
  rcases asked : (stream.answerFor room : StateM Session _).run s with ⟨answer, t⟩
  rcases removed : (Stream.removeAll (stream.poll room answer true).removes : StateM Session Unit).run t with ⟨u, v⟩
  simp only [Session.runBind, asked, removed] at ran
  cases ran
  exact Session.tracedTrans (answerWrites asked) (removedWrites _ removed)

/-- However often the reader has to be asked, what is copied goes to the output. -/
theorem copyWrites {output : Path} (here : allowed output) {stream next : Stream} {reads : Nat}
    {result : Except Disk.Fault Nat}
    (ran : (copyWithin output stream reads : StateM Session _).run s = ((next, result), s')) :
    AllWriteAt allowed s s' := by
  induction reads generalizing s stream next result with
  | zero =>
    cases ran
    exact Session.tracedRefl _
  | succ reads ih =>
    unfold copyWithin at ran
    rcases read : (stream.read Stream.chunk : StateM Session _).run s with ⟨⟨after, outcome⟩, t⟩
    have first : AllWriteAt allowed s t := readWrites read
    rw [Session.runBind, read] at ran
    cases outcome with
    | delivered bytes =>
      rcases wrote : (Host.appendFile output bytes : StateM Session (Except Disk.Fault Unit)).run t with ⟨answer, u⟩
      have second : AllWriteAt allowed t u := appendWrites here wrote
      rcases copied : (copyWithin output after reads : StateM Session _).run u with ⟨⟨last, rest⟩, v⟩
      simp only [Session.runBind, wrote] at ran
      cases answer with
      | error e =>
        cases ran
        exact Session.tracedTrans first second
      | ok =>
        simp only [Session.runBind, copied] at ran
        cases ran
        exact Session.tracedTrans first (Session.tracedTrans second (ih copied))
    | _ =>
      cases ran
      exact first

theorem deliverWrites {output : Path} (here : allowed output) {stream : Stream} {result : Except String Nat}
    (delivers : Delivers output stream s result s') : AllWriteAt allowed s s' := by
  cases delivers with
  | notCreated stopped closed => exact Session.tracedTrans (openWrites here stopped) (removedWrites _ closed)
  | notCopied created copied closed =>
    refine Session.tracedTrans (openWrites here created) ?_
    exact Session.tracedTrans (copyWrites here copied) (removedWrites _ closed)
  | done created copied closed =>
    refine Session.tracedTrans (openWrites here created) ?_
    exact Session.tracedTrans (copyWrites here copied) (removedWrites _ closed)

theorem loadWrites {p : Path} {result : Except Request.LoadFault Request}
    (loading : Ends (Request.load p : Program Request.LoadFault _) s result s') : AllWriteAt allowed s s' := by
  have reads : WritesAt allowed (.readFile p) := fun _ writes => by
    rcases writes with impossible | impossible <;> cases impossible
  have traces : Session.Traces (WritesAt allowed) (Request.load p : Program Request.LoadFault _) := by
    unfold Request.load
    refine Session.tracesBind (Session.tracesReadFile reads) fun bytes => ?_
    split
    · exact Session.tracesPure _
    · exact Session.tracesThrow _
  exact Session.tracedMono (traces loading) fun _ both => both.1

theorem withinWorkspace {w : Workspace} {names : List String} {p : Path} (within : w.project.Within names p) :
    w.root.Within ("project" :: names) p := by
  have root := Generator.projectWithin w
  unfold Path.Within at *
  rw [within, root, List.append_assoc]
  rfl

theorem generatedWrites {g : Generator} {w : Workspace} {r : Request} {result : Except Failure Stream}
    (below : ∀ names p, w.root.Within names p → allowed p) (generated : Generator.Generated g w r s result s') :
    AllWriteAt allowed s s' := by
  refine Session.tracedMono (Generator.generatedTold generated) fun ⟨o, fault⟩ told p writes => ?_
  rcases told with ⟨phase, belongs, _⟩ | removed
  · have kind := Generator.belongsKind belongs
    rcases writes with rfl | rfl
    · obtain ⟨_, rfl⟩ | ⟨_, names, within⟩ := kind
      · exact below _ _ (Generator.archiveWithin w)
      · exact below _ _ (withinWorkspace within)
    · exact kind.elim
  · obtain ⟨rfl, _⟩ := Record.mk.inj removed
    rcases writes with impossible | impossible <;> cases impossible

/-- All files that a run of the command writes are below the workspace of its generator or are the output. -/
theorem writesOutput {e : Environment} {o : GenerateOptions} {outcome : Outcome} (writes : Writes e o s outcome s') :
    AllWriteAt (fun p => (∃ g t names, generatorFor e o = .ok g ∧ (g.workspace t).root.Within names p) ∨
      ∃ r, Request.IsLoaded s.disk o.request r ∧ p = outputOf o r) s s' := by
  cases writes with
  | notLoaded loading => exact loadWrites loading
  | notKnown loading => exact loadWrites loading
  | notGenerated loading known failed =>
    refine Session.tracedTrans (loadWrites loading) (generatedWrites (fun names p within => ?_) failed)
    exact .inl ⟨_, _, names, known, within⟩
  | notDelivered loading known generated failed =>
    refine Session.tracedTrans (loadWrites loading) (Session.tracedTrans (generatedWrites (fun names p within => ?_)
      generated) (deliverWrites ?_ failed))
    · exact .inl ⟨_, _, names, known, within⟩
    · exact .inr ⟨_, Request.loadOk loading, rfl⟩
  | done loading known generated delivered =>
    refine Session.tracedTrans (loadWrites loading) (Session.tracedTrans (generatedWrites (fun names p within => ?_)
      generated) (deliverWrites ?_ delivered))
    · exact .inl ⟨_, _, names, known, within⟩
    · exact .inr ⟨_, Request.loadOk loading, rfl⟩

/- Every request -/

/-- Whatever a project is called, its archive has a name that is safe in a header and on a disk, where an output that
is not asked for stays in the directory that one is in. -/
theorem archiveNamed :
    (∀ name, Text.safeName (Text.safeName name) = Text.safeName name ∧ (IsSafe name → Text.safeName name = name)) ∧
    (∀ (g : Generator) (r : Request) (s s' : Session) (stream : Stream),
      Ends (g.generate r : Program Failure _) s (.ok stream) s' → stream.fileName = fileName r ∧ IsNamed r stream) ∧
    (∀ (g : Generator) (r : Request) (s s' : Session) (answer : Api.Response) (value : String),
      (Api.generate g r : StateM Session Api.Response).run s = (answer, s') →
      answer.contentDisposition = some value → IsHeader (fileName r) value) ∧
    ∀ (e : Environment) (o : GenerateOptions) (s s' : Session) (outcome : Outcome), o.output = none →
      (writeArchive e o : StateM Session _).run s = (outcome, s') →
      ∃ added, s'.history = s.history ++ added ∧ ∀ entry ∈ added, ∀ p,
        entry.operation = .writeFile p ∨ entry.operation = .appendFile p →
          (∃ g t names, generatorFor e o = .ok g ∧ (g.workspace t).root.Within names p) ∨
            ∃ r, Request.IsLoaded s.disk o.request r ∧ p = ⟨fileName r⟩ ∧ IsOwnName (fileName r) := by
  refine ⟨fun name => ⟨Text.safeNameAgain name, fun safe => Text.safeNameKeeps (Text.safeIff.1 safe)⟩,
    fun g r s s' stream ends => Generator.generatedNamed (Generator.generateCases ends),
    fun g r s s' answer value ran sent => Generator.answeredNamed ran sent, fun e o s s' outcome default ran => ?_⟩
  obtain ⟨added, history, each⟩ := (writesOutput (writeArchiveCases ran)).history
  refine ⟨added, history, fun entry member p writes => ?_⟩
  obtain ⟨i, found⟩ := List.getElem?_of_mem member
  rcases (each i entry found).1 p writes with below | ⟨r, loaded, same⟩
  · exact .inl below
  · exact .inr ⟨r, loaded, by rw [same, outputOf, default]; rfl, Generator.fileNameOwn r⟩

theorem archiveNamedShop : ∃ stream s',
    Ends (rooted.generate shop : Program Failure _) boundless (.ok stream) s' ∧
    stream.fileName = "My_Shop.zip" ∧ stream.contentDisposition = "attachment; filename=\"My_Shop.zip\"" ∧
    (⟨stream.fileName⟩ : Path).parts = [.normal "My_Shop.zip"] := by
  obtain ⟨_, generated, _, _⟩ := archiveNamed
  obtain ⟨stream, s', ends⟩ := Generator.shopEnds
  obtain ⟨named, is⟩ := generated _ _ _ _ _ ends
  have name : stream.fileName = "My_Shop.zip" := named.trans (by decide +kernel)
  refine ⟨stream, s', ends, name, ?_, ?_⟩
  · rw [is.header.text, name]
    rfl
  · rw [is.own.single, name]

end ClassScaffold.Command
