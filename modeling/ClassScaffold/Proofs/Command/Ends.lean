import ClassScaffold.Command.Generate
import ClassScaffold.Proofs.Generator.Workspace
import ClassScaffold.Proofs.Request.Load
/-! All ends of a run that is to write the archive of a request, in the order in which they can come, and what
had gone well before each of them. -/
namespace ClassScaffold.Command
open Session (Ends Program)
open Generator (Generated)
open Request (LoadFault)

variable {e : Environment} {o : GenerateOptions} {s s' : Session}

/- Putting the archive to its place -/

inductive Delivers (output : Path) (stream : Stream) (s : Session) : Except String Nat → Session → Prop where
  | notCreated {fault t u} (stopped : (Host.writeFile output [] : StateM Session _).run s = (.error fault, t))
      (closed : (stream.close : StateM Session Unit).run t = ((), u)) :
      Delivers output stream s (.error (Report.notCreated output fault)) u
  | notCopied {t last fault u v} (created : (Host.writeFile output [] : StateM Session _).run s = (.ok (), t))
      (copied : (copyWithin output stream (stream.length + 1) : StateM Session _).run t = ((last, .error fault), u))
      (closed : (last.close : StateM Session Unit).run u = ((), v)) :
      Delivers output stream s (.error (Report.notWritten output fault)) v
  | done {t last length u v} (created : (Host.writeFile output [] : StateM Session _).run s = (.ok (), t))
      (copied : (copyWithin output stream (stream.length + 1) : StateM Session _).run t = ((last, .ok length), u))
      (closed : (last.close : StateM Session Unit).run u = ((), v)) :
      Delivers output stream s (.ok length) v

theorem deliverCases {output : Path} {stream : Stream} {result : Except String Nat}
    (ran : (deliver stream output : StateM Session _).run s = (result, s')) : Delivers output stream s result s' := by
  unfold deliver at ran
  rcases created : (Host.writeFile output [] : StateM Session _).run s with ⟨answer, t⟩
  rw [Session.runBind, created] at ran
  cases answer with
  | error fault =>
    rcases closed : (stream.close : StateM Session Unit).run t with ⟨_, u⟩
    simp only [Session.runBind, closed] at ran
    cases ran
    exact .notCreated created closed
  | ok =>
  rcases copied : (copyWithin output stream (stream.length + 1) : StateM Session _).run t with ⟨⟨last, answer⟩, u⟩
  rcases closed : (last.close : StateM Session Unit).run u with ⟨_, v⟩
  simp only [Session.runBind, copied, closed] at ran
  cases answer with
  | error fault =>
    cases ran
    exact .notCopied created copied closed
  | ok length =>
    cases ran
    exact .done created copied closed

/- The whole run -/

def started (o : GenerateOptions) (r : Request) (g : Generator) : List String :=
  [Report.generating o.request, Report.loaded r, Report.database g.database]

def outputOf (o : GenerateOptions) (r : Request) : Path := o.output.getD ⟨Generator.fileName r⟩

inductive Writes (e : Environment) (o : GenerateOptions) (s : Session) : Outcome → Session → Prop where
  | notLoaded {fault t} (loading : Ends (Request.load o.request : Program LoadFault _) s (.error fault) t) :
      Writes e o s (.failed [Report.generating o.request] fault.message) t
  | notKnown {r unsupported t} (loading : Ends (Request.load o.request : Program LoadFault _) s (.ok r) t)
      (unknown : generatorFor e o = .error unsupported) :
      Writes e o s (.failed [Report.generating o.request, Report.loaded r] unsupported.message) t
  | notGenerated {r g f t u} (loading : Ends (Request.load o.request : Program LoadFault _) s (.ok r) t)
      (known : generatorFor e o = .ok g) (failed : Generated g (g.workspace t) r t (.error f) u) :
      Writes e o s (.failed (started o r g) f.message) u
  | notDelivered {r g t stream u message v}
      (loading : Ends (Request.load o.request : Program LoadFault _) s (.ok r) t)
      (known : generatorFor e o = .ok g) (generated : Generated g (g.workspace t) r t (.ok stream) u)
      (failed : Delivers (outputOf o r) stream u (.error message) v) :
      Writes e o s (.failed (started o r g) message) v
  | done {r g t stream u length v}
      (loading : Ends (Request.load o.request : Program LoadFault _) s (.ok r) t)
      (known : generatorFor e o = .ok g) (generated : Generated g (g.workspace t) r t (.ok stream) u)
      (delivered : Delivers (outputOf o r) stream u (.ok length) v) :
      Writes e o s (.done (started o r g ++ [Report.wrote (outputOf o r) length, Report.complete])) v

theorem writeArchiveCases {outcome : Outcome} (ran : (writeArchive e o : StateM Session _).run s = (outcome, s')) :
    Writes e o s outcome s' := by
  unfold writeArchive at ran
  rcases loading : (Request.load o.request : Program LoadFault _).run.run s with ⟨answer, t⟩
  rw [Session.runBind, loading] at ran
  cases answer with
  | error fault =>
    cases ran
    exact .notLoaded loading
  | ok r =>
  cases known : generatorFor e o with
  | error unsupported =>
    simp only [known] at ran
    cases ran
    exact .notKnown loading known
  | ok g =>
  rcases generating : (g.generate r : Program Failure _).run.run t with ⟨answer, u⟩
  simp only [known, Session.runBind, generating] at ran
  have generated := Generator.generateCases generating
  cases answer with
  | error f =>
    cases ran
    exact .notGenerated loading known generated
  | ok stream =>
  have same : o.output.getD ⟨stream.fileName⟩ = outputOf o r := by
    obtain ⟨_, _, _, _, rfl⟩ := Generator.generatedOk generated
    simp only [Stream.openOn, outputOf]
  rcases delivering : (deliver stream (outputOf o r) : StateM Session _).run u with ⟨answer, v⟩
  have delivered := deliverCases delivering
  simp only [same, Session.runBind, delivering] at ran
  cases answer with
  | error message =>
    cases ran
    exact .notDelivered loading known generated delivered
  | ok length =>
    cases ran
    exact .done loading known generated delivered

end ClassScaffold.Command
