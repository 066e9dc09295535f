import ClassScaffold.Proofs.Command.Copy
import ClassScaffold.Proofs.Generator.Contents
/-! What a run that writes no archive leaves behind. Until the output has been made nothing that was on the disk
is touched, at the place of the output or elsewhere: the one thing that may be new is the directory that all
workspaces share, which is made when it is missing and stays. -/
namespace ClassScaffold
open Session (Ends Program)
open Disk (Made)
open Generator (Leaves)

namespace Disk

/-- All that was there is as it was, and what is new is a directory on the way to `root`. -/
structure Undisturbed (root : Path) (d d' : Disk) : Prop where
  entries : ∀ l entry, d.get? l = some entry → d'.get? l = some entry
  found : ∀ p l, d.find p = .ok l → d'.find p = .ok l
  reads : ∀ p bytes, d.read p = .ok bytes → d'.read p = .ok bytes
  fresh : ∀ l, d'.get? l ≠ d.get? l → d.get? l = none ∧ d'.get? l = some .directory ∧
    ∃ q n, q.parts = root.parts.take n ∧ d'.find q = .ok l
  still : d.isDirectory root = true → ∀ l, d'.get? l = d.get? l

variable {root p : Path} {d d' : Disk}

theorem undisturbedOfMade (wf : d.WellFormed) (made : Made root d d') : Undisturbed root d d' := by
  refine ⟨fun _ _ there => madeKeeps made there, fun _ _ => findGrows made.grows, fun p bytes ok => ?_, made.changed,
    fun there l => madeThere wf there made l⟩
  obtain ⟨l, found, file⟩ := readFinds.1 ok
  exact readFinds.2 ⟨l, findGrows made.grows found, madeKeeps made file⟩

theorem writeDirectory (wf : d.WellFormed) {contents : Text.Utf8.Bytes} (there : d.isDirectory p = true) :
    d.write p contents ≠ .ok d' := by
  intro ok
  obtain ⟨l, found, directory⟩ := isDirectoryReaches there
  obtain ⟨l', place, rfl, after⟩ := writeFound wf ok
  cases (findGrows (filePlaceGrows place contents) found).symm.trans after
  rcases place.free with none | ⟨_, file⟩
  · rw [directory] at none
    cases none
  · rw [directory] at file
    cases file

end Disk

/-- A file that could not be opened for writing was not touched by the attempt. -/
def Session.OpensWhole (p : Path) (s s' : Session) : Prop := ∀ i mishap, s.mishaps i = some mishap →
  s'.history[i]? = some ⟨.writeFile p, some mishap.fault⟩ → mishap.progress = none

namespace Command

variable {e : Environment} {o : GenerateOptions} {s s' : Session} {outcome : Outcome}

theorem generatorRoot {g : Generator} (known : generatorFor e o = .ok g) :
    g.sharedRoot = o.sharedRoot.getD e.sharedRoot := by
  unfold generatorFor at known
  cases named : o.database with
  | none =>
    rw [named] at known
    cases known
    rfl
  | some name =>
    rw [named] at known
    cases database : Database.ofName name with
    | error u =>
      simp only [database] at known
      cases known
    | ok d =>
      simp only [database] at known
      cases known
      rfl

theorem notCreatedDisk {output : Path} {fault : Disk.Fault}
    (stopped : (Host.writeFile output [] : StateM Session _).run s = (.error fault, s'))
    (whole : Session.OpensWhole output s s') : s'.disk = s.disk := by
  change (Session.change _ _ _).run s = _ at stopped
  unfold Session.change at stopped
  rcases Session.performCases stopped with ⟨_, same, rfl⟩ | ⟨mishap, given, _, rfl⟩
  · cases wrote : s.disk.write output [] with
    | error f => simp [wrote]
    | ok d => simp [wrote] at same
  · have untouched := whole s.history.length mishap given (by simp [Session.record])
    simp [Session.leftOf, untouched]

theorem closedLeaves {g : Generator} {w : Workspace} {r : Request} {t u v x : Session} {shared : Path} {name : String}
    {contents : Text.Utf8.Bytes} (wf : s.disk.WellFormed) (created : Generator.Created shared w s (.ok w) t)
    (built : Ends (g.build w r : Program Failure _) t (.ok contents) u) (same : x.disk = u.disk)
    (closed : ((Stream.openOn name contents w).close : StateM Session Unit).run x = ((), v)) : Leaves shared s v := by
  obtain rfl : Generator.removed w x = v := congrArg Prod.snd closed
  exact Generator.builtLeaves wf created built (congrArg (Disk.remove · w.root) same)

theorem notDeliveredLeaves {g : Generator} {w : Workspace} {r : Request} {t u v : Session} {shared output : Path}
    {name message : String} {contents : Text.Utf8.Bytes} (wf : s.disk.WellFormed)
    (created : Generator.Created shared w s (.ok w) t) (built : Ends (g.build w r : Program Failure _) t (.ok contents) u)
    (failed : Delivers output (Stream.openOn name contents w) u (.error message) v)
    (copied : ∀ f, message ≠ Report.notWritten output f) (whole : Session.OpensWhole output u v) :
    Leaves shared s v := by
  cases failed with
  | @notCreated _ x _ stopped closed =>
    have history : v.history = x.history ++ [⟨.removeTree w.root, none⟩] := by
      rw [← show Generator.removed w x = v from congrArg Prod.snd closed]
      rfl
    have same := notCreatedDisk stopped fun i mishap given found => by
      obtain ⟨before, _⟩ := List.getElem?_eq_some_iff.1 found
      exact whole i mishap given (by rw [history, List.getElem?_append_left before, found])
    exact closedLeaves wf created built same closed
  | notCopied => exact absurd rfl (copied _)

theorem generatedMishaps {g : Generator} {r : Request} {result : Except Failure Stream} {t : Session}
    (loading : Ends (Request.load o.request : Program Request.LoadFault _) s (.ok r) t)
    (generated : Generator.Generated g (g.workspace t) r t result s') : s'.mishaps = s.mishaps := by
  rw [(Generator.generatedTold generated).mishaps]
  rcases Request.loadCases loading with ⟨_, _, _, rfl⟩ | ⟨_, _, rfl⟩
  · rfl
  · rfl

theorem loadMade {result : Except Request.LoadFault Request} (wf : s.disk.WellFormed)
    (loading : Ends (Request.load o.request : Program Request.LoadFault _) s result s') (p : Path) :
    Made p s.disk s'.disk := by
  rw [Request.loadDisk loading]
  exact Disk.madeRefl wf p

theorem notGeneratedMade {g : Generator} {r : Request} {f : Failure} {t : Session} (wf : s.disk.WellFormed)
    (loading : Ends (Request.load o.request : Program Request.LoadFault _) s (.ok r) t)
    (known : generatorFor e o = .ok g) (failed : Generator.Generated g (g.workspace t) r t (.error f) s') :
    Made (o.sharedRoot.getD e.sharedRoot) s.disk s'.disk := by
  rw [← Request.loadDisk loading] at wf ⊢
  rw [← generatorRoot known]
  exact Generator.leavesMade wf (Generator.generatedLeaves wf failed)

theorem failedMade (wf : s.disk.WellFormed) (writes : Writes e o s outcome s') (failed : outcome.code ≠ 0)
    (copied : ∀ p f, outcome.errors ≠ ["Error: " ++ Report.notWritten p f])
    (whole : ∀ r, Session.OpensWhole (outputOf o r) s s') : Made (o.sharedRoot.getD e.sharedRoot) s.disk s'.disk := by
  cases writes with
  | notLoaded loading => exact loadMade wf loading _
  | notKnown loading => exact loadMade wf loading _
  | notGenerated loading known failed => exact notGeneratedMade wf loading known failed
  | @notDelivered r _ _ _ u _ _ loading known generated failed =>
    have wholeHere : Session.OpensWhole (outputOf o r) u s' := by
      intro i mishap given
      exact whole r i mishap (generatedMishaps loading generated ▸ given)
    obtain ⟨contents, _, created, built, same⟩ := Generator.generatedOk generated
    rw [same] at failed
    rw [← Request.loadDisk loading] at wf ⊢
    rw [← generatorRoot known]
    refine Generator.leavesMade wf (notDeliveredLeaves wf created built failed (fun f told => ?_) wholeHere)
    exact copied (outputOf o r) f (by rw [told]; rfl)
  | done => exact absurd rfl failed

/- An output at the place of the shared directory -/

theorem directoryTaken {g : Generator} {w : Workspace} {r : Request} {t u v : Session} {p : Path}
    {name : String} {contents : Text.Utf8.Bytes} {result : Except String Nat} (wf : s.disk.WellFormed)
    (named : p.text ≠ "") (created : Generator.Created p w s (.ok w) t)
    (built : Ends (g.build w r : Program Failure _) t (.ok contents) u)
    (delivers : Delivers p (Stream.openOn name contents w) u result v) :
    (∃ message, result = .error message) ∧ Leaves p s v := by
  obtain ⟨shared, root, sharedOk, rootOk, confined⟩ := Generator.builtConfined wf created built
  have made := Disk.madeByDirectories wf sharedOk
  have grows := Disk.growsTrans (Disk.makeDirectoryMade made.wellFormed rootOk).1.grows confined.grows
  have there := Disk.isDirectoryGrows grows (Disk.makeDirectoriesThere wf named sharedOk)
  have refused {x : Session} (ran : (Host.writeFile p [] : StateM Session _).run u = (.ok (), x)) : False :=
    Disk.writeDirectory confined.wellFormed there (Session.writeFileOk ran)
  cases delivers with
  | notCreated stopped closed =>
    refine ⟨⟨_, rfl⟩, closedLeaves wf created built ?_ closed⟩
    rcases Session.writeFileCases stopped with same | ⟨written, ok⟩
    · exact same
    · exact absurd ok (Disk.writeDirectory confined.wellFormed there)
  | notCopied ran => exact (refused ran).elim
  | done ran => exact (refused ran).elim

/-- Where the archive is wanted at the place of the shared directory no run succeeds: the directory is made first. -/
theorem rootTaken {root : Path} (wf : s.disk.WellFormed) (named : root.text ≠ "")
    (shared : o.sharedRoot.getD e.sharedRoot = root) (wanted : o.output = some root) (writes : Writes e o s outcome s') :
    outcome.code = 1 ∧ ((∃ fault, Ends (Request.load o.request : Program Request.LoadFault _) s (.error fault) s') ∨
      (∃ unsupported, generatorFor e o = .error unsupported) ∨
      ∃ r t, Ends (Request.load o.request : Program Request.LoadFault _) s (.ok r) t ∧ Leaves root t s') := by
  cases writes with
  | notLoaded loading => exact ⟨rfl, .inl ⟨_, loading⟩⟩
  | notKnown loading unknown => exact ⟨rfl, .inr (.inl ⟨_, unknown⟩)⟩
  | notGenerated loading known failed =>
    rw [← Request.loadDisk loading] at wf
    have leaves := Generator.generatedLeaves wf failed
    rw [generatorRoot known, shared] at leaves
    exact ⟨rfl, .inr (.inr ⟨_, _, loading, leaves⟩)⟩
  | notDelivered loading known generated failed =>
    obtain ⟨contents, _, created, built, same⟩ := Generator.generatedOk generated
    rw [← Request.loadDisk loading] at wf
    rw [generatorRoot known, shared] at created
    rw [same, outputOf, wanted] at failed
    exact ⟨rfl, .inr (.inr ⟨_, _, loading, (directoryTaken wf named created built failed).2⟩)⟩
  | done loading known generated delivered =>
    obtain ⟨contents, _, created, built, same⟩ := Generator.generatedOk generated
    rw [← Request.loadDisk loading] at wf
    rw [generatorRoot known, shared] at created
    rw [same, outputOf, wanted] at delivered
    obtain ⟨⟨_, impossible⟩, _⟩ := directoryTaken wf named created built delivered
    cases impossible

/-- Whatever makes a run fail until its output has been made: nothing that was on the disk is lost or changed, and
no file is new. -/
theorem failureKeeps (wf : s.disk.WellFormed) (ran : (writeArchive e o : StateM Session _).run s = (outcome, s'))
    (failed : outcome.code ≠ 0) (copied : ∀ p f, outcome.errors ≠ ["Error: " ++ Report.notWritten p f])
    (whole : ∀ r, Session.OpensWhole (outputOf o r) s s') :
    Disk.Undisturbed (o.sharedRoot.getD e.sharedRoot) s.disk s'.disk :=
  Disk.undisturbedOfMade wf (failedMade wf (writeArchiveCases ran) failed copied whole)

def holding (limits : Disk.Limits) (request : String) : Session :=
  .start (((Disk.empty limits).put [Text.Utf8.encode "r.json"] (.file (Text.Utf8.encode request))).put
    [Text.Utf8.encode "x"] (.file (Text.Utf8.encode "old"))) fun _ => ⟨0⟩

theorem holdingWellFormed (limits : Disk.Limits) (request : String) : (holding limits request).disk.WellFormed := by
  have first : ((Disk.empty limits).put [Text.Utf8.encode "r.json"] (.file (Text.Utf8.encode request))).WellFormed :=
    Disk.putWellFormed (Disk.emptyWellFormed limits) (Disk.getRoot _) (.inr (by simp [Disk.get?, Disk.empty]))
  refine Disk.putWellFormed first (Disk.getRoot _) (.inr ?_)
  rw [Disk.getPut _ (by simp)]
  split
  · simp
  · simp [Disk.get?, Disk.empty]

def occupied : Session := holding .usual "\x7b\"classes\":[\x7b\"name\":[\"..\"]\x7d]\x7d"

def wanted : GenerateOptions := ⟨⟨"r.json"⟩, some ⟨"x"⟩, none, some ⟨"t"⟩⟩

theorem failureKeepsOccupied : ∃ outcome s', (writeArchive ⟨[]⟩ wanted : StateM Session _).run occupied = (outcome, s') ∧
    outcome.code = 1 ∧ s'.disk.read ⟨"x"⟩ = .ok (Text.Utf8.encode "old") := by
  have code : ((writeArchive ⟨[]⟩ wanted : StateM Session _).run occupied).1.code = 1 := by decide +kernel
  have told : (((writeArchive ⟨[]⟩ wanted : StateM Session _).run occupied).1.errors.map fun text =>
      text.toList[7]?) = [some 'g'] := by decide +kernel
  have there : occupied.disk.read ⟨"x"⟩ = .ok (Text.Utf8.encode "old") := by decide +kernel
  rcases run : (writeArchive ⟨[]⟩ wanted : StateM Session _).run occupied with ⟨outcome, s'⟩
  rw [run] at code told
  have kept := failureKeeps (holdingWellFormed ..) run (by rw [code]; decide) (fun p f same => by
    rw [same] at told
    unfold Report.notWritten at told
    simp at told) fun r i mishap given => by cases given
  exact ⟨outcome, s', rfl, code, kept.reads _ _ there⟩

def ordering : String := "\x7b\"projectName\":\"My Shop\",\"packageName\":\"p\",\"classes\":" ++
  "[\x7b\"name\":[\"Order\"],\"attributes\":[\"- total: double\"]\x7d]\x7d"

def ready : Session := holding .unlimited ordering

theorem readyReads : ready.disk.read ⟨"x"⟩ = .ok (Text.Utf8.encode "old") := by decide +kernel

theorem readyLoaded : Request.IsLoaded ready.disk ⟨"r.json"⟩ Generator.shop :=
  ⟨Text.Utf8.encode ordering, by decide +kernel, by decide +kernel⟩

def broken : Disk.Fault := .other "Input/output error (os error 5)"

theorem readyLost : ∃ mishaps v, (writeArchive ⟨[]⟩ wanted : StateM Session _).run (ready.given mishaps) =
      (.failed (started wanted Generator.shop ⟨⟨"t"⟩, .postgresql⟩) (Report.notWritten ⟨"x"⟩ broken), v) ∧
    v.disk.read ⟨"x"⟩ = .ok [] := by
  let t := ready.record (.readFile ⟨"r.json"⟩) none ready.disk
  let g : Generator := ⟨⟨"t"⟩, .postgresql⟩
  have loading : Ends (Request.load ⟨"r.json"⟩ : Program Request.LoadFault _) ready (.ok Generator.shop) t :=
    Request.loadRuns (fun _ => rfl) readyLoaded
  have makes : ((Workspace.create g.sharedRoot : Program FilingFault _).run.run t).1.isOk = true := by decide +kernel
  have passes : Plan.refusal? Generator.shop g.database = none := by decide +kernel
  obtain ⟨w, u, made⟩ := Session.endsIsOk makes
  obtain ⟨plan', ok'⟩ := Plan.ofRequestPasses ⟨"."⟩ .postgresql passes
  obtain ⟨stream, v, generated⟩ := Generator.generateRuns (g := g) (s := t) (holdingWellFormed ..) (fun _ => rfl) rfl
    made passes fun plan ok => Plan.fitsElsewhere ok ok' (Generator.shopFits ok')
  have known : generatorFor ⟨[]⟩ wanted = .ok g := rfl
  obtain ⟨mishaps, v, _, ran, empty⟩ :=
    copyEmpties (e := ⟨[]⟩) (o := wanted) (holdingWellFormed ..) loading known generated readyReads rfl broken
  exact ⟨mishaps, v, ran, empty⟩

def crowded : Session :=
  .start ((Disk.empty .usual).put [Text.Utf8.encode "r.json"] (.file (Text.Utf8.encode "\x7b\x7d"))) fun _ => ⟨0⟩

def crowding : GenerateOptions := ⟨⟨"r.json"⟩, some ⟨"x"⟩, none, some ⟨"x"⟩⟩

theorem crowdedWellFormed : crowded.disk.WellFormed :=
  Disk.putWellFormed (Disk.emptyWellFormed .usual) (Disk.getRoot _) (.inr (by decide +kernel))

theorem crowdedTaken : ∃ outcome s', (writeArchive ⟨[]⟩ crowding : StateM Session _).run crowded = (outcome, s') ∧
    outcome.code = 1 ∧ ∃ place, s'.disk.find ⟨"x"⟩ = .ok place ∧ s'.disk.get? place ≠ crowded.disk.get? place := by
  rcases run : (writeArchive ⟨[]⟩ crowding : StateM Session _).run crowded with ⟨outcome, s'⟩
  have named : (⟨"x"⟩ : Path).text ≠ "" := by decide
  obtain ⟨failed, ⟨fault, loading⟩ | ⟨unsupported, unknown⟩ | ⟨r, t, loading, leaves⟩⟩ :=
    rootTaken (e := ⟨[]⟩) (o := crowding) crowdedWellFormed named rfl rfl (writeArchiveCases run)
  · have loads : ((Request.load ⟨"r.json"⟩ : Program Request.LoadFault _).run.run crowded).1.isOk = true := by
      decide +kernel
    cases loads.symm.trans (congrArg (fun ended => ended.1.isOk) loading)
  · cases unknown
  refine ⟨outcome, s', rfl, failed, [Text.Utf8.encode "x"], ?_⟩
  obtain ⟨_, _, _, rfl⟩ | ⟨_, impossible, _⟩ := Request.loadCases loading
  · have makes : (crowded.disk.makeDirectories ⟨"x"⟩).1.isOk = true := by decide +kernel
    have found : (crowded.disk.makeDirectories ⟨"x"⟩).2.find ⟨"x"⟩ = .ok [Text.Utf8.encode "x"] := by decide +kernel
    have there : (crowded.disk.makeDirectories ⟨"x"⟩).2.get? [Text.Utf8.encode "x"] = some .directory := by
      decide +kernel
    have free : crowded.disk.get? [Text.Utf8.encode "x"] = none := by decide +kernel
    cases leaves with
    | part stopped =>
      obtain ⟨f, ran⟩ := stopped
      rcases Session.performCases ran with ⟨_, same, _⟩ | ⟨_, given, _⟩
      · cases makes.symm.trans (congrArg Except.isOk same.symm)
      · cases given
    | shared made ok alike =>
      change crowded.disk.makeDirectories ⟨"x"⟩ = (.ok (), made) at ok
      rw [ok] at found there
      refine ⟨Disk.findGrows (Disk.alikeGrows alike) found, ?_⟩
      rw [alike.get, there, free]
      simp
  · cases impossible

/-- A copy that is stopped has cut the file that was at the place of the output, and where nothing was before, the
shared directory may be. -/
theorem failureLoses :
    (¬ ∀ (e : Environment) (o : GenerateOptions) (s s' : Session) (outcome : Outcome) (output : Path)
        (old : Text.Utf8.Bytes), s.disk.WellFormed → (writeArchive e o : StateM Session _).run s = (outcome, s') → outcome.code ≠ 0 →
      o.output = some output → s.disk.read output = .ok old → s'.disk.read output = .ok old) ∧
    ¬ ∀ (e : Environment) (o : GenerateOptions) (s s' : Session) (outcome : Outcome) (output : Path),
      s.disk.WellFormed → (writeArchive e o : StateM Session _).run s = (outcome, s') → outcome.code ≠ 0 →
      o.output = some output → ∀ place, s'.disk.find output = .ok place → s'.disk.get? place = s.disk.get? place := by
  constructor
  · intro kept
    obtain ⟨mishaps, v, ran, empty⟩ := readyLost
    have same := kept ⟨[]⟩ wanted (ready.given mishaps) v _ ⟨"x"⟩ _ (holdingWellFormed ..) ran Nat.one_ne_zero rfl
      readyReads
    cases empty.symm.trans same
  · intro kept
    obtain ⟨outcome, s', ran, code, place, found, other⟩ := crowdedTaken
    exact other (kept ⟨[]⟩ crowding crowded s' outcome ⟨"x"⟩ crowdedWellFormed ran (by rw [code]; decide) rfl place found)

end Command
end ClassScaffold
