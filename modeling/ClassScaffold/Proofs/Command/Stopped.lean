import ClassScaffold.Proofs.Command.Kept
import ClassScaffold.Proofs.Stream.Poll
/-! What a run leaves of its output. While the archive is copied there is a beginning of it in the output, all of it
when the run succeeds, and wherever the copy is stopped nothing else has been touched. -/
namespace ClassScaffold
open Session (Ends Program)
open Disk (Alike Confined IsFilePlace Made Undisturbed)
open Text.Utf8 (Bytes)

namespace Disk

theorem putAgain (d : Disk) (l : Location) (e e' : Entry) : (d.put l e).put l e' = d.put l e' := by
  simp [put, List.filter_filter]

/-- The output is at this place, and it is all that has changed. -/
structure IsOpened (base : Disk) (output : Path) (l : Location) (part : Bytes) (d : Disk) : Prop where
  place : IsFilePlace base l
  only : d = base.put l (.file part)
  wellFormed : d.WellFormed
  found : d.find output = .ok l

variable {base d : Disk} {output : Path} {l : Location} {part : Bytes}

theorem openedWritten {d' : Disk} {contents : Bytes} (wf : d.WellFormed) (wrote : d.write output contents = .ok d') :
    ∃ l, IsOpened d output l contents d' := by
  obtain ⟨l, place, rfl, found⟩ := writeFound wf wrote
  exact ⟨l, place, rfl, filePlaceWellFormed wf place contents, found⟩

theorem openedFile (opened : IsOpened base output l part d) : d.get? l = some (.file part) := by
  obtain ⟨_, _, same, _⟩ := opened.place.parent
  rw [opened.only, getPut _ (by simp [same]), if_pos rfl]

theorem openedAppends (opened : IsOpened base output l part d) (bytes : Bytes) :
    ∃ d', d.append output bytes = .ok d' ∧ IsOpened base output l (part ++ bytes) d' := by
  have file := openedFile opened
  have read : d.read output = .ok part := readFinds.2 ⟨l, opened.found, file⟩
  have wrote := writeThere opened.wellFormed opened.found file (part ++ bytes)
  obtain ⟨l', place, same, found⟩ := writeFound opened.wellFormed wrote
  have grows := filePlaceGrows place (part ++ bytes)
  rw [← same] at grows
  obtain rfl : l = l' := Except.ok.inj ((findGrows grows opened.found).symm.trans found)
  refine ⟨_, ?_, opened.place, ?_, filePlaceWellFormed opened.wellFormed place _, found⟩
  · unfold append
    rw [read]
    exact wrote
  · rw [opened.only, putAgain]

end Disk

namespace Command
open ClassScaffold.Stream (finished openOn outcomeOf reading)

variable {s s' t : Session} {output : Path} {base : Disk} {l : Disk.Location} {part left : Bytes} {name : String}
  {length : Nat} {w : Workspace}

/- Copying -/

/-- What one read of an open stream comes to on a machine, where a removal is over at once. -/
inductive ReadsOn (name : String) (length : Nat) (w : Workspace) (left : Bytes) (s : Session) :
    Stream × Stream.Outcome → Session → Prop
  | gives {bytes rest : Bytes} {t : Session} (whole : bytes ++ rest = left) (some : bytes ≠ [])
      (same : t.disk = s.disk) : ReadsOn name length w left s (reading name length w rest, .delivered bytes) t
  | ends {fault : Option Disk.Fault} {t : Session} (whole : fault = none → left = [])
      (removed : t.disk = s.disk.remove w.root) :
      ReadsOn name length w left s (finished name length, outcomeOf fault) t

theorem turnReadsOn {p : Stream.Poll} {turn : Stream.Turn} (same : t.disk = s.disk)
    (room : 0 < p.room) (gone : p.gone = true) (answered : p.answer ≠ .pending)
    (reads : Stream.Reads name length w left p turn) :
    ReadsOn name length w left s (turn.stream, turn.outcome)
      ((Stream.removeAll turn.removes : StateM Session Unit).run t).2 := by
  have removed : (Generator.removed w t).disk = s.disk.remove w.root := congrArg (Disk.remove · w.root) same
  cases reads with
  | waits answer => exact absurd answer answered
  | gives answer whole some => exact .gives whole (some room) same
  | fails answer =>
    rw [Stream.finishReading, if_pos gone]
    exact @ReadsOn.ends _ _ _ _ _ (some _) _ nofun removed
  | ends answer _ whole =>
    rw [Stream.finishReading, if_pos gone]
    exact @ReadsOn.ends _ _ _ _ _ none _ (fun _ => whole) removed

theorem readCases {room : Nat} (some : 0 < room) {after : Stream × Stream.Outcome}
    (ran : ((reading name length w left).read room : StateM Session _).run s = (after, t)) :
    ReadsOn name length w left s after t := by
  unfold Stream.read Stream.answerFor at ran
  rcases granted : (Host.grant room : StateM Session (Except Disk.Fault Nat)).run s with ⟨answer, u⟩
  have same : u.disk = s.disk := Session.lookDisk granted
  have turned (answer : Stream.Answer) (answered : answer ≠ .pending) :=
    turnReadsOn same some rfl answered (@Stream.pollReading name length w left ⟨room, answer, true⟩)
  simp only [reading, Session.runBind, granted] at ran
  cases answer with
  | ok count =>
    cases ran
    exact turned (.granted count) (by simp)
  | error fault =>
    cases ran
    exact turned (.failed fault) (by simp)

theorem appendOpened (opened : Disk.IsOpened base output l part s.disk) {bytes : Bytes}
    {answer : Except Disk.Fault Unit}
    (ran : (Host.appendFile output bytes : StateM Session _).run s = (answer, t)) :
    (answer = .ok () ∧ Disk.IsOpened base output l (part ++ bytes) t.disk) ∨
      ∃ fault n, answer = .error fault ∧ Disk.IsOpened base output l (part ++ bytes.take n) t.disk := by
  rcases Session.changeCases ran with ⟨rfl, wrote⟩ | ⟨fault, rfl, same | ⟨n, left⟩⟩
  · obtain ⟨d, appended, opened⟩ := Disk.openedAppends opened bytes
    cases appended.symm.trans wrote
    exact .inl ⟨rfl, opened⟩
  · exact .inr ⟨fault, 0, rfl, by simpa [same] using opened⟩
  · obtain ⟨d, appended, opened⟩ := Disk.openedAppends opened (bytes.take n)
    exact .inr ⟨fault, n, rfl, by simpa [left, Session.orSame, appended, Except.toOption] using opened⟩

/-- By the number of reads: at each of them what has been copied and what is left make the archive. -/
theorem copyLeaves {reads : Nat} {last : Stream} {result : Except Disk.Fault Nat} {v : Session}
    (opened : Disk.IsOpened base output l part s.disk)
    (ran : (copyWithin output (reading name length w left) reads : StateM Session _).run s = ((last, result), t))
    (closed : (last.close : StateM Session Unit).run t = ((), v)) :
    ∃ copied d, copied <+: part ++ left ∧ (result.isOk = true → left.length < reads → copied = part ++ left) ∧
      Disk.IsOpened base output l copied d ∧ v.disk = d.remove w.root := by
  induction reads generalizing s part left result with
  | zero =>
    cases ran
    cases closed
    exact ⟨part, _, List.prefix_append .., fun _ less => absurd less (Nat.not_lt_zero _), opened, rfl⟩
  | succ reads ih =>
    unfold copyWithin at ran
    rcases read : ((reading name length w left).read Stream.chunk : StateM Session _).run s with ⟨after, u⟩
    have cases' := readCases (by decide) read
    rw [Session.runBind, read] at ran
    cases cases' with
    | @gives bytes rest _ whole some same =>
      rw [← same] at opened
      rcases wrote : (Host.appendFile output bytes : StateM Session (Except Disk.Fault Unit)).run u with ⟨answer, x⟩
      simp only [Session.runBind, wrote] at ran
      rcases appendOpened opened wrote with ⟨rfl, opened⟩ | ⟨fault, n, rfl, opened⟩
      · rcases more : (copyWithin output (reading name length w rest) reads : StateM Session _).run x
          with ⟨⟨_, total⟩, y⟩
        simp only [Session.runBind, more] at ran
        cases ran
        obtain ⟨copied, d, before, all, opened, left⟩ := ih opened more
        rw [List.append_assoc, whole] at before all
        refine ⟨copied, d, before, fun done less => all ?_ ?_, opened, left⟩
        · cases total with
          | ok => rfl
          | error => cases done
        · have long := List.length_pos_of_ne_nil some
          rw [← whole, List.length_append] at less
          omega
      · cases ran
        cases closed
        refine ⟨part ++ bytes.take n, _, ?_, nofun, opened, rfl⟩
        rw [← whole, List.prefix_append_right_inj]
        exact (List.take_prefix n bytes).trans (List.prefix_append ..)
    | @ends fault _ whole removed =>
      refine ⟨part, s.disk, List.prefix_append .., fun done _ => ?_, opened, ?_⟩
      · cases fault with
        | none => rw [whole rfl, List.append_nil]
        | some f =>
          cases ran
          cases done
      · cases fault <;> cases ran <;> cases closed <;> exact removed

/- Runs -/

/-- Once the output has been opened it holds a beginning of the archive, and all of it when nothing has failed. -/
theorem deliverLeaves {contents : Bytes} {result : Except String Nat} (wf : s.disk.WellFormed)
    (delivers : Delivers output (openOn name contents w) s result s') :
    s'.disk = s.disk.remove w.root ∨ ∃ l part d, part <+: contents ∧ (result.isOk = true → part = contents) ∧
      Disk.IsOpened s.disk output l part d ∧ s'.disk = d.remove w.root := by
  cases delivers with
  | @notCreated fault t _ stopped closed =>
    have removed : s'.disk = t.disk.remove w.root := congrArg (fun ended => ended.2.disk) closed.symm
    rcases Session.writeFileCases stopped with same | ⟨n, wrote⟩
    · exact .inl (by rw [removed, same])
    · rw [List.take_nil] at wrote
      obtain ⟨l, opened⟩ := Disk.openedWritten wf wrote
      exact .inr ⟨l, [], _, List.nil_prefix, nofun, opened, removed⟩
  | notCopied created copied closed =>
    obtain ⟨l, opened⟩ := Disk.openedWritten wf (Session.writeFileOk created)
    obtain ⟨part, d, before, _, opened, removed⟩ := copyLeaves opened copied closed
    exact .inr ⟨l, part, d, before, nofun, opened, removed⟩
  | done created copied closed =>
    obtain ⟨l, opened⟩ := Disk.openedWritten wf (Session.writeFileOk created)
    obtain ⟨part, d, before, all, opened, removed⟩ := copyLeaves opened copied closed
    exact .inr ⟨l, part, d, before, fun done => all rfl (Nat.lt_succ_self _), opened, removed⟩

/-- All that is new or other than before is the output, in which a beginning of the archive is, and directories on
the way to the shared one. -/
structure OutputOnly (root output : Path) (part : Bytes) (d d' : Disk) : Prop where
  elsewhere : ∃ mid place, Undisturbed root d mid ∧ d'.get? place = some (.file part) ∧
    ∀ q, q ≠ place → d'.get? q = mid.get? q
  output : ∀ old, d.read output = .ok old → d'.read output = .ok part

theorem deliveredOnly {g : Generator} {r : Request} {u v : Session} {shared : Path} {contents : Bytes}
    {result : Except String Nat} (wf : s.disk.WellFormed) (created : Generator.Created shared w s (.ok w) t)
    (built : Ends (g.build w r : Program Failure _) t (.ok contents) u)
    (delivers : Delivers output (openOn name contents w) u result v) :
    Undisturbed shared s.disk v.disk ∨ ∃ part, part <+: contents ∧ (result.isOk = true → part = contents) ∧
      OutputOnly shared output part s.disk v.disk := by
  obtain ⟨mid, fresh, sharedOk, freshOk, confined⟩ := Generator.builtConfined wf created built
  have made := Disk.madeByDirectories wf sharedOk
  have restored {x : Disk} (wf' : x.WellFormed) (alike : Alike mid (x.remove w.root)) :
      Undisturbed shared s.disk (x.remove w.root) :=
    Disk.undisturbedOfMade wf (Disk.madeAlike made alike (Disk.removeDistinct wf' w.root))
  rcases deliverLeaves confined.wellFormed delivers with same | ⟨l, part, d, before, all, opened, same⟩
  · exact .inl (same ▸ restored confined.wellFormed (Disk.removeRestores made.wellFormed freshOk confined))
  have left := Disk.removeRestoresPut made.wellFormed freshOk confined opened.place part
  rw [← opened.only, ← same] at left
  rcases left with ⟨_, alike⟩ | alike
  · exact .inl (same ▸ restored opened.wellFormed (same ▸ alike))
  have some : l ≠ [] := by
    obtain ⟨_, _, named, _⟩ := opened.place.parent
    simp [named]
  have written : v.disk.get? l = .some (.file part) := by rw [alike.get, Disk.getPut _ some, if_pos rfl]
  refine .inr ⟨part, before, all, ⟨mid, l, Disk.undisturbedOfMade wf made, written, fun q other => ?_⟩,
    fun old there => ?_⟩
  · rw [alike.get, Disk.getPut _ some, if_neg other]
  · obtain ⟨k, found, file⟩ := Disk.readFinds.1 there
    have found := Disk.findGrows made.grows found
    have place := Disk.filePlaceThere made.wellFormed (Disk.madeKeeps made file)
    have worked := Disk.growsTrans (Disk.makeDirectoryMade made.wellFormed freshOk).1.grows confined.grows
    have later := Disk.findGrows worked found
    have grows := Disk.filePlaceGrows opened.place part
    rw [← opened.only] at grows
    obtain rfl : k = l := Except.ok.inj ((Disk.findGrows grows later).symm.trans opened.found)
    exact Disk.readFinds.2 ⟨k, Disk.findGrows (Disk.alikeGrows alike)
      (Disk.findGrows (Disk.filePlaceGrows place part) found), written⟩

/-- A run from which an archive has come, with what of it is in the output. -/
inductive Copies (e : Environment) (o : GenerateOptions) (s : Session) (outcome : Outcome) (s' : Session) : Prop
  | intro {r g t u contents part} (loading : Ends (Request.load o.request : Program Request.LoadFault _) s (.ok r) t)
      (known : generatorFor e o = .ok g)
      (generated : Generator.Generated g (g.workspace t) r t
        (.ok (openOn (Generator.fileName r) contents (g.workspace t))) u)
      (before : part <+: contents) (all : outcome.code = 0 → part = contents)
      (only : OutputOnly (o.sharedRoot.getD e.sharedRoot) (outputOf o r) part s.disk s'.disk)

variable {e : Environment} {o : GenerateOptions} {outcome : Outcome}

theorem deliveryLeaves {r : Request} {g : Generator} {u : Session} {stream : Stream} {result : Except String Nat}
    (wf : s.disk.WellFormed) (loading : Ends (Request.load o.request : Program Request.LoadFault _) s (.ok r) t)
    (known : generatorFor e o = .ok g) (generated : Generator.Generated g (g.workspace t) r t (.ok stream) u)
    (delivers : Delivers (outputOf o r) stream u result s') (done : outcome.code = 0 → result.isOk = true) :
    Undisturbed (o.sharedRoot.getD e.sharedRoot) s.disk s'.disk ∨ Copies e o s outcome s' := by
  obtain ⟨contents, _, created, built, rfl⟩ := Generator.generatedOk generated
  have same := Request.loadDisk loading
  rw [generatorRoot known] at created
  rcases deliveredOnly (same ▸ wf) created built delivers with undisturbed | ⟨part, before, all, only⟩
  · exact .inl (same ▸ undisturbed)
  · exact .inr ⟨loading, known, generated, before, fun well => all (done well), same ▸ only⟩

/-- Whatever stops a run, it leaves everything as it was but for the directories on the way to the shared one, and
the output, if it has been opened, with a beginning of the archive in it. -/
theorem runLeaves (wf : s.disk.WellFormed)
    (ran : (writeArchive e o : StateM Session _).run s = (outcome, s')) :
    Undisturbed (o.sharedRoot.getD e.sharedRoot) s.disk s'.disk ∨ Copies e o s outcome s' := by
  have undisturbed (made : Made (o.sharedRoot.getD e.sharedRoot) s.disk s'.disk) := Disk.undisturbedOfMade wf made
  cases writeArchiveCases ran with
  | notLoaded loading => exact .inl (undisturbed (loadMade wf loading _))
  | notKnown loading => exact .inl (undisturbed (loadMade wf loading _))
  | notGenerated loading known failed => exact .inl (undisturbed (notGeneratedMade wf loading known failed))
  | notDelivered loading known generated failed => exact deliveryLeaves wf loading known generated failed nofun
  | done loading known generated delivers => exact deliveryLeaves wf loading known generated delivers fun _ => rfl

end Command
end ClassScaffold
