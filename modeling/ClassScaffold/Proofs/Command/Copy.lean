import ClassScaffold.Proofs.Command.Ends
import ClassScaffold.Proofs.Disk.Progress
import ClassScaffold.Proofs.Generator.Cleanup
import ClassScaffold.Proofs.Generator.Foreseen
/-! Opening the output cuts what was there, and copying into it may be stopped at once: an earlier file at the place
of the output is then empty, although no archive has come of the run. -/
namespace ClassScaffold.Command
open Session (Ends Program)
open Text.Utf8 (Bytes)

variable {e : Environment} {o : GenerateOptions} {s t u : Session} {r : Request} {g : Generator} {stream : Stream}
  {fault : Disk.Fault} {output : Path} {name : String} {contents old : Bytes} {w : Workspace}

/-- The first reading fails, and takes the workspace away. -/
theorem copyStopped (stopped : s.mishaps s.history.length = some ⟨fault, none⟩) :
    let stream := Stream.openOn name contents w
    (copyWithin output stream (stream.length + 1) : StateM Session _).run s =
      ((⟨name, contents.length, none, none, none, none⟩, .error fault),
        Generator.removed w (s.record (.grant Stream.chunk) (some fault) s.disk)) := by
  have granted : (Host.grant Stream.chunk : StateM Session (Except Disk.Fault Nat)).run s =
      (.error fault, s.record (.grant Stream.chunk) (some fault) s.disk) := Session.lookStopped stopped
  unfold copyWithin Stream.read Stream.answerFor
  simp only [Stream.openOn, Session.runBind, granted]
  rfl

theorem deliverStopped (clear : s.mishaps s.history.length = none) {d : Disk} (opened : s.disk.write output [] = .ok d)
    (stopped : s.mishaps (s.history.length + 1) = some ⟨fault, none⟩) :
    ∃ v, (deliver (Stream.openOn name contents w) output : StateM Session _).run s =
        (.error (Report.notWritten output fault), v) ∧ v.disk = d.remove w.root := by
  let t := s.record (.writeFile output) none d
  have created : (Host.writeFile output [] : StateM Session _).run s = (.ok (), t) := Session.changeAt clear opened
  have length : t.history.length = s.history.length + 1 := by simp [t, Session.record]
  have given : t.mishaps t.history.length = some ⟨fault, none⟩ := length ▸ stopped
  refine ⟨Generator.removed w (t.record (.grant Stream.chunk) (some fault) t.disk), ?_, rfl⟩
  unfold deliver
  rw [Session.runBind, created]
  simp only [Session.runBind, copyStopped given]
  rfl

theorem openingEmpties {result : Except Failure Bytes} {root : Path} (wf : s.disk.WellFormed)
    (created : Generator.Created root w s (.ok w) t) (built : Ends (g.build w r : Program Failure _) t result u)
    (there : s.disk.read output = .ok old) :
    ∃ d, u.disk.write output [] = .ok d ∧ (d.remove w.root).read output = .ok [] := by
  obtain ⟨shared, fresh, sharedOk, freshOk, confined⟩ := Generator.builtConfined wf created built
  have made := Disk.madeByDirectories wf sharedOk
  have grows := Disk.growsTrans (Disk.makeDirectoryMade made.wellFormed freshOk).1.grows confined.grows
  obtain ⟨l, found, file⟩ := Disk.readFinds.1 there
  have found := Disk.findGrows made.grows found
  have file := Disk.madeKeeps made file
  have place := Disk.filePlaceThere made.wellFormed file
  obtain ⟨_, last⟩ := grows.files l old file
  have alike := Disk.removeRestoresBut made.wellFormed freshOk confined file []
  refine ⟨_, Disk.writeThere confined.wellFormed (Disk.findGrows grows found) last [], Disk.readFinds.2 ⟨l, ?_, ?_⟩⟩
  · exact Disk.findGrows (Disk.alikeGrows alike) (Disk.findGrows (Disk.filePlaceGrows place []) found)
  · obtain ⟨_, _, rfl, _⟩ := place.parent
    rw [alike.get, Disk.getPut _ (by simp), if_pos rfl]

/-- When the output is a file and the archive has been generated, a mishap at the first reading leaves that file
empty. No other operation is given one. -/
theorem copyEmpties (wf : s.disk.WellFormed)
    (loading : Ends (Request.load o.request : Program Request.LoadFault _) s (.ok r) t)
    (known : generatorFor e o = .ok g) (generated : Ends (g.generate r : Program Failure _) t (.ok stream) u)
    (there : s.disk.read (outputOf o r) = .ok old) (clear : s.mishaps u.history.length = none) (fault : Disk.Fault) :
    ∃ mishaps v, (∀ n, n ≠ u.history.length + 1 → mishaps n = s.mishaps n) ∧
      (writeArchive e o : StateM Session _).run (s.given mishaps) =
        (.failed (started o r g) (Report.notWritten (outputOf o r) fault), v) ∧
      v.disk.read (outputOf o r) = .ok [] := by
  obtain ⟨contents, a, created, built, rfl⟩ := Generator.generatedOk (Generator.generateCases generated)
  have same := Request.loadDisk loading
  obtain ⟨d, opened, empty⟩ := openingEmpties (same ▸ wf) created built (same ▸ there)
  let mishaps n := if n = u.history.length + 1 then some ⟨fault, none⟩ else s.mishaps n
  have agree (n : Nat) (other : n ≠ u.history.length + 1) : mishaps n = s.mishaps n := if_neg other
  have loads := Request.foreseenLoad o.request loading
  have generates := Generator.foreseenGenerate g r generated
  have later := generates.longer
  have loaded := loads.same mishaps fun n early => agree n (by omega)
  have ready := generates.same mishaps fun n early => loads.kept ▸ agree n (by omega)
  have free : (u.given mishaps).mishaps (u.given mishaps).history.length = none :=
    (agree u.history.length (by omega)).trans clear
  have stopped : (u.given mishaps).mishaps ((u.given mishaps).history.length + 1) = some ⟨fault, none⟩ := if_pos rfl
  obtain ⟨v, delivered, left⟩ := deliverStopped free opened stopped
  refine ⟨mishaps, v, agree, ?_, left ▸ empty⟩
  unfold writeArchive
  rw [Session.runBind, loaded]
  simp only [known, Session.runBind, ready]
  have place : o.output.getD ⟨(Stream.openOn (Generator.fileName r) contents (g.workspace t)).fileName⟩ =
      outputOf o r := rfl
  rw [place, delivered]
  rfl

end ClassScaffold.Command
