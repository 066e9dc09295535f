import ClassScaffold.Proofs.Disk.Confine
import ClassScaffold.Proofs.Session.Run
/-! What an operation does to the disk of its machine: all that it was asked for when it succeeds, and when
it is stopped on the way nothing but a part of that. -/
namespace ClassScaffold.Session
open Text.Utf8 (Bytes)
open Disk (Made Confined)

variable {s s' : Session} {p : Path}

theorem makeDirectoriesMade (wf : s.disk.WellFormed) {r : Except Disk.Fault Unit}
    (ends : (Host.makeDirectories p : StateM Session _).run s = (r, s')) : Made p s.disk s'.disk := by
  rcases performCases ends with ⟨_, _, rfl⟩ | ⟨mishap, _, _, rfl⟩
  · exact Disk.makeDirectoriesMade wf p
  · unfold leftOf
    split
    · exact Disk.madeRefl wf p
    · next n _ =>
      have parts := Path.partsOfParts (Path.properTake (Path.partsProper p) n)
      exact Disk.madeWithin parts (Disk.makeDirectoriesMade wf _)

theorem makeDirectoriesOk (ends : (Host.makeDirectories p : StateM Session _).run s = (.ok (), s')) :
    s.disk.makeDirectories p = (.ok (), s'.disk) := by
  obtain ⟨done, rfl⟩ := performOk ends
  exact Prod.ext done rfl

theorem makeDirectoriesRuns {d : Disk} (quiet : s.Quiet) (ok : s.disk.makeDirectories p = (.ok (), d)) :
    (Host.makeDirectories p : StateM Session _).run s = (.ok (), s.record (.makeDirectories p) none d) :=
  performRuns quiet ok

theorem changeCases {o : Operation} {f : Disk → Except Disk.Fault Disk} {stopped : Nat → Disk → Disk}
    {r : Except Disk.Fault Unit} (ends : (change o f stopped).run s = (r, s')) :
    (r = .ok () ∧ f s.disk = .ok s'.disk) ∨
      ∃ e, r = .error e ∧ (s'.disk = s.disk ∨ ∃ n, s'.disk = stopped n s.disk) := by
  rcases performCases ends with ⟨_, rfl, rfl⟩ | ⟨mishap, _, rfl, rfl⟩
  · cases went : f s.disk with
    | error e => exact .inr ⟨e, rfl, .inl rfl⟩
    | ok d => exact .inl ⟨rfl, rfl⟩
  · refine .inr ⟨mishap.fault, rfl, ?_⟩
    unfold leftOf
    split
    · exact .inl rfl
    · next n _ => exact .inr ⟨n, rfl⟩

theorem makeDirectoryCases {r : Except Disk.Fault Unit}
    (ends : (Host.makeDirectory p : StateM Session _).run s = (r, s')) :
    (r = .ok () ∧ s.disk.makeDirectory p = .ok s'.disk) ∨ ∃ e, r = .error e ∧ s'.disk = s.disk := by
  rcases changeCases ends with went | ⟨e, failed, same | ⟨_, same⟩⟩
  · exact .inl went
  · exact .inr ⟨e, failed, same⟩
  · exact .inr ⟨e, failed, same⟩

theorem writeFileOk {contents : Bytes}
    (ends : (Host.writeFile p contents : StateM Session _).run s = (.ok (), s')) :
    s.disk.write p contents = .ok s'.disk := by
  obtain ⟨d, went, rfl⟩ := changeOk ends
  exact went

theorem writeFileRuns {contents : Bytes} {d : Disk} (quiet : s.Quiet) (ok : s.disk.write p contents = .ok d) :
    (Host.writeFile p contents : StateM Session _).run s = (.ok (), s.record (.writeFile p) none d) :=
  changeRuns quiet ok

theorem writeFileCases {contents : Bytes} {r : Except Disk.Fault Unit}
    (ends : (Host.writeFile p contents : StateM Session _).run s = (r, s')) :
    s'.disk = s.disk ∨ ∃ n, s.disk.write p (contents.take n) = .ok s'.disk := by
  rcases changeCases ends with ⟨_, went⟩ | ⟨_, _, same | ⟨n, left⟩⟩
  · exact .inr ⟨contents.length, by rwa [List.take_length]⟩
  · exact .inl same
  · cases wrote : s.disk.write p (contents.take n) with
    | error e => exact .inl (by simp [left, orSame, wrote, Except.toOption])
    | ok d => exact .inr ⟨n, by simp [left, orSame, wrote, Except.toOption]⟩

theorem makeDirectoriesQuiet (quiet : s.Quiet) {r : Except Disk.Fault Unit}
    (ends : (Host.makeDirectories p : StateM Session _).run s = (r, s')) :
    s'.Quiet ∧ s.disk.makeDirectories p = (r, s'.disk) := by
  rcases performCases ends with ⟨_, rfl, rfl⟩ | ⟨_, given, _⟩
  · exact ⟨quiet, rfl⟩
  · cases (quiet _).symm.trans given

theorem changeQuiet {o : Operation} {f : Disk → Except Disk.Fault Disk} {stopped : Nat → Disk → Disk}
    {r : Except Disk.Fault Unit} (quiet : s.Quiet) (ends : (change o f stopped).run s = (r, s')) :
    s'.Quiet ∧ (r = .ok () ∧ f s.disk = .ok s'.disk ∨ ∃ e, r = .error e ∧ f s.disk = .error e ∧ s'.disk = s.disk) := by
  rcases performCases ends with ⟨_, rfl, rfl⟩ | ⟨_, given, _⟩
  · refine ⟨quiet, ?_⟩
    cases went : f s.disk with
    | ok d => exact .inl ⟨rfl, rfl⟩
    | error e => exact .inr ⟨e, rfl, rfl, rfl⟩
  · cases (quiet _).symm.trans given

theorem writeFileQuiet (quiet : s.Quiet) {contents : Bytes} {r : Except Disk.Fault Unit}
    (ends : (Host.writeFile p contents : StateM Session _).run s = (r, s')) :
    s'.Quiet ∧ (r = .ok () ∧ s.disk.write p contents = .ok s'.disk ∨
      ∃ e, r = .error e ∧ s.disk.write p contents = .error e ∧ s'.disk = s.disk) :=
  changeQuiet quiet ends

theorem writeFileConfined (wf : s.disk.WellFormed) {root : Path} {names : List String} (some : names ≠ [])
    (within : root.Within names p) {contents : Bytes} {r : Except Disk.Fault Unit}
    (ends : (Host.writeFile p contents : StateM Session _).run s = (r, s')) :
    Confined root s.disk s'.disk := by
  rcases writeFileCases ends with same | ⟨written, ok⟩
  · rw [same]
    exact Disk.confinedRefl wf root
  · exact Disk.writeConfined wf some within ok

end ClassScaffold.Session
