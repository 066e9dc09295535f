import ClassScaffold.Proofs.Session.Run
import ClassScaffold.Request.Load
/-! What comes of loading a request: it is what the bytes of the file say, unless they cannot be read. Nothing
but the file is looked at. -/
namespace ClassScaffold.Request
open Session (Ends Program)
open ClassScaffold.Text.Utf8 (Bytes)

def IsLoaded (d : Disk) (p : Path) (r : Request) : Prop := ∃ bytes, d.read p = .ok bytes ∧ ofBytes p bytes = .ok r

variable {p : Path} {s s' : Session}

theorem loadCases {result : Except LoadFault Request} (ends : Ends (load p : Program LoadFault _) s result s') :
    (∃ bytes, s.disk.read p = .ok bytes ∧ result = ofBytes p bytes ∧ s' = s.record (.readFile p) none s.disk) ∨
      ∃ f, result = .error (.unreadable p f) ∧ s' = s.record (.readFile p) (some f) s.disk := by
  unfold load at ends
  rcases Session.endsBind ends with ⟨e, failed, rfl⟩ | ⟨bytes, t, read, ends⟩
  · obtain ⟨f, rfl, ran⟩ := Session.attemptError failed
    rcases Session.lookCases ran with ⟨_, impossible, _⟩ | ⟨_, same, rfl⟩
    · cases impossible
    · cases same
      exact .inr ⟨f, rfl, rfl⟩
  · obtain ⟨found, rfl⟩ := Session.lookOk (Session.attemptOk read)
    refine .inl ⟨bytes, found, ?_⟩
    cases parsed : ofBytes p bytes with
    | error e =>
      rw [parsed] at ends
      exact Session.endsThrow ends
    | ok r =>
      rw [parsed] at ends
      exact Session.endsPure ends

theorem loadDisk {result : Except LoadFault Request} (ends : Ends (load p : Program LoadFault _) s result s') :
    s'.disk = s.disk := by
  rcases loadCases ends with ⟨_, _, _, rfl⟩ | ⟨_, _, rfl⟩
  · rfl
  · rfl

theorem loadOk {r : Request} (ends : Ends (load p : Program LoadFault _) s (.ok r) s') : IsLoaded s.disk p r := by
  rcases loadCases ends with ⟨bytes, found, parsed, _⟩ | ⟨_, impossible, _⟩
  · exact ⟨bytes, found, parsed.symm⟩
  · cases impossible

theorem loadRuns {r : Request} (quiet : s.Quiet) (loaded : IsLoaded s.disk p r) :
    Ends (load p : Program LoadFault _) s (.ok r) (s.record (.readFile p) none s.disk) := by
  obtain ⟨bytes, found, parsed⟩ := loaded
  unfold load
  refine Session.bindEnds (Session.attemptEnds (Session.lookRuns quiet found)) ?_
  rw [parsed]
  rfl

theorem loadedUnique {d : Disk} {r r' : Request} (loaded : IsLoaded d p r) (other : IsLoaded d p r') : r = r' := by
  obtain ⟨bytes, found, parsed⟩ := loaded
  obtain ⟨bytes', found', parsed'⟩ := other
  cases found.symm.trans found'
  cases parsed.symm.trans parsed'
  rfl

end ClassScaffold.Request
