import ClassScaffold.Proofs.Session.Run
/-! What a run adds to the history of its machine. Every operation that was given a mishap has failed with
it, and a program in which an operation has failed fails as well. -/
namespace ClassScaffold.Session

/-- The history has grown by such records, and an operation that was given a mishap has that fault.
Removing a tree does not fail. -/
structure Traced (Q : Record → Prop) (s s' : Session) : Prop where
  mishaps : s'.mishaps = s.mishaps
  history : ∃ added, s'.history = s.history ++ added ∧ ∀ i entry, added[i]? = some entry →
    Q entry ∧ ∀ mishap, s.mishaps (s.history.length + i) = some mishap →
      entry.fault = some mishap.fault ∨ ∃ p, entry.operation = .removeTree p

variable {Q Q' : Record → Prop} {s t s' : Session}

theorem tracedRefl (s : Session) : Traced Q s s :=
  ⟨rfl, [], by simp, fun i entry found => by simp at found⟩

theorem tracedTrans (first : Traced Q s t) (next : Traced Q t s') : Traced Q s s' := by
  obtain ⟨sameA, a, historyA, eachA⟩ := first
  obtain ⟨sameB, b, historyB, eachB⟩ := next
  refine ⟨sameB.trans sameA, a ++ b, by rw [historyB, historyA, List.append_assoc], ?_⟩
  intro i entry found
  by_cases early : i < a.length
  · rw [List.getElem?_append_left early] at found
    exact eachA i entry found
  · rw [List.getElem?_append_right (by omega)] at found
    obtain ⟨holds, given⟩ := eachB (i - a.length) entry found
    refine ⟨holds, fun mishap h => given mishap ?_⟩
    rw [sameA, historyA, List.length_append, Nat.add_assoc, Nat.add_sub_cancel' (by omega)]
    exact h

theorem tracedMono (traced : Traced Q s s') (weaker : ∀ entry, Q entry → Q' entry) : Traced Q' s s' := by
  obtain ⟨same, added, history, each⟩ := traced
  exact ⟨same, added, history, fun i entry found =>
    ⟨weaker entry (each i entry found).1, (each i entry found).2⟩⟩

theorem tracedSame (mishaps : s'.mishaps = s.mishaps) (history : s'.history = s.history) :
    Traced Q s s' :=
  ⟨mishaps, [], by simp [history], fun i entry found => by simp at found⟩

theorem tracedRecord {o : Operation} {fault : Option Disk.Fault} {d : Disk}
    (given : ∀ mishap, s.mishaps s.history.length = some mishap →
      fault = some mishap.fault ∨ ∃ p, o = .removeTree p)
    (holds : Q ⟨o, fault⟩) : Traced Q s (s.record o fault d) := by
  refine ⟨rfl, [⟨o, fault⟩], rfl, fun i entry found => ?_⟩
  obtain ⟨rfl, rfl⟩ : i = 0 ∧ entry = ⟨o, fault⟩ := by
    cases i with
    | zero => exact ⟨rfl, (Option.some.inj found).symm⟩
    | succ i => simp at found
  exact ⟨holds, given⟩

variable {ε ε' α β : Type}

/-- All operations of the program are such, and it fails when one of them does. -/
def Traces (allowed : Operation → Prop) (x : Program ε α) : Prop :=
  ∀ ⦃s r s'⦄, Ends x s r s' →
    Traced (fun entry => allowed entry.operation ∧ (entry.fault ≠ none → ∃ e, r = .error e)) s s'

variable {allowed : Operation → Prop}

theorem tracesPure (a : α) : Traces allowed (pure a : Program ε α) := by
  intro s r s' ends
  rw [(endsPure ends).2]
  exact tracedRefl s

theorem tracesThrow (e : ε) : Traces allowed (throw e : Program ε α) := by
  intro s r s' ends
  rw [(endsThrow ends).2]
  exact tracedRefl s

theorem tracesBind {x : Program ε α} {f : α → Program ε β} (first : Traces allowed x)
    (next : ∀ a, Traces allowed (f a)) : Traces allowed (x >>= f) := by
  intro s r s' ends
  rcases endsBind ends with ⟨e, failed, rfl⟩ | ⟨a, t, went, after⟩
  · refine tracedMono (first failed) fun entry ⟨holds, _⟩ => ⟨holds, fun _ => ⟨e, rfl⟩⟩
  · -- the first part has come to a result, so none of its operations has failed
    refine tracedTrans (tracedMono (first went) fun entry ⟨holds, error⟩ => ⟨holds, fun faulty => ?_⟩)
      (next a after)
    obtain ⟨_, impossible⟩ := error faulty
    contradiction

theorem tracesUnless {refused : Prop} [Decidable refused] {e : ε} {f : PUnit → Program ε α}
    (next : ∀ u, Traces allowed (f u)) : Traces allowed (if refused then throw e >>= f else f ⟨⟩) := by
  split
  · exact tracesBind (tracesThrow e) next
  · exact next ⟨⟩

theorem tracesForM {f : β → Program ε PUnit} {items : List β}
    (each : ∀ item ∈ items, Traces allowed (f item)) : Traces allowed (items.forM f) := by
  induction items with
  | nil => exact tracesPure _
  | cons item rest ih =>
    have head := each item List.mem_cons_self
    have tail := ih fun other h => each other (List.mem_cons_of_mem _ h)
    exact tracesBind head fun _ => tail

theorem performTraced {o : Operation} {run : Disk → Except Disk.Fault α × Disk}
    {stopped : Nat → Disk → Disk} {r : Except Disk.Fault α} (holds : allowed o)
    (ends : (perform o run stopped).run s = (r, s')) :
    Traced (fun entry => allowed entry.operation ∧ (entry.fault ≠ none → ∃ e, r = .error e)) s s' := by
  rcases performCases ends with ⟨none, same, rfl⟩ | ⟨mishap, found, rfl, rfl⟩
  · refine tracedRecord (fun mishap found => by simp [none] at found) ⟨holds, fun faulty => ?_⟩
    cases r with
    | error e => exact ⟨e, rfl⟩
    | ok a => exact absurd rfl faulty
  · refine tracedRecord (fun other same => .inl ?_) ⟨holds, fun _ => ⟨_, rfl⟩⟩
    rw [found] at same
    cases same
    rfl

theorem tracesAttempt {fault : Disk.Fault → ε} {o : Operation} {run : Disk → Except Disk.Fault α × Disk}
    {stopped : Nat → Disk → Disk} (holds : allowed o) :
    Traces allowed (Host.attempt fault (perform o run stopped)) := by
  intro s r s' ends
  obtain ⟨result, before, rfl⟩ := endsAttempt ends
  refine tracedMono (performTraced holds before) fun entry ⟨inside, error⟩ => ⟨inside, fun faulty => ?_⟩
  obtain ⟨e, rfl⟩ := error faulty
  exact ⟨fault e, rfl⟩

theorem tracesMakeDirectories {fault : Disk.Fault → ε} {p : Path} (holds : allowed (.makeDirectories p)) :
    Traces allowed (Host.attempt fault (Host.makeDirectories p)) := tracesAttempt holds

theorem tracesLook {fault : Disk.Fault → ε} {o : Operation} {f : Disk → Except Disk.Fault α}
    (holds : allowed o) : Traces allowed (Host.attempt fault (look o f)) := by
  unfold look
  exact tracesAttempt holds

theorem tracesNodesBelow {fault : Disk.Fault → ε} {p : Path} (holds : allowed (.nodesBelow p)) :
    Traces allowed (Host.attempt fault (Host.nodesBelow p)) := tracesLook holds

theorem tracesReadBelow {fault : Disk.Fault → ε} {p : Path} {l : Disk.Location}
    (holds : allowed (.readBelow p l)) : Traces allowed (Host.attempt fault (Host.readBelow p l)) :=
  tracesLook holds

theorem tracesEnterBelow {fault : Disk.Fault → ε} {p : Path} {l : Disk.Location}
    (holds : allowed (.enterBelow p l)) : Traces allowed (Host.attempt fault (Host.enterBelow p l)) :=
  tracesLook holds

theorem tracesReadFile {fault : Disk.Fault → ε} {p : Path} (holds : allowed (.readFile p)) :
    Traces allowed (Host.attempt fault (Host.readFile p)) := tracesLook holds

theorem tracesChange {fault : Disk.Fault → ε} {o : Operation} {f : Disk → Except Disk.Fault Disk}
    {stopped : Nat → Disk → Disk} (holds : allowed o) :
    Traces allowed (Host.attempt fault (change o f stopped)) := by
  unfold change
  exact tracesAttempt holds

theorem tracesWriteFile {fault : Disk.Fault → ε} {p : Path} {contents : Text.Utf8.Bytes}
    (holds : allowed (.writeFile p)) : Traces allowed (Host.attempt fault (Host.writeFile p contents)) :=
  tracesChange holds

theorem changeTraced {o : Operation} {f : Disk → Except Disk.Fault Disk} {stopped : Nat → Disk → Disk}
    {r : Except Disk.Fault Unit} (holds : allowed o) (ends : (change o f stopped).run s = (r, s')) :
    Traced (fun entry => allowed entry.operation ∧ (entry.fault ≠ none → ∃ e, r = .error e)) s s' := by
  unfold change at ends
  exact performTraced holds ends

theorem makeDirectoryTraced (allowed : Operation → Prop) {p : Path} {r : Except Disk.Fault Unit}
    (holds : allowed (.makeDirectory p)) (ends : (Host.makeDirectory p : StateM Session _).run s = (r, s')) :
    Traced (fun entry => allowed entry.operation ∧ (entry.fault ≠ none → ∃ e, r = .error e)) s s' :=
  changeTraced holds ends

theorem makeDirectoriesTraced (allowed : Operation → Prop) {p : Path} {r : Except Disk.Fault Unit}
    (holds : allowed (.makeDirectories p)) (ends : (Host.makeDirectories p : StateM Session _).run s = (r, s')) :
    Traced (fun entry => allowed entry.operation ∧ (entry.fault ≠ none → ∃ e, r = .error e)) s s' :=
  performTraced holds ends

/- Programs that refuse nothing -/

def Sure (x : Program ε α) : Prop :=
  ∀ ⦃s r s'⦄, Ends x s r s' → ∃ added, s'.history = s.history ++ added ∧
    ((∀ entry ∈ added, entry.fault = none) → ∃ a, r = .ok a)

theorem surePure (a : α) : Sure (pure a : Program ε α) := by
  intro s r s' ends
  obtain ⟨rfl, rfl⟩ := endsPure ends
  exact ⟨[], by simp, fun _ => ⟨a, rfl⟩⟩

theorem sureBind {x : Program ε α} {f : α → Program ε β} (first : Sure x) (next : ∀ a, Sure (f a)) :
    Sure (x >>= f) := by
  intro s r s' ends
  rcases endsBind ends with ⟨e, failed, rfl⟩ | ⟨a, t, went, after⟩
  · obtain ⟨added, history, ok⟩ := first failed
    refine ⟨added, history, fun none => ?_⟩
    obtain ⟨_, impossible⟩ := ok none
    cases impossible
  · obtain ⟨early, historyA, _⟩ := first went
    obtain ⟨late, historyB, ok⟩ := next a after
    refine ⟨early ++ late, by rw [historyB, historyA, List.append_assoc], fun none => ?_⟩
    exact ok fun entry member => none entry (List.mem_append_right _ member)

theorem sureForM {f : β → Program ε PUnit} {items : List β} (each : ∀ item, Sure (f item)) :
    Sure (items.forM f) := by
  induction items with
  | nil => exact surePure _
  | cons item rest ih => exact sureBind (each item) fun _ => ih

theorem performRecord {o : Operation} {run : Disk → Except Disk.Fault α × Disk}
    {stopped : Nat → Disk → Disk} {r : Except Disk.Fault α} (ends : (perform o run stopped).run s = (r, s')) :
    ∃ entry, s'.history = s.history ++ [entry] ∧ (entry.fault = none → ∃ a, r = .ok a) := by
  rcases performCases ends with ⟨_, _, rfl⟩ | ⟨mishap, _, _, rfl⟩
  · refine ⟨_, rfl, fun none => ?_⟩
    cases r with
    | ok a => exact ⟨a, rfl⟩
    | error e => cases none
  · exact ⟨_, rfl, fun none => by cases none⟩

theorem makeDirectoriesRecord {p : Path} {r : Except Disk.Fault Unit}
    (ends : (Host.makeDirectories p : StateM Session _).run s = (r, s')) :
    ∃ entry, s'.history = s.history ++ [entry] ∧ (entry.fault = none → ∃ a, r = .ok a) :=
  performRecord ends

theorem makeDirectoryRecord {p : Path} {r : Except Disk.Fault Unit}
    (ends : (Host.makeDirectory p : StateM Session _).run s = (r, s')) :
    ∃ entry, s'.history = s.history ++ [entry] ∧ (entry.fault = none → ∃ a, r = .ok a) := by
  change (change _ _ _).run s = (r, s') at ends
  unfold change at ends
  exact performRecord ends

theorem sureAttempt {fault : Disk.Fault → ε} {o : Operation} {run : Disk → Except Disk.Fault α × Disk}
    {stopped : Nat → Disk → Disk} : Sure (Host.attempt fault (perform o run stopped)) := by
  intro s r s' ends
  obtain ⟨result, before, rfl⟩ := endsAttempt ends
  obtain ⟨entry, history, ok⟩ := performRecord before
  refine ⟨[entry], history, fun none => ?_⟩
  obtain ⟨a, rfl⟩ := ok (none entry List.mem_cons_self)
  exact ⟨a, rfl⟩

theorem sureMakeDirectories {fault : Disk.Fault → ε} {p : Path} :
    Sure (Host.attempt fault (Host.makeDirectories p)) := sureAttempt

theorem sureWriteFile {fault : Disk.Fault → ε} {p : Path} {contents : Text.Utf8.Bytes} :
    Sure (Host.attempt fault (Host.writeFile p contents)) := by
  change Sure (Host.attempt fault (change _ _ _))
  unfold change
  exact sureAttempt

theorem sureReadFile {fault : Disk.Fault → ε} {p : Path} :
    Sure (Host.attempt fault (Host.readFile p)) := by
  change Sure (Host.attempt fault (look _ _))
  unfold look
  exact sureAttempt

end ClassScaffold.Session
