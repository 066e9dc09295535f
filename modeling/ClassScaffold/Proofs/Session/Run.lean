import ClassScaffold.Session
/-! Runs of programs on a machine, taken apart step by step. What every operation keeps is kept by a whole
run, whatever comes of it. -/
namespace ClassScaffold.Session

abbrev Program (ε α : Type) := ExceptT ε (StateM Session) α

/-- The program, started on a machine, comes to this result and leaves the machine so. -/
def Ends {ε α : Type} (x : Program ε α) (s : Session) (r : Except ε α) (s' : Session) : Prop :=
  x.run.run s = (r, s')

variable {ε ε' α β : Type} {s s' : Session}

theorem endsIsOk {x : Program ε α} (checked : (x.run.run s).1.isOk = true) : ∃ a s', Ends x s (.ok a) s' := by
  rcases run : x.run.run s with ⟨result, s'⟩
  rw [run] at checked
  cases result with
  | error e => contradiction
  | ok a => exact ⟨a, s', run⟩

/- Single steps -/

theorem runBind (x : StateM Session α) (f : α → StateM Session β) (s : Session) :
    (x >>= f).run s = (f (x.run s).1).run (x.run s).2 := rfl

theorem endsPure {a : α} {r : Except ε α} (ends : Ends (pure a : Program ε α) s r s') :
    r = .ok a ∧ s' = s := by
  cases ends
  exact ⟨rfl, rfl⟩

theorem endsThrow {e : ε} {r : Except ε α} (ends : Ends (throw e : Program ε α) s r s') :
    r = .error e ∧ s' = s := by
  cases ends
  exact ⟨rfl, rfl⟩

theorem endsBind {x : Program ε α} {f : α → Program ε β} {r : Except ε β} (ends : Ends (x >>= f) s r s') :
    (∃ e, Ends x s (.error e) s' ∧ r = .error e) ∨ ∃ a t, Ends x s (.ok a) t ∧ Ends (f a) t r s' := by
  unfold Ends at *
  rw [ExceptT.run_bind, StateT.run_bind] at ends
  rcases first : x.run.run s with ⟨result, t⟩
  rw [first] at ends
  cases result with
  | error e =>
    cases ends
    exact .inl ⟨e, rfl, rfl⟩
  | ok a => exact .inr ⟨a, t, rfl, ends⟩

theorem endsBindOk {x : Program ε α} {f : α → Program ε β} {b : β} (ends : Ends (x >>= f) s (.ok b) s') :
    ∃ a t, Ends x s (.ok a) t ∧ Ends (f a) t (.ok b) s' := by
  rcases endsBind ends with ⟨_, _, impossible⟩ | both
  · contradiction
  · exact both

theorem endsAttempt {fault : Disk.Fault → ε} {answer : StateM Session (Except Disk.Fault α)}
    {r : Except ε α} (ends : Ends (Host.attempt fault answer) s r s') :
    ∃ result, answer.run s = (result, s') ∧ r = result.mapError fault := by
  rcases first : answer.run s with ⟨result, t⟩
  have whole : (Host.attempt fault answer).run.run s = (result.mapError fault, t) := by
    unfold Host.attempt
    rw [ExceptT.run_mk, StateT.run_bind, first]
    rfl
  unfold Ends at ends
  rw [whole] at ends
  cases ends
  exact ⟨result, rfl, rfl⟩

theorem endsUnless {refused : Prop} [Decidable refused] {e : ε} {f : PUnit → Program ε α} {a : α}
    (ends : Ends (if refused then throw e >>= f else f ⟨⟩) s (.ok a) s') :
    ¬ refused ∧ Ends (f ⟨⟩) s (.ok a) s' := by
  split at ends
  · cases ends
  · next accepted => exact ⟨accepted, ends⟩

theorem attemptOk {fault : Disk.Fault → ε} {answer : StateM Session (Except Disk.Fault α)} {a : α}
    (ends : Ends (Host.attempt fault answer) s (.ok a) s') : answer.run s = (.ok a, s') := by
  obtain ⟨result, ran, same⟩ := endsAttempt ends
  cases result with
  | error => cases same
  | ok =>
    cases same
    exact ran

theorem attemptError {fault : Disk.Fault → ε} {answer : StateM Session (Except Disk.Fault α)} {e : ε}
    (ends : Ends (Host.attempt fault answer) s (.error e) s') :
    ∃ f, e = fault f ∧ answer.run s = (.error f, s') := by
  obtain ⟨result, ran, same⟩ := endsAttempt ends
  cases result with
  | ok => cases same
  | error f =>
    cases same
    exact ⟨f, rfl, ran⟩

theorem endsAdapt {f : ε → ε'} {x : Program ε α} {r : Except ε' α} (ends : Ends (x.adapt f) s r s') :
    ∃ result, Ends x s result s' ∧ r = result.mapError f := by
  rcases first : x.run.run s with ⟨result, t⟩
  have whole : (x.adapt f).run.run s = (result.mapError f, t) := by
    change (Except.mapError f <$> x.run).run s = _
    rw [StateT.run_map, first]
    rfl
  unfold Ends at ends
  rw [whole] at ends
  cases ends
  exact ⟨result, first, rfl⟩

theorem endsLift {y : StateM Session α} {r : Except ε α} (ends : Ends (liftM y : Program ε α) s r s') :
    ∃ a, y.run s = (a, s') ∧ r = .ok a := by
  rcases first : y.run s with ⟨a, t⟩
  have whole : (liftM y : Program ε α).run.run s = (.ok a, t) := by
    change (Except.ok <$> y).run s = _
    rw [StateT.run_map, first]
    rfl
  unfold Ends at ends
  rw [whole] at ends
  cases ends
  exact ⟨a, rfl, rfl⟩

/- Operations -/

def leftOf (mishap : Mishap) (stopped : Nat → Disk → Disk) (d : Disk) : Disk :=
  match mishap.progress with
  | none => d
  | some n => stopped n d

theorem performCases {o : Operation} {run : Disk → Except Disk.Fault α × Disk}
    {stopped : Nat → Disk → Disk} {r : Except Disk.Fault α}
    (ends : (perform o run stopped).run s = (r, s')) :
    (s.mishaps s.history.length = none ∧ r = (run s.disk).1 ∧
      s' = s.record o (faultOf r) (run s.disk).2) ∨
    ∃ mishap, s.mishaps s.history.length = some mishap ∧ r = .error mishap.fault ∧
      s' = s.record o (some mishap.fault) (leftOf mishap stopped s.disk) := by
  change perform o run stopped s = (r, s') at ends
  unfold perform at ends
  split at ends
  · next mishap found =>
    cases ends
    exact .inr ⟨mishap, found, rfl, rfl⟩
  · next none =>
    cases ends
    exact .inl ⟨none, rfl, rfl⟩

theorem performOk {o : Operation} {run : Disk → Except Disk.Fault α × Disk}
    {stopped : Nat → Disk → Disk} {a : α} (ends : (perform o run stopped).run s = (.ok a, s')) :
    (run s.disk).1 = .ok a ∧ s' = s.record o none (run s.disk).2 := by
  rcases performCases ends with ⟨_, same, after⟩ | ⟨_, _, impossible, _⟩
  · exact ⟨same.symm, after⟩
  · contradiction

theorem changeOk {o : Operation} {f : Disk → Except Disk.Fault Disk} {stopped : Nat → Disk → Disk}
    (ends : (change o f stopped).run s = (.ok (), s')) :
    ∃ d, f s.disk = .ok d ∧ s' = s.record o none d := by
  obtain ⟨done, after⟩ := performOk ends
  cases went : f s.disk with
  | error e => simp [went] at done
  | ok d => exact ⟨d, rfl, by simpa [went] using after⟩

theorem lookOk {o : Operation} {f : Disk → Except Disk.Fault α} {a : α}
    (ends : (look o f).run s = (.ok a, s')) : f s.disk = .ok a ∧ s' = s.record o none s.disk :=
  performOk ends

theorem lookCases {o : Operation} {f : Disk → Except Disk.Fault α} {r : Except Disk.Fault α}
    (ends : (look o f).run s = (r, s')) : (∃ a, r = .ok a ∧ f s.disk = .ok a ∧ s' = s.record o none s.disk) ∨
      ∃ e, r = .error e ∧ s' = s.record o (some e) s.disk := by
  rcases performCases ends with ⟨_, same, rfl⟩ | ⟨mishap, _, same, rfl⟩
  · cases looked : f s.disk with
    | ok a =>
      obtain rfl : r = .ok a := same.trans looked
      exact .inl ⟨a, rfl, rfl, rfl⟩
    | error e =>
      obtain rfl : r = .error e := same.trans looked
      exact .inr ⟨e, rfl, rfl⟩
  · refine .inr ⟨mishap.fault, same, ?_⟩
    cases h : mishap.progress <;> simp [record, leftOf, h]

theorem lookDisk {o : Operation} {f : Disk → Except Disk.Fault α} {r : Except Disk.Fault α}
    (ends : (look o f).run s = (r, s')) : s'.disk = s.disk := by
  rcases lookCases ends with ⟨_, _, _, rfl⟩ | ⟨_, _, rfl⟩
  · rfl
  · rfl

/- Runs put together -/

def Quiet (s : Session) : Prop := ∀ n, s.mishaps n = none

theorem bindEnds {x : Program ε α} {f : α → Program ε β} {a : α} {t : Session} {r : Except ε β}
    (first : Ends x s (.ok a) t) (next : Ends (f a) t r s') : Ends (x >>= f) s r s' := by
  unfold Ends at *
  rw [ExceptT.run_bind, StateT.run_bind, first]
  exact next

theorem bindThrows {x : Program ε α} {f : α → Program ε β} {e : ε} (fails : Ends x s (.error e) s') :
    Ends (x >>= f) s (.error e) s' := by
  unfold Ends at *
  rw [ExceptT.run_bind, StateT.run_bind, fails]
  rfl

theorem attemptEnds {fault : Disk.Fault → ε} {answer : StateM Session (Except Disk.Fault α)} {a : α}
    (ran : answer.run s = (.ok a, s')) : Ends (Host.attempt fault answer) s (.ok a) s' := by
  unfold Ends Host.attempt
  rw [ExceptT.run_mk, StateT.run_bind, ran]
  rfl

theorem attemptThrows {fault : Disk.Fault → ε} {answer : StateM Session (Except Disk.Fault α)} {e : Disk.Fault}
    (ran : answer.run s = (.error e, s')) : Ends (Host.attempt fault answer) s (.error (fault e)) s' := by
  unfold Ends Host.attempt
  rw [ExceptT.run_mk, StateT.run_bind, ran]
  rfl

theorem adaptEnds {f : ε → ε'} {x : Program ε α} {a : α} (ends : Ends x s (.ok a) s') :
    Ends (x.adapt f) s (.ok a) s' := by
  change (Except.mapError f <$> x.run).run s = _
  rw [StateT.run_map, ends]
  rfl

theorem unlessEnds {refused : Prop} [Decidable refused] {e : ε} {f : PUnit → Program ε α} {r : Except ε α}
    (accepted : ¬ refused) (next : Ends (f ⟨⟩) s r s') :
    Ends (if refused then throw e >>= f else f ⟨⟩) s r s' := by rwa [if_neg accepted]

theorem forMRuns {f : β → Program ε PUnit} {items : List β} (holds : Session → Prop) (start : holds s)
    (each : ∀ item ∈ items, ∀ ⦃s⦄, holds s → ∃ s', Ends (f item) s (.ok ⟨⟩) s' ∧ holds s') :
    ∃ s', Ends (items.forM f) s (.ok ⟨⟩) s' ∧ holds s' := by
  induction items generalizing s with
  | nil => exact ⟨s, rfl, start⟩
  | cons item rest ih =>
    obtain ⟨t, first, between⟩ := each item List.mem_cons_self start
    obtain ⟨s', later, after⟩ := ih between fun other h => each other (List.mem_cons_of_mem _ h)
    exact ⟨s', bindEnds first later, after⟩

@[simp] theorem recordDisk (s : Session) (o : Operation) (fault : Option Disk.Fault) (d : Disk) :
    (s.record o fault d).disk = d := rfl

theorem quietRecord (quiet : s.Quiet) (o : Operation) (fault : Option Disk.Fault) (d : Disk) :
    (s.record o fault d).Quiet := quiet

theorem unlessThrows {refused : Prop} [Decidable refused] {e : ε} {f : PUnit → Program ε α} (unfit : refused) :
    Ends (if refused then throw e >>= f else f ⟨⟩) s (.error e) s := by
  rw [if_pos unfit]
  exact bindThrows rfl

theorem performAt {o : Operation} {run : Disk → Except Disk.Fault α × Disk} {stopped : Nat → Disk → Disk}
    {a : α} {d : Disk} (clear : s.mishaps s.history.length = none) (ok : run s.disk = (.ok a, d)) :
    (perform o run stopped).run s = (.ok a, s.record o none d) := by
  change perform o run stopped s = _
  unfold perform
  rw [clear]
  simp only [ok]
  rfl

theorem lookStopped {o : Operation} {f : Disk → Except Disk.Fault α} {mishap : Mishap}
    (given : s.mishaps s.history.length = some mishap) :
    (look o f).run s = (.error mishap.fault, s.record o (some mishap.fault) s.disk) := by
  change look o f s = _
  unfold look perform
  rw [given]
  cases found : mishap.progress <;> simp only [found]

theorem performRuns {o : Operation} {run : Disk → Except Disk.Fault α × Disk} {stopped : Nat → Disk → Disk}
    {a : α} {d : Disk} (quiet : s.Quiet) (ok : run s.disk = (.ok a, d)) :
    (perform o run stopped).run s = (.ok a, s.record o none d) := performAt (quiet _) ok

theorem lookRuns {o : Operation} {f : Disk → Except Disk.Fault α} {a : α} (quiet : s.Quiet)
    (ok : f s.disk = .ok a) : (look o f).run s = (.ok a, s.record o none s.disk) :=
  performRuns quiet (by rw [ok])

theorem lookFails {o : Operation} {f : Disk → Except Disk.Fault α} {e : Disk.Fault} (quiet : s.Quiet)
    (failed : f s.disk = .error e) : (look o f).run s = (.error e, s.record o (some e) s.disk) := by
  change look o f s = _
  unfold look perform
  rw [quiet]
  simp only [failed]
  rfl

theorem changeAt {o : Operation} {f : Disk → Except Disk.Fault Disk} {stopped : Nat → Disk → Disk} {d : Disk}
    (clear : s.mishaps s.history.length = none) (ok : f s.disk = .ok d) :
    (change o f stopped).run s = (.ok (), s.record o none d) :=
  performAt clear (by rw [ok])

theorem changeRuns {o : Operation} {f : Disk → Except Disk.Fault Disk} {stopped : Nat → Disk → Disk} {d : Disk}
    (quiet : s.Quiet) (ok : f s.disk = .ok d) : (change o f stopped).run s = (.ok (), s.record o none d) :=
  changeAt (quiet _) ok

/- What is kept -/

def Keeps (R : Session → Session → Prop) (x : Program ε α) : Prop :=
  ∀ ⦃s r s'⦄, Ends x s r s' → R s s'

structure Composes (R : Session → Session → Prop) : Prop where
  refl : ∀ s, R s s
  trans : ∀ {a b c}, R a b → R b c → R a c

variable {R : Session → Session → Prop}

theorem keepsPure (composes : Composes R) (a : α) : Keeps R (pure a : Program ε α) := by
  intro s r s' ends
  rw [(endsPure ends).2]
  exact composes.refl s

theorem keepsThrow (composes : Composes R) (e : ε) : Keeps R (throw e : Program ε α) := by
  intro s r s' ends
  rw [(endsThrow ends).2]
  exact composes.refl s

theorem keepsBind (composes : Composes R) {x : Program ε α} {f : α → Program ε β} (first : Keeps R x)
    (next : ∀ a, Keeps R (f a)) : Keeps R (x >>= f) := by
  intro s r s' ends
  rcases endsBind ends with ⟨e, failed, _⟩ | ⟨a, t, went, after⟩
  · exact first failed
  · exact composes.trans (first went) (next a after)

theorem keepsUnless (composes : Composes R) {refused : Prop} [Decidable refused] {e : ε}
    {f : PUnit → Program ε α} (next : ∀ u, Keeps R (f u)) :
    Keeps R (if refused then throw e >>= f else f ⟨⟩) := by
  split
  · exact keepsBind composes (keepsThrow composes e) next
  · exact next ⟨⟩

theorem keepsForM (composes : Composes R) {f : β → Program ε PUnit} {items : List β}
    (each : ∀ item ∈ items, Keeps R (f item)) : Keeps R (items.forM f) := by
  induction items with
  | nil => exact keepsPure composes _
  | cons item rest ih =>
    have head := each item List.mem_cons_self
    have tail := ih fun other h => each other (List.mem_cons_of_mem _ h)
    exact keepsBind composes head fun _ => tail

/-- Whatever one step has done, and the later steps keep, is done after a run that comes to its end. -/
theorem forMEach (composes : Composes R) (holds : Session → Prop) (done : β → Session → Prop)
    {f : β → Program ε PUnit} {items : List β}
    (each : ∀ item ∈ items, ∀ ⦃s s'⦄, holds s → Ends (f item) s (.ok ⟨⟩) s' → holds s' ∧ R s s' ∧ done item s')
    (kept : ∀ item ⦃s s'⦄, R s s' → done item s → done item s') (start : holds s)
    (ends : Ends (items.forM f) s (.ok ⟨⟩) s') : holds s' ∧ R s s' ∧ ∀ item ∈ items, done item s' := by
  induction items generalizing s with
  | nil =>
    rw [(endsPure ends).2]
    exact ⟨start, composes.refl s, by simp⟩
  | cons item rest ih =>
    obtain ⟨_, t, first, later⟩ := endsBindOk ends
    obtain ⟨between, before, made⟩ := each item List.mem_cons_self start first
    obtain ⟨after, rest', others⟩ := ih (fun other h => each other (List.mem_cons_of_mem _ h)) between later
    refine ⟨after, composes.trans before rest', fun other member => ?_⟩
    rcases List.mem_cons.1 member with rfl | inner
    · exact kept _ rest' made
    · exact others other inner

end ClassScaffold.Session
