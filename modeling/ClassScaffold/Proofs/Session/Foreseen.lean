import ClassScaffold.Proofs.Session.Run
/-! A run depends on no mishaps but those of its own operations. When a machine is given other mishaps for what
comes later, it takes the same steps until then. -/
namespace ClassScaffold.Session

def given (s : Session) (mishaps : Nat → Option Mishap) : Session := { s with mishaps }

structure Foretells {α : Type} (x : StateM Session α) (s : Session) (a : α) (s' : Session) : Prop where
  kept : s'.mishaps = s.mishaps
  longer : s.history.length ≤ s'.history.length
  same : ∀ mishaps, (∀ n < s'.history.length, mishaps n = s.mishaps n) →
    x.run (s.given mishaps) = (a, s'.given mishaps)

def Foreseen {α : Type} (x : StateM Session α) : Prop := ∀ ⦃s a s'⦄, x.run s = (a, s') → Foretells x s a s'

variable {ε ε' α β : Type}

theorem foreseenPure (a : α) : Foreseen (pure a : StateM Session α) := by
  intro s b s' ran
  cases ran
  exact ⟨rfl, Nat.le_refl _, fun _ _ => rfl⟩

theorem foreseenBind {x : StateM Session α} {f : α → StateM Session β} (first : Foreseen x)
    (next : ∀ a, Foreseen (f a)) : Foreseen (x >>= f) := by
  intro s b s' ran
  rcases before : x.run s with ⟨a, t⟩
  rw [runBind, before] at ran
  obtain ⟨keptA, longerA, sameA⟩ := first before
  obtain ⟨keptB, longerB, sameB⟩ := next a ran
  refine ⟨keptB.trans keptA, Nat.le_trans longerA longerB, fun mishaps agree => ?_⟩
  rw [runBind, sameA mishaps fun n early => agree n (Nat.lt_of_lt_of_le early longerB)]
  exact sameB mishaps fun n early => keptA ▸ agree n early

theorem foreseenPerform (o : Operation) (run : Disk → Except Disk.Fault α × Disk) (stopped : Nat → Disk → Disk) :
    Foreseen (perform o run stopped) := by
  intro s a s' ran
  have here : s.history.length < s'.history.length ∧ s'.mishaps = s.mishaps := by
    rcases performCases ran with ⟨_, _, rfl⟩ | ⟨_, _, _, rfl⟩ <;> simp [record]
  refine ⟨here.2, Nat.le_of_lt here.1, fun mishaps agree => ?_⟩
  change perform o run stopped (s.given mishaps) = _
  have next : (s.given mishaps).mishaps (s.given mishaps).history.length = s.mishaps s.history.length :=
    agree _ here.1
  rcases performCases ran with ⟨none, rfl, rfl⟩ | ⟨mishap, found, rfl, rfl⟩
  · unfold perform
    rw [next, none]
    rfl
  · unfold perform
    rw [next, found]
    rfl

theorem foreseenChange (o : Operation) (f : Disk → Except Disk.Fault Disk) (stopped : Nat → Disk → Disk) :
    Foreseen (change o f stopped) := by
  unfold change
  exact foreseenPerform ..

theorem foreseenLook (o : Operation) (f : Disk → Except Disk.Fault α) : Foreseen (look o f) := by
  unfold look
  exact foreseenPerform ..

theorem foreseenMakeDirectory (p : Path) : Foreseen (Host.makeDirectory p : StateM Session _) := foreseenChange ..

theorem foreseenMakeDirectories (p : Path) : Foreseen (Host.makeDirectories p : StateM Session _) :=
  foreseenPerform ..

theorem foreseenWriteFile (p : Path) (contents : Text.Utf8.Bytes) :
    Foreseen (Host.writeFile p contents : StateM Session _) := foreseenChange ..

theorem foreseenReadFile (p : Path) : Foreseen (Host.readFile p : StateM Session _) := foreseenLook ..

theorem foreseenNodesBelow (p : Path) : Foreseen (Host.nodesBelow p : StateM Session _) := foreseenLook ..

theorem foreseenReadBelow (p : Path) (l : Disk.Location) : Foreseen (Host.readBelow p l : StateM Session _) :=
  foreseenLook ..

theorem foreseenEnterBelow (p : Path) (l : Disk.Location) : Foreseen (Host.enterBelow p l : StateM Session _) :=
  foreseenLook ..

theorem foreseenRemoveTree (p : Path) : Foreseen (Host.removeTree p : StateM Session Unit) := by
  intro s a s' ran
  cases ran
  exact ⟨rfl, by simp [record], fun _ _ => rfl⟩

theorem foreseenNewId : Foreseen (Host.newId : StateM Session Uuid) := by
  intro s a s' ran
  cases ran
  exact ⟨rfl, Nat.le_refl _, fun _ _ => rfl⟩

/- Programs -/

theorem foreseenThen {x : Program ε α} {f : α → Program ε β} (first : Foreseen x.run)
    (next : ∀ a, Foreseen (f a).run) : Foreseen (x >>= f).run := by
  rw [ExceptT.run_bind]
  refine foreseenBind first fun answer => ?_
  cases answer with
  | ok a => exact next a
  | error e => exact foreseenPure _

theorem foreseenReturn (r : Except ε α) : Foreseen (ExceptT.mk (pure r) : Program ε α).run := foreseenPure r

theorem foreseenAttempt {fault : Disk.Fault → ε} {answer : StateM Session (Except Disk.Fault α)}
    (asked : Foreseen answer) : Foreseen (Host.attempt fault answer).run :=
  foreseenBind asked fun _ => foreseenPure _

theorem foreseenLift {x : StateM Session α} (foreseen : Foreseen x) : Foreseen (liftM x : Program ε α).run :=
  foreseenBind foreseen fun _ => foreseenPure _

theorem foreseenAdapt {f : ε → ε'} {x : Program ε α} (foreseen : Foreseen x.run) : Foreseen (x.adapt f).run :=
  foreseenBind foreseen fun _ => foreseenPure _

theorem foreseenUnless {refused : Prop} [Decidable refused] {e : ε} {f : PUnit → Program ε α}
    (next : ∀ u, Foreseen (f u).run) : Foreseen (if refused then throw e >>= f else f ⟨⟩).run := by
  split
  · exact foreseenThen (foreseenReturn (.error e)) next
  · exact next ⟨⟩

theorem foreseenForM {f : β → Program ε PUnit} (each : ∀ item, Foreseen (f item).run) (items : List β) :
    Foreseen (items.forM f).run := by
  induction items with
  | nil => exact foreseenPure _
  | cons item rest ih => exact foreseenThen (each item) fun _ => ih

end ClassScaffold.Session
