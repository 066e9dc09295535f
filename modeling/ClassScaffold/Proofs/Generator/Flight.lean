import ClassScaffold.Proofs.Disk.Restore
import ClassScaffold.Proofs.Scaffold.Confined
import Mathlib.Logic.Function.Basic
/-! The files of a group are written side by side. When one of them fails nothing waits for the others any more, but
what they have submitted still runs at some time. Removing the workspace is the last word only when nothing is in
flight by then: an operation that comes later makes the directories around its file again. -/
namespace ClassScaffold.Generator
open Disk (Alike Confined)
open Function (update)
open Text.Utf8 (encode)

/-- How far the write of one file has come. -/
inductive Writing
  | toMake
  | made (result : Except Disk.Fault Unit)
  | toWrite
  | wrote (result : Except Disk.Fault Unit)
  deriving DecidableEq, Repr

/-- An operation has been submitted and has not run. -/
def Writing.inFlight : Writing → Bool
  | toMake | toWrite => true
  | made _ | wrote _ => false

structure Flight where
  session : Session
  writings : Nat → Writing
  /-- The writes are waited for, so that each goes on when its directories are there. -/
  waited : Bool
  removed : Bool

namespace Flight

/-- All writes have submitted their first operation. -/
def start (s : Session) : Flight := ⟨s, fun _ => .toMake, true, false⟩

def making (x : Flight) (i : Nat) (parent : Path) : Flight :=
  let moved := (Host.makeDirectories parent : StateM Session _).run x.session
  { x with session := moved.2, writings := update x.writings i (.made moved.1) }

def writing (x : Flight) (i : Nat) (f : PlannedFile) : Flight :=
  let moved := (Host.writeFile f.path (encode f.text) : StateM Session _).run x.session
  { x with session := moved.2, writings := update x.writings i (.wrote moved.1) }

def goingOn (x : Flight) (i : Nat) : Flight := { x with writings := update x.writings i .toWrite }

def failing (x : Flight) : Flight := { x with waited := false }

def removing (x : Flight) (root : Path) : Flight :=
  { x with session := ((Host.removeTree root : StateM Session _).run x.session).2, removed := true }

def Landed (files : List PlannedFile) (x : Flight) : Prop := ∀ i < files.length, (x.writings i).inFlight = false

/-- What was submitted runs, or a write goes on, or the first failure is seen, or the workspace is removed, at a time
that `may` allows. -/
inductive Step (root : Path) (files : List PlannedFile) (may : Flight → Prop) (x : Flight) : Flight → Prop
  | makes {i f parent} (file : files[i]? = some f) (above : f.path.parent? = some parent)
      (submitted : x.writings i = .toMake) : Step root files may x (x.making i parent)
  | writes {i f} (file : files[i]? = some f) (submitted : x.writings i = .toWrite) :
      Step root files may x (x.writing i f)
  | goesOn {i} (waited : x.waited = true) (made : x.writings i = .made (.ok ())) : Step root files may x (x.goingOn i)
  | fails {i e} (waited : x.waited = true)
      (failed : x.writings i = .made (.error e) ∨ x.writings i = .wrote (.error e)) : Step root files may x x.failing
  | removes (left : x.waited = false) (once : x.removed = false) (now : may x) : Step root files may x (x.removing root)

inductive Runs (root : Path) (files : List PlannedFile) (may : Flight → Prop) (x : Flight) : Flight → Prop
  | refl : Runs root files may x x
  | step {y z : Flight} (before : Runs root files may x y) (next : Step root files may y z) : Runs root files may x z

variable {root : Path} {files : List PlannedFile} {a b : Disk} {s : Session} {x y : Flight}

/-- Until the workspace is removed only its inside changes, and afterwards nothing does. -/
structure Sound (files : List PlannedFile) (root : Path) (a b : Disk) (x : Flight) : Prop where
  before : x.removed = false → Confined root b x.session.disk
  after : x.removed = true → x.waited = false ∧ Landed files x ∧ Alike a x.session.disk

/-- An operation that runs was in flight, so the workspace has not been removed. -/
theorem soundRan {i : Nat} {f : PlannedFile} (sound : Sound files root a b x) (file : files[i]? = some f)
    (submitted : (x.writings i).inFlight = true) (same : y.removed = x.removed)
    (confined : Confined root b x.session.disk → Confined root x.session.disk y.session.disk) :
    Sound files root a b y := by
  have open' : x.removed = false := by
    by_contra removed
    have landed := (sound.after (by simpa using removed)).2.1 i (List.getElem?_eq_some_iff.1 file).1
    cases submitted.symm.trans landed
  have inside := sound.before open'
  refine ⟨fun _ => Disk.confinedTrans inside (confined inside), fun removed => ?_⟩
  cases (same.trans open').symm.trans removed

section
variable (wf : a.WellFormed) (fresh : a.makeDirectory root = .ok b)
  (within : ∀ f ∈ files, ∃ names, names ≠ [] ∧ root.Within names f.path)
include wf fresh within

theorem stepSound (sound : Sound files root a b x) (step : Step root files (Landed files) x y) :
    Sound files root a b y := by
  cases step with
  | makes file above submitted =>
    refine soundRan sound file (by rw [submitted]; rfl) rfl fun inside => ?_
    obtain ⟨names, some, inRoot⟩ := within _ (List.mem_of_getElem? file)
    obtain ⟨_, found, around⟩ := Scaffold.writeWithin some inRoot
    obtain rfl := Option.some.inj (above.symm.trans found)
    obtain ⟨_, region, _⟩ := Disk.freshRegion wf fresh
    have there := Disk.regionThere (Disk.regionConfined region inside)
    exact Disk.madeConfined inside.wellFormed there around (Session.makeDirectoriesMade inside.wellFormed rfl)
  | writes file submitted =>
    refine soundRan sound file (by rw [submitted]; rfl) rfl fun inside => ?_
    obtain ⟨names, some, inRoot⟩ := within _ (List.mem_of_getElem? file)
    exact Session.writeFileConfined inside.wellFormed some inRoot rfl
  | goesOn waited | fails waited =>
    refine ⟨sound.before, fun removed => ?_⟩
    cases waited.symm.trans (sound.after removed).1
  | removes left once now =>
    refine ⟨nofun, fun _ => ⟨left, now, ?_⟩⟩
    exact Disk.removeRestores wf fresh (sound.before once)

theorem runsSound (confined : Confined root b s.disk) (runs : Runs root files (Landed files) (start s) x) :
    Sound files root a b x := by
  induction runs with
  | refl => exact ⟨fun _ => confined, nofun⟩
  | step _ next ih => exact stepSound wf fresh within ih next

/-- When nothing is in flight as the workspace is removed, nothing is left of it. -/
theorem landedCleans (confined : Confined root b s.disk) (runs : Runs root files (Landed files) (start s) x)
    (removed : x.removed = true) : Alike a x.session.disk :=
  ((runsSound wf fresh within confined runs).after removed).2.2

end

/- One write fails while the directories of another one are still to be made -/

def pair : List PlannedFile := [⟨⟨"/w/a"⟩, ""⟩, ⟨⟨"/w/b/c"⟩, ""⟩]

def opened : Disk := (Disk.empty .unlimited).put [encode "w"] .directory

def full : Disk.Fault := .other "No space left on device (os error 28)"

/-- The second operation, which is the write of the first file, fails. -/
def crowded : Session :=
  { Session.start opened fun _ => ⟨0⟩ with mishaps := fun n => if n = 1 then some ⟨full, none⟩ else none }

def seen : Flight := (((start crowded).making 0 ⟨"/w"⟩).goingOn 0).writing 0 ⟨⟨"/w/a"⟩, ""⟩

def late : Flight := (seen.failing.removing ⟨"/w"⟩).making 1 ⟨"/w/b"⟩

theorem lateRuns : Runs ⟨"/w"⟩ pair (fun _ => True) (start crowded) late := by
  have first : Runs ⟨"/w"⟩ pair (fun _ => True) (start crowded) ((start crowded).making 0 ⟨"/w"⟩) :=
    .step .refl (.makes rfl (by decide +kernel) rfl)
  have second : Runs ⟨"/w"⟩ pair (fun _ => True) (start crowded) seen :=
    .step (.step first (.goesOn rfl (by decide +kernel))) (.writes rfl rfl)
  have failed : seen.writings 0 = .wrote (.error full) := by decide +kernel
  exact .step (.step (.step second (.fails rfl (.inr failed))) (.removes rfl rfl trivial))
    (.makes rfl (by decide +kernel) rfl)

/-- At any other time the workspace may be there again once everything that was submitted has run. -/
theorem lateRemains : ¬ ∀ (a b : Disk) (root : Path) (files : List PlannedFile) (s : Session) (x : Flight),
    a.WellFormed → a.makeDirectory root = .ok b →
    (∀ f ∈ files, ∃ names, names ≠ [] ∧ root.Within names f.path) → Confined root b s.disk →
    Runs root files (fun _ => True) (start s) x → x.removed = true → Landed files x → Alike a x.session.disk := by
  intro all
  have wf := Disk.emptyWellFormed .unlimited
  have made : (Disk.empty .unlimited).makeDirectory ⟨"/w"⟩ = .ok opened := by decide +kernel
  have within : ∀ f ∈ pair, ∃ names, names ≠ [] ∧ Path.Within ⟨"/w"⟩ names f.path := by
    intro f member
    simp only [pair, List.mem_cons, List.not_mem_nil, or_false] at member
    rcases member with rfl | rfl
    · exact ⟨["a"], by decide, by unfold Path.Within; decide +kernel⟩
    · exact ⟨["b", "c"], by decide, by unfold Path.Within; decide +kernel⟩
  have landed : Landed pair late := by
    unfold Landed
    decide +kernel
  have alike := all _ opened ⟨"/w"⟩ pair crowded late wf made within
    (Disk.confinedRefl (Disk.makeDirectoryMade wf made).1.wellFormed _) lateRuns rfl landed
  have gone := alike.get [encode "w"]
  revert gone
  decide +kernel

end Flight
end ClassScaffold.Generator
