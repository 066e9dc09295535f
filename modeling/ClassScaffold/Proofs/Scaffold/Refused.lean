import ClassScaffold.Proofs.Generator.Phase
/-! Which name a request is refused for. All names are checked in one order before anything is touched, so a
refusal names the first of them that does not pass, and nothing has been asked of the machine by then. -/
namespace ClassScaffold
open ClassScaffold.Path (InvalidSegment)
open Session (Ends Program)

namespace Path

/-- Refused as a part of a path, whichever path it would go on from. -/
def InvalidSegment.isRefused (x : InvalidSegment) : Bool := !((⟨""⟩ : Path).joinSegment x.segment x.context).isOk

theorem joinSegmentRefused (p : Path) (x : InvalidSegment) (refused : x.isRefused = true) :
    p.joinSegment x.segment x.context = .error x := by
  simp only [InvalidSegment.isRefused, joinSegment] at *
  split at refused
  · next unfit => rw [if_pos unfit]
  · contradiction

theorem joinSegmentAccepted (p : Path) (x : InvalidSegment) (accepted : x.isRefused = false) :
    ∃ q, p.joinSegment x.segment x.context = .ok q := by
  simp only [InvalidSegment.isRefused, joinSegment] at *
  split at accepted
  · contradiction
  · next fit => exact ⟨_, by rw [if_neg fit]⟩

end Path

/- Checks in a row -/

/-- The answer depends on the names alone: it is the first refused one, or there is an answer. -/
inductive Checks {α : Type} (names : List InvalidSegment) : Except InvalidSegment α → Prop where
  | refused (x) (first : names.find? InvalidSegment.isRefused = some x) : Checks names (.error x)
  | passed (a) (none : names.find? InvalidSegment.isRefused = none) : Checks names (.ok a)

namespace Checks

variable {α β : Type} {names more : List InvalidSegment}

theorem nothing (a : α) : Checks [] (.ok a) := .passed a rfl

theorem segment (p : Path) (segment context : String) :
    Checks [⟨context, segment⟩] (p.joinSegment segment context) := by
  cases refused : InvalidSegment.isRefused ⟨context, segment⟩ with
  | true =>
    rw [Path.joinSegmentRefused p ⟨context, segment⟩ refused]
    exact .refused _ (List.find?_cons_of_pos refused)
  | false =>
    obtain ⟨q, ok⟩ := Path.joinSegmentAccepted p ⟨context, segment⟩ refused
    rw [ok]
    exact .passed q (List.find?_cons_of_neg (by simp [refused]))

theorem bind {x : Except InvalidSegment α} {f : α → Except InvalidSegment β} (checks : Checks names x)
    (next : ∀ a, x = .ok a → Checks more (f a)) : Checks (names ++ more) (x >>= f) := by
  cases checks with
  | refused x first => exact .refused x (by rw [List.find?_append, first]; rfl)
  | passed a none =>
    change Checks _ (f a)
    have found : (names ++ more).find? InvalidSegment.isRefused = more.find? InvalidSegment.isRefused := by
      rw [List.find?_append, none, Option.none_or]
    cases last : f a with
    | error x =>
      have later := next a rfl
      rw [last] at later
      cases later with
      | refused _ first => exact .refused x (by rw [found, first])
    | ok b =>
      have later := next a rfl
      rw [last] at later
      cases later with
      | passed _ none => exact .passed b (by rw [found, none])

theorem sameNames {answer : Except InvalidSegment α}
    (same : names.find? InvalidSegment.isRefused = more.find? InvalidSegment.isRefused)
    (checks : Checks names answer) : Checks more answer := by
  cases checks with
  | refused x first => exact .refused x (by rw [← same, first])
  | passed a none => exact .passed a (by rw [← same, none])

theorem close {answer : Except InvalidSegment α} (checks : Checks (names ++ []) answer) : Checks names answer := by
  rwa [List.append_nil] at checks

/-- The same names may be checked once more. -/
theorem again {answer : Except InvalidSegment α} (checks : Checks (names ++ names) answer) :
    Checks names answer := by
  refine sameNames ?_ checks
  rw [List.find?_append, Option.or_self]

theorem descend (start : Path) (segments : List String) :
    Checks (segments.map (InvalidSegment.mk "package segment")) (Layout.descend start segments) := by
  unfold Layout.descend
  induction segments generalizing start with
  | nil => exact nothing start
  | cons first rest ih =>
    rw [List.foldlM_cons, List.map_cons]
    exact bind (segment start first _) fun p _ => ih p

theorem classes (l : Layout) (namings : List Naming) :
    Checks (namings.map fun n => ⟨"class name", n.group⟩) (namings.mapM l.classDirectory) := by
  induction namings with
  | nil => exact nothing []
  | cons n rest ih =>
    rw [List.mapM_cons, List.map_cons]
    exact bind (segment _ _ _) fun p _ => close (bind ih fun others _ => nothing (p :: others))

theorem entries (l : Layout) (p : Project) :
    Checks [⟨"project name", p.entryFile⟩, ⟨"project name", p.entryTestFile⟩] (l.entries p) := by
  refine bind (segment l.packageDirectory _ _) fun main _ => ?_
  exact close (bind (segment l.testPackageDirectory _ _) fun test _ => nothing (Layout.Entries.mk main test))

end Checks

/- The names of a request -/

namespace Plan

/-- The names that a request is made of, in the order of the checks, each as it would be refused. -/
def names (r : Request) (database : Database) : List InvalidSegment :=
  let segments := Package.segments r.package
  let project : Project := ⟨r.project, Package.ofSegments segments, database⟩
  segments.map (InvalidSegment.mk "package segment") ++
    ([⟨"project name", project.entryFile⟩, ⟨"project name", project.entryTestFile⟩] ++
      (namings r).map fun n => ⟨"class name", n.group⟩)

/-- The first name of a request that is refused. A package without segments is refused as a whole. -/
def refusal? (r : Request) (database : Database) : Option InvalidSegment :=
  if Package.segments r.package = [] then some ⟨"package name", r.package⟩
  else (names r database).find? InvalidSegment.isRefused

variable {root : Path} {r : Request} {database : Database}

theorem ofRequestChecks (root : Path) (database : Database) (some : Package.segments r.package ≠ []) :
    Checks (names r database) (ofRequest root r database) := by
  have package (l : Layout) (ok : Layout.ofPackage root r.package = .ok l) :
      l.package = Package.ofSegments (Package.segments r.package) := by
    obtain ⟨_, _, package⟩ := Layout.ofPackageNames ok
    exact package.named
  have layout : Checks ((Package.segments r.package).map (InvalidSegment.mk "package segment"))
      (Layout.ofPackage root r.package) := by
    simp only [Layout.ofPackage, List.isEmpty_iff, some, if_false]
    exact Checks.again (Checks.bind (Checks.descend _ _) fun main _ =>
      Checks.close (Checks.bind (Checks.descend _ _) fun test _ => Checks.nothing _))
  refine Checks.bind layout fun l ok => ?_
  simp only [package l ok]
  exact Checks.bind (Checks.entries l _) fun e _ =>
    Checks.close (Checks.bind (Checks.classes l _) fun directories _ => Checks.nothing _)

theorem ofRequestRefused (root : Path) (database : Database) {x : InvalidSegment}
    (refused : refusal? r database = some x) : ofRequest root r database = .error x := by
  unfold refusal? at refused
  split at refused
  · next none =>
    cases refused
    simp [ofRequest, Layout.ofPackage, none]
    rfl
  · next some =>
    generalize answer : ofRequest root r database = found
    have checks := ofRequestChecks root database some
    rw [answer] at checks
    cases checks with
    | refused y first => rw [Option.some.inj (first.symm.trans refused)]
    | passed plan none => cases none.symm.trans refused

theorem ofRequestPasses (root : Path) (database : Database) (passes : refusal? r database = none) :
    ∃ plan, ofRequest root r database = .ok plan := by
  unfold refusal? at passes
  split at passes
  · cases passes
  · next some =>
    generalize answer : ofRequest root r database = found
    have checks := ofRequestChecks root database some
    rw [answer] at checks
    cases checks with
    | refused y first => cases first.symm.trans passes
    | passed plan none => exact ⟨plan, rfl⟩

end Plan

namespace Scaffold

variable {root : Path} {r : Request} {database : Database} {s s' : Session}

/- What carrying out a plan can fail with -/

theorem forMFails {ε β : Type} {f : β → Program ε PUnit} {items : List β} {e : ε}
    (ends : Ends (items.forM f) s (.error e) s') : ∃ item ∈ items, ∃ t, Ends (f item) t (.error e) s' := by
  induction items generalizing s with
  | nil =>
    obtain ⟨impossible, _⟩ := Session.endsPure ends
    contradiction
  | cons item rest ih =>
    rcases Session.endsBind ends with ⟨_, failed, same⟩ | ⟨_, t, _, later⟩
    · cases same
      exact ⟨item, List.mem_cons_self, s, failed⟩
    · obtain ⟨other, member, found⟩ := ih later
      exact ⟨other, List.mem_cons_of_mem _ member, found⟩

theorem makeDirectoriesFault {p : Path} {e : FilingFault}
    (ends : Ends (makeDirectories p : Program FilingFault Unit) s (.error e) s') : ∃ f, e = .createDirectory p f := by
  obtain ⟨f, same, _⟩ := Session.attemptError ends
  exact ⟨f, same⟩

theorem writeFault {f : PlannedFile} {e : FilingFault}
    (ends : Ends (write f : Program FilingFault Unit) s (.error e) s') (x : InvalidSegment) :
    e ≠ .invalidSegment x := by
  unfold write at ends
  split at ends
  · rcases Session.endsBind ends with ⟨_, failed, same⟩ | ⟨_, t, _, later⟩
    · cases same
      obtain ⟨_, rfl⟩ := makeDirectoriesFault failed
      simp
    · obtain ⟨_, rfl, _⟩ := Session.attemptError later
      simp
  · obtain ⟨_, rfl, _⟩ := Session.attemptError ends
    simp

theorem carryOutFault {plan : Plan} {e : FilingFault}
    (ends : Ends (carryOut plan : Program FilingFault PUnit) s (.error e) s') (x : InvalidSegment) :
    e ≠ .invalidSegment x := by
  rcases Session.endsBind ends with ⟨_, failed, same⟩ | ⟨_, t, _, later⟩
  · cases same
    obtain ⟨p, _, _, failed⟩ := forMFails failed
    obtain ⟨_, rfl⟩ := makeDirectoriesFault failed
    simp
  · obtain ⟨f, _, _, failed⟩ := forMFails later
    exact writeFault failed x

theorem plannedFault {plan : Plan} {result : Except FilingFault (List Path)}
    (ok : Plan.ofRequest root r database = .ok plan) (ends : Ends (fill root r database) s result s')
    (x : InvalidSegment) : result ≠ .error (.invalidSegment x) := by
  rintro rfl
  unfold fill at ends
  rw [ok] at ends
  rcases Session.endsBind ends with ⟨_, failed, same⟩ | ⟨_, _, _, impossible⟩
  · cases same
    exact carryOutFault failed x rfl
  · cases (Session.endsPure impossible).1

/-- On every machine and whatever goes wrong on it, a request is refused for a name exactly when that name is
the first one that does not pass, and then nothing was asked of the machine. -/
theorem fillRefuses {result : Except FilingFault (List Path)} (ends : Ends (fill root r database) s result s') :
    (∀ x, Plan.refusal? r database = some x ↔ result = .error (.invalidSegment x)) ∧
    (∀ x, Plan.refusal? r database = some x → s' = s) ∧
    (s'.disk ≠ s.disk → ∀ x, result ≠ .error (.invalidSegment x)) := by
  cases found : Plan.refusal? r database with
  | some x =>
    obtain ⟨rfl, rfl⟩ := Generator.refusedFill (Plan.ofRequestRefused root database found) ends
    simp
  | none =>
    obtain ⟨plan, ok⟩ := Plan.ofRequestPasses root database found
    have never := plannedFault ok ends
    exact ⟨fun x => ⟨by simp, fun same => absurd same (never x)⟩, by simp, fun _ => never⟩

/-- The package passes, and both the project and the classes do not. -/
def offending : Request := ⟨some "a/b", some "p", [⟨["c"], [], []⟩, ⟨[".."], [], []⟩]⟩

theorem fillRefusesOffending : ∃ result,
    Ends (fill ⟨"/"⟩ offending .postgresql : Program FilingFault (List Path)) blank result blank ∧
      result = .error (.invalidSegment ⟨"project name", "A/bApplication.java"⟩) := by
  rcases run : (fill ⟨"/"⟩ offending .postgresql : Program FilingFault (List Path)).run.run blank
    with ⟨result, s'⟩
  have first : Plan.refusal? offending .postgresql =
      some ⟨"project name", "A/bApplication.java"⟩ := by decide +kernel
  obtain ⟨refused, untouched, _⟩ := fillRefuses run
  obtain rfl := untouched _ first
  exact ⟨result, run, (refused _).1 first⟩

end Scaffold
end ClassScaffold
