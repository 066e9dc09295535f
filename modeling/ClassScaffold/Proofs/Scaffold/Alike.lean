import ClassScaffold.Proofs.Request.Alike
import ClassScaffold.Proofs.Scaffold.Again
/-! Requests that are alike fill empty directories alike, whatever machines these are on: the same names are refused,
and where nothing is refused the trees are the same, name by name and byte by byte. -/
namespace ClassScaffold
open ClassScaffold.Path (InvalidSegment)
open Session (Ends Program)
open Disk (Location Region Shows place placeFrom)
open Request (Alike IsUnpackaged)
open Text.Utf8 (Bytes)

theorem Layout.ofPackageSame {root : Path} {p p' : String} (same : Package.segments p = Package.segments p')
    (some : Package.segments p ≠ []) : ofPackage root p = ofPackage root p' := by
  have some' : Package.segments p' ≠ [] := same ▸ some
  simp only [ofPackage, List.isEmpty_iff, same, some', if_false]

namespace Plan

variable {root root' : Path} {r r' : Request} {database : Database} {plan plan' : Plan}

theorem ofRequestAlike (root : Path) (database : Database) (alike : Alike r r')
    (same : Package.segments r.package = Package.segments r'.package) (some : Package.segments r.package ≠ []) :
    ofRequest root r database = ofRequest root r' database := by
  unfold ofRequest
  simp only [Layout.ofPackageSame same some, Request.projectSame alike, Request.namingsSame alike,
    Request.membersSame alike.classes]

theorem waysSame (ok : ofRequest root r database = .ok plan) (ok' : ofRequest root' r database = .ok plan') :
    Scaffold.waysOf root plan = Scaffold.waysOf root' plan' := by
  have files : plan.files.map (fun f => (placeFrom root f.path).tail) =
      plan'.files.map fun f => (placeFrom root' f.path).tail := by
    have placed := congrArg (List.map fun f => f.1.tail) (ofRequestSame ok ok')
    rwa [List.map_map, List.map_map] at placed
  obtain ⟨main, test, _, _, _, directories, named⟩ := plannedNames ok
  obtain ⟨main', test', _, _, _, directories', named'⟩ := plannedNames ok'
  obtain rfl := segmentsUnique named.main named'.main
  obtain rfl := segmentsUnique named.test named'.test
  rw [Scaffold.waysOf, Scaffold.waysOf, files, directories, directories']

theorem refusalUnsegmented (none : Package.segments r.package = []) (database : Database) :
    refusal? r database = some ⟨"package name", r.package⟩ := by
  rw [refusal?, if_pos none]

end Plan

namespace Scaffold

variable {root root' : Path} {r r' : Request} {database : Database} {l l' : Location} {s s' t t' : Session}
  {result result' : Except FilingFault (List Path)}

theorem fillRefused {x : InvalidSegment} (refused : Plan.refusal? r database = some x)
    (ends : Ends (fill root r database) s result s') : result = .error (.invalidSegment x) ∧ s' = s :=
  Generator.refusedFill (Plan.ofRequestRefused root database refused) ends

theorem fillAccepted (passes : Plan.refusal? r database = none) (ends : Ends (fill root r database) s result s')
    (x : InvalidSegment) : result ≠ .error (.invalidSegment x) := by
  obtain ⟨plan, ok⟩ := Plan.ofRequestPasses root database passes
  exact plannedFault ok ends x

/-- A run that only the machine can make fail. It has come to its end when none of its operations has failed,
and none fails in an empty directory where the machine takes every path of the plan. -/
structure Proceeds (root : Path) (r : Request) (database : Database) (s : Session)
    (result : Except FilingFault (List Path)) (s' : Session) : Prop where
  accepted : ∀ x, result ≠ .error (.invalidSegment x)
  untroubled : ∃ added, s'.history = s.history ++ added ∧
    ((∀ entry ∈ added, entry.fault = none) → ∃ paths, result = .ok paths)
  taken : s.Quiet → (∀ plan, Plan.ofRequest root r database = .ok plan → plan.IsTaken root s.disk.limits) →
    ∃ paths, result = .ok paths

theorem fillProceeds (region : Region s.disk root l) (empty : ∀ rel, rel ≠ [] → s.disk.get? (rel ++ l) = none)
    (passes : Plan.refusal? r database = none) (ends : Ends (fill root r database) s result s') :
    Proceeds root r database s result s' := by
  obtain ⟨plan, ok⟩ := Plan.ofRequestPasses root database passes
  refine ⟨fillAccepted passes ends, Generator.sureFill ok ends, fun quiet taken => ?_⟩
  obtain ⟨paths, _, succeeds⟩ := fillTaken region empty quiet ok (taken plan ok)
  cases ends.symm.trans succeeds
  exact ⟨paths, rfl⟩

theorem fillTrees {paths paths' : List Path} (alike : Alike r r')
    (same : Package.segments r.package = Package.segments r'.package) (some : Package.segments r.package ≠ [])
    (region : Region s.disk root l) (empty : ∀ rel, rel ≠ [] → s.disk.get? (rel ++ l) = none)
    (region' : Region t.disk root' l') (empty' : ∀ rel, rel ≠ [] → t.disk.get? (rel ++ l') = none)
    (ends : Ends (fill root r database) s (.ok paths) s') (ends' : Ends (fill root' r' database) t (.ok paths') t')
    {rel : Location} (other : rel ≠ []) : s'.disk.get? (rel ++ l) = t'.disk.get? (rel ++ l') := by
  obtain ⟨plan, ok, _, filled, tree⟩ := fillShows region empty ends
  obtain ⟨plan', ok', _, filled', tree'⟩ := fillShows region' empty' ends'
  rw [← Plan.ofRequestAlike root' database alike same some] at ok'
  rw [← Plan.waysSame ok ok', ← Plan.ofRequestSame ok ok'] at tree'
  exact Disk.showsAlike filled filled' tree tree' other

/-- Either both requests are refused before anything is touched, or neither is: then each is filled wherever the
machine refuses none of its operations, and whenever both are, what stands in the one directory stands in the
other. -/
theorem fillAlike (alike : Alike r r') (both : IsUnpackaged r ↔ IsUnpackaged r')
    (region : Region s.disk root l) (empty : ∀ rel, rel ≠ [] → s.disk.get? (rel ++ l) = none)
    (region' : Region t.disk root' l') (empty' : ∀ rel, rel ≠ [] → t.disk.get? (rel ++ l') = none)
    (ends : Ends (fill root r database) s result s') (ends' : Ends (fill root' r' database) t result' t') :
    (∃ x x', result = .error (.invalidSegment x) ∧ result' = .error (.invalidSegment x') ∧ s' = s ∧ t' = t) ∨
      Proceeds root r database s result s' ∧ Proceeds root' r' database t result' t' ∧
      ∀ paths paths', result = .ok paths → result' = .ok paths' →
        ∀ rel, rel ≠ [] → s'.disk.get? (rel ++ l) = t'.disk.get? (rel ++ l') := by
  have same := Request.segmentsSame alike both
  by_cases some : Package.segments r.package = []
  · obtain ⟨refused, rfl⟩ := fillRefused (Plan.refusalUnsegmented some database) ends
    obtain ⟨refused', rfl⟩ := fillRefused (Plan.refusalUnsegmented (same ▸ some) database) ends'
    exact .inl ⟨_, _, refused, refused', rfl, rfl⟩
  have plans := Plan.ofRequestAlike root' database alike same some
  cases refusal : Plan.refusal? r database with
  | some x =>
    obtain ⟨refused, rfl⟩ := fillRefused refusal ends
    obtain ⟨refused', rfl⟩ := Generator.refusedFill (plans ▸ Plan.ofRequestRefused root' database refusal) ends'
    exact .inl ⟨x, x, refused, refused', rfl, rfl⟩
  | none =>
    have passes' : Plan.refusal? r' database = none := by
      cases refusal' : Plan.refusal? r' database with
      | none => rfl
      | some x =>
        obtain ⟨plan, ok⟩ := Plan.ofRequestPasses root' database refusal
        cases ok.symm.trans (plans.trans (Plan.ofRequestRefused root' database refusal'))
    refine .inr ⟨fillProceeds region empty refusal ends, fillProceeds region' empty' passes' ends', ?_⟩
    rintro paths paths' rfl rfl rel other
    exact fillTrees alike same some region empty region' empty' ends ends' other

def spaced : Request := ⟨some " shop ", some " a . .b", [⟨["Order", "x"], [], []⟩]⟩

def plain : Request := ⟨some "shop", some "a.b", [⟨[" Order"], [], []⟩]⟩

theorem spacedPlain : Alike spaced plain where
  project := Text.sameCoreIff.2 (by decide)
  package := Package.sameSegmentsIff.2 (by decide)
  classes := .cons ⟨Text.sameCoreIff.2 (by decide), rfl, rfl⟩ .nil

def housed : Session := .start ((Disk.empty .usual).put [Text.Utf8.encode "w"] .directory) fun _ => ⟨0⟩

theorem housedEmpty (rel : Location) (some : rel ≠ []) : housed.disk.get? (rel ++ [Text.Utf8.encode "w"]) = none := by
  simp only [housed, Session.start]
  rw [Disk.getPut _ (by simp), if_neg (by simpa using some)]
  simp [Disk.get?, Disk.empty]

theorem housedRegion : Region housed.disk ⟨"/w"⟩ [Text.Utf8.encode "w"] := by
  refine ⟨?_, by decide +kernel, by decide +kernel, fun rel some target link => ?_⟩
  · exact Disk.putWellFormed (Disk.emptyWellFormed .usual) (Disk.getRoot _) (.inl rfl)
  · cases (housedEmpty rel some).symm.trans link

theorem fillAlikeSpaced : ∃ paths paths' s' t',
    Ends (fill ⟨"/"⟩ spaced .postgresql : Program FilingFault (List Path)) roomy (.ok paths) s' ∧
      Ends (fill ⟨"/w"⟩ plain .postgresql : Program FilingFault (List Path)) housed (.ok paths') t' ∧
      ∀ rel, rel ≠ [] → s'.disk.get? (rel ++ []) = t'.disk.get? (rel ++ [Text.Utf8.encode "w"]) := by
  rcases run : (fill ⟨"/"⟩ spaced .postgresql : Program FilingFault (List Path)).run.run roomy with ⟨result, s'⟩
  let filling : Program FilingFault (List Path) := fill ⟨"/w"⟩ plain .postgresql
  have clear : ∀ entry ∈ (filling.run.run housed).2.history, entry.fault = none := by decide +kernel
  rcases run' : filling.run.run housed with ⟨result', t'⟩
  rw [run'] at clear
  have packaged (r : Request) (dot : '.' ∈ (r.packageName.getD "").toList) : ¬ IsUnpackaged r := fun blank =>
    absurd (blank '.' dot) (by decide)
  have both : IsUnpackaged spaced ↔ IsUnpackaged plain :=
    iff_of_false (packaged spaced (by decide)) (packaged plain (by decide))
  have passes : Plan.refusal? spaced .postgresql = none := by decide +kernel
  obtain ⟨x, _, refused, _⟩ | ⟨first, second, same⟩ :=
    fillAlike spacedPlain both roomyRegion roomyEmpty housedRegion housedEmpty run run'
  · exact absurd refused (fillAccepted passes run x)
  · obtain ⟨paths, rfl⟩ := first.taken (fun _ => rfl) fun plan _ => Plan.takenUnlimited ⟨"/"⟩ plan
    obtain ⟨added, history, ok⟩ := second.untroubled
    obtain ⟨paths', rfl⟩ := ok fun entry member => clear entry (by simp [history, member])
    exact ⟨paths, paths', s', t', run, run', same paths paths' rfl rfl⟩

/-- A package of a single dot has no segments but empty ones, like a blank one, and is refused. -/
def dotted : Request := ⟨none, some ".", []⟩

def unnamed : Request := ⟨none, some "", []⟩

def strict : Session := { roomy with mishaps := fun n => if n = 0 then some ⟨.nameTooLong, none⟩ else none }

def Agree (result result' : Except FilingFault (List Path)) : Prop :=
  (∃ x x', result = .error (.invalidSegment x) ∧ result' = .error (.invalidSegment x')) ∨
    ∃ paths paths', result = .ok paths ∧ result' = .ok paths'

theorem fillDiffers :
    (¬ ∀ (r r' : Request) (database : Database) (root : Path) (l : Location) (s s' t' : Session)
      (result result' : Except FilingFault (List Path)), Alike r r' → Region s.disk root l →
      (∀ rel, rel ≠ [] → s.disk.get? (rel ++ l) = none) → s.disk.limits = .unlimited → s.Quiet →
      Ends (fill root r database) s result s' → Ends (fill root r' database) s result' t' → Agree result result') ∧
    ¬ ∀ (r : Request) (database : Database) (root : Path) (l : Location) (s s' : Session)
      (result : Except FilingFault (List Path)), Region s.disk root l →
      (∀ rel, rel ≠ [] → s.disk.get? (rel ++ l) = none) → Ends (fill root r database) s result s' →
      Agree result result := by
  constructor
  · intro agree
    rcases run : (fill ⟨"/"⟩ dotted .postgresql : Program FilingFault (List Path)).run.run roomy with ⟨result, s'⟩
    rcases run' : (fill ⟨"/"⟩ unnamed .postgresql : Program FilingFault (List Path)).run.run roomy with ⟨result', t'⟩
    have alike : Alike dotted unnamed := ⟨Text.sameCoreIff.2 rfl, Package.sameSegmentsIff.2 (by decide), .nil⟩
    have refusal : Plan.refusal? dotted .postgresql = some ⟨"package name", "."⟩ := by decide +kernel
    have passes : Plan.refusal? unnamed .postgresql = none := by decide +kernel
    obtain ⟨refused, _⟩ := fillRefused refusal run
    rcases agree dotted unnamed .postgresql ⟨"/"⟩ [] roomy s' t' result result' alike roomyRegion roomyEmpty rfl
      (fun _ => rfl) run run' with ⟨_, x', _, impossible⟩ | ⟨_, _, impossible, _⟩
    · exact fillAccepted passes run' x' impossible
    · cases refused.symm.trans impossible
  · intro agree
    rcases run : (fill ⟨"/"⟩ unnamed .postgresql : Program FilingFault (List Path)).run.run strict with ⟨result, s'⟩
    have passes : Plan.refusal? unnamed .postgresql = none := by decide +kernel
    have fails : ((fill ⟨"/"⟩ unnamed .postgresql : Program FilingFault (List Path)).run.run strict).1.isOk = false := by
      decide +kernel
    rw [run] at fails
    rcases agree unnamed .postgresql ⟨"/"⟩ [] strict s' result roomyRegion roomyEmpty run with
      ⟨x, _, impossible, _⟩ | ⟨paths, _, impossible, _⟩
    · exact fillAccepted passes run x impossible
    · rw [impossible] at fails
      cases fails

end Scaffold
end ClassScaffold
