import ClassScaffold.Proofs.Plan.Names
import ClassScaffold.Proofs.Session.Effect
import ClassScaffold.Proofs.Session.Trace
import ClassScaffold.Scaffold
/-! Filling a directory stays within it. Whatever a request is made of and whatever fails on the way, every
path that is asked for goes on from the directory by names alone, and every change on the disk is where
such a path leads. -/
namespace ClassScaffold
open Session (Ends Keeps Composes Traces Traced Program)
open Disk (Confined IsClear)

namespace Scaffold

def Asks (root : Path) (o : Operation) : Prop :=
  ∃ p names, root.Within names p ∧ (∀ name ∈ names, Path.Plain name.toList) ∧
    (o = .makeDirectories p ∨ o = .writeFile p ∧ names ≠ [])

def StaysWithin (root : Path) (s s' : Session) : Prop :=
  s.disk.WellFormed → s.disk.isDirectory root = true → Confined root s.disk s'.disk

theorem staysComposes (root : Path) : Composes (StaysWithin root) := by
  refine ⟨fun s wf _ => Disk.confinedRefl wf root, fun first next wf there => ?_⟩
  have before := first wf there
  exact Disk.confinedTrans before
    (next before.wellFormed (Disk.isDirectoryGrows before.grows there))

variable {root p : Path} {names : List String}

theorem makeDirectoriesStays (within : root.Within names p) :
    Keeps (StaysWithin root) (makeDirectories p : Program FilingFault Unit) := by
  intro s r s' ends wf there
  obtain ⟨result, ran, _⟩ := Session.endsAttempt ends
  exact Disk.madeConfined wf there within (Session.makeDirectoriesMade wf ran)

theorem writeFileStays {ε : Type} {fault : Disk.Fault → ε} (some : names ≠ []) (within : root.Within names p)
    (contents : Text.Utf8.Bytes) :
    Keeps (StaysWithin root) (Host.attempt fault (Host.writeFile p contents) : Program ε Unit) := by
  intro s r s' ends wf _
  obtain ⟨result, ran, _⟩ := Session.endsAttempt ends
  exact Session.writeFileConfined wf some within ran

theorem writeWithin {f : PlannedFile} (some : names ≠ []) (within : root.Within names f.path) :
    ∃ parent, f.path.parent? = .some parent ∧ root.Within names.dropLast parent := by
  rw [← List.dropLast_concat_getLast some] at within
  exact Path.withinParent within

theorem writeStays {f : PlannedFile} (some : names ≠ []) (within : root.Within names f.path) :
    Keeps (StaysWithin root) (write f : Program FilingFault Unit) := by
  obtain ⟨parent, found, around⟩ := writeWithin some within
  unfold write
  rw [found]
  exact Session.keepsBind (staysComposes root) (makeDirectoriesStays around) fun _ =>
    writeFileStays some within _

theorem makeDirectoriesAsks (within : root.Within names p) :
    Traces (Asks root) (makeDirectories p : Program FilingFault Unit) :=
  Session.tracesMakeDirectories ⟨p, names, within, Path.withinPlain within, .inl rfl⟩

theorem writeAsks {f : PlannedFile} (some : names ≠ []) (within : root.Within names f.path) :
    Traces (Asks root) (write f : Program FilingFault Unit) := by
  obtain ⟨parent, found, around⟩ := writeWithin some within
  unfold write
  rw [found]
  refine Session.tracesBind (makeDirectoriesAsks around) fun _ => ?_
  exact Session.tracesWriteFile ⟨f.path, names, within, Path.withinPlain within, .inr ⟨rfl, some⟩⟩

theorem forallWithin {paths : List Path} {all : List (List String)} (within : List.Forall₂ root.Within all paths)
    (some : ∀ names ∈ all, names ≠ []) : ∀ p ∈ paths, ∃ names, names ≠ [] ∧ root.Within names p := by
  intro p member
  obtain ⟨n, rfl⟩ := List.mem_iff_get.1 member
  have bound : n.1 < all.length := by
    rw [within.length_eq]
    exact n.2
  exact ⟨all.get ⟨n, bound⟩, some _ (List.get_mem ..), within.get bound n.2⟩

theorem planWithin {r : Request} {database : Database} {plan : Plan}
    (ok : Plan.ofRequest root r database = .ok plan) :
    (∀ p ∈ plan.directories, ∃ names, names ≠ [] ∧ root.Within names p) ∧
      ∀ f ∈ plan.files, ∃ names, names ≠ [] ∧ root.Within names f.path := by
  obtain ⟨main, test, entry, entryTest, names, _⟩ := Plan.ofRequestNames ok
  refine ⟨forallWithin names.directories ?_, fun f member => ?_⟩
  · simp [Layout.sourceNames, Layout.testNames]
  · refine forallWithin names.files ?_ f.path (List.mem_map.2 ⟨f, member, rfl⟩)
    intro all inside
    rcases List.mem_append.1 inside with project | classes
    · rintro rfl
      simp [Plan.projectNames, Layout.sourceNames, Layout.testNames] at project
    · obtain ⟨n, _, layers⟩ := List.mem_flatMap.1 classes
      obtain ⟨layer, _, rfl⟩ := List.mem_map.1 layers
      simp [Layout.sourceNames]

variable {r : Request} {database : Database}

theorem fillStays : Keeps (StaysWithin root) (fill root r database : Program FilingFault (List Path)) := by
  unfold fill
  split
  · exact Session.keepsThrow (staysComposes root) _
  · next plan ok =>
    obtain ⟨directories, files⟩ := planWithin ok
    have composes := staysComposes root
    refine Session.keepsBind composes ?_ fun _ => Session.keepsPure composes _
    refine Session.keepsBind composes (Session.keepsForM composes fun p member => ?_) fun _ =>
      Session.keepsForM composes fun f member => ?_
    · obtain ⟨names, _, within⟩ := directories p member
      exact makeDirectoriesStays within
    · obtain ⟨names, some, within⟩ := files f member
      exact writeStays some within

theorem fillAsks : Traces (Asks root) (fill root r database : Program FilingFault (List Path)) := by
  unfold fill
  split
  · exact Session.tracesThrow _
  · next plan ok =>
    obtain ⟨directories, files⟩ := planWithin ok
    refine Session.tracesBind ?_ fun _ => Session.tracesPure _
    refine Session.tracesBind (Session.tracesForM fun p member => ?_) fun _ =>
      Session.tracesForM fun f member => ?_
    · obtain ⟨names, _, within⟩ := directories p member
      exact makeDirectoriesAsks within
    · obtain ⟨names, some, within⟩ := files f member
      exact writeAsks some within

/-- Whether it succeeds or fails, filling a directory asks for nothing but directories and files whose paths
go on from it by names; everything that has changed on the disk is where such a path leads, which is below
the directory when there are no links in it. -/
theorem fillConfined {s s' : Session} {result : Except FilingFault (List Path)} (wf : s.disk.WellFormed)
    (there : s.disk.isDirectory root = true) (ends : Ends (fill root r database) s result s') :
    (∃ added, s'.history = s.history ++ added ∧ ∀ entry ∈ added, Asks root entry.operation) ∧
    (∀ l, s'.disk.get? l ≠ s.disk.get? l →
      ∃ p names, names ≠ [] ∧ root.Within names p ∧ s'.disk.find p = .ok l) ∧
    ∀ place, s.disk.find root = .ok place → IsClear s.disk place →
      ∀ l, s'.disk.get? l ≠ s.disk.get? l → ∃ rel, rel ≠ [] ∧ l = rel ++ place := by
  have confined := fillStays ends wf there
  refine ⟨?_, confined.changed, fun place found clear l other => ?_⟩
  · obtain ⟨added, grown, each⟩ := (fillAsks ends).history
    refine ⟨added, grown, fun entry member => ?_⟩
    obtain ⟨i, at_⟩ := List.mem_iff_getElem?.1 member
    exact (each i entry at_).1.1
  · obtain ⟨l', found', directory⟩ := Disk.isDirectoryReaches there
    obtain rfl : l' = place := Except.ok.inj (found'.symm.trans found)
    exact Disk.changedBelow ⟨wf, found, directory, clear⟩ confined other

def blank : Session := .start (Disk.empty .usual) fun _ => ⟨0⟩

def climbing : Request := ⟨some "p", some "p", [⟨["a/."], [], []⟩, ⟨["../b"], [], []⟩]⟩

/-- The type name, which goes into the names of files and is not checked itself, has a separator in it. -/
def stray : Request := ⟨some "p", some "p", [⟨["a/."], [], []⟩]⟩

theorem fillConfinedBlank : ∃ paths s',
    Ends (fill ⟨"/"⟩ stray .postgresql : Program FilingFault (List Path)) blank (.ok paths) s' ∧
      ⟨.writeFile ⟨"/src/main/java/p/a/./model/ModelA/..java"⟩, none⟩ ∈ s'.history ∧
      ∀ entry ∈ s'.history, Asks ⟨"/"⟩ entry.operation := by
  let filling : Program FilingFault (List Path) := fill ⟨"/"⟩ stray .postgresql
  have fills : (filling.run.run blank).1.isOk = true := by decide +kernel
  have written : ⟨.writeFile ⟨"/src/main/java/p/a/./model/ModelA/..java"⟩, none⟩ ∈
      (filling.run.run blank).2.history := by decide +kernel
  rcases run : filling.run.run blank with ⟨result, s'⟩
  rw [run] at fills written
  cases result with
  | error fault => cases fills
  | ok paths =>
    obtain ⟨⟨added, history, asked⟩, _⟩ := fillConfined (Disk.emptyWellFormed .usual) (by decide) run
    refine ⟨paths, s', run, written, fun entry member => asked entry ?_⟩
    rwa [history] at member

end Scaffold
end ClassScaffold
