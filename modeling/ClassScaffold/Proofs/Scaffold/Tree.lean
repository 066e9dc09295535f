import ClassScaffold.Proofs.Disk.Tree
import ClassScaffold.Proofs.Scaffold.Confined
/-! What stands in a directory that has been filled: the ways to the planned directories and files, and the
files, of which the last at a place counts, laid over what was there. -/
namespace ClassScaffold
open Session (Ends Program)
open Disk (Location Region Overlays Shows place)
open Text.Utf8 (Bytes encode)

namespace Path

def Part.name? : Part → Option String
  | .normal name => some name
  | _ => none

def namesFrom (root p : Path) : List String := (p.parts.drop root.parts.length).filterMap Part.name?

theorem namesFromWithin {root p : Path} {names : List String} (within : root.Within names p) :
    root.namesFrom p = names := by
  unfold namesFrom
  rw [within, List.drop_left, List.filterMap_map]
  exact List.filterMap_some

end Path

namespace Disk

def placeFrom (root p : Path) : Location := place (root.namesFrom p)

theorem placeFromWithin {root p : Path} {names : List String} (within : root.Within names p) :
    placeFrom root p = place names := by rw [placeFrom, Path.namesFromWithin within]

end Disk

namespace Scaffold
open Disk (placeFrom placeFromWithin)

theorem mapWithin {root : Path} {γ : Type} {all : List (List String)} {paths : List Path}
    (within : List.Forall₂ root.Within all paths) {g : Path → γ} {h : List String → γ}
    (same : ∀ names p, root.Within names p → g p = h names) : paths.map g = all.map h := by
  induction within with
  | nil => rfl
  | cons head _ ih => rw [List.map_cons, List.map_cons, same _ _ head, ih]

def placed (root : Path) (f : PlannedFile) : Location × Bytes := (placeFrom root f.path, encode f.text)

variable {root : Path} {l : Location} {s s' : Session} {b : Disk} {ways : List Location}
  {files : List (Location × Bytes)}

theorem makeDirectoriesOverlays {p : Path} {names : List String} (within : root.Within names p)
    (region : Region s.disk root l) (tree : Overlays b s.disk l ways files)
    (ends : Ends (makeDirectories p : Program FilingFault Unit) s (.ok ()) s') :
    Region s'.disk root l ∧ Overlays b s'.disk l (placeFrom root p :: ways) files := by
  have there := Disk.regionThere region
  have confined := makeDirectoriesStays within ends region.wellFormed there
  rw [placeFromWithin within]
  exact ⟨Disk.regionConfined region confined,
    Disk.overlaysMade region within tree (Session.makeDirectoriesOk (Session.attemptOk ends))⟩

theorem writeOverlays {f : PlannedFile} {names : List String} (some : names ≠ [])
    (within : root.Within names f.path) (region : Region s.disk root l) (tree : Overlays b s.disk l ways files)
    (ends : Ends (write f : Program FilingFault Unit) s (.ok ()) s') :
    Region s'.disk root l ∧
      Overlays b s'.disk l ((placeFrom root f.path).tail :: ways) (placed root f :: files) := by
  obtain ⟨parent, found, around⟩ := writeWithin some within
  unfold write at ends
  rw [found] at ends
  obtain ⟨_, t, first, last⟩ := Session.endsBindOk ends
  obtain ⟨regionT, treeT⟩ := makeDirectoriesOverlays around region tree first
  have confined := writeFileStays some within _ last regionT.wellFormed (Disk.regionThere regionT)
  have above : placeFrom root parent = (place names).tail := by
    rw [placeFromWithin around, place, place, List.map_dropLast, List.tail_reverse]
  refine ⟨Disk.regionConfined regionT confined, ?_⟩
  rw [placed, placeFromWithin within, ← above]
  exact Disk.overlaysWritten regionT within some treeT (Session.writeFileOk (Session.attemptOk last))

theorem directoriesOverlay {paths : List Path}
    (within : ∀ p ∈ paths, ∃ names, names ≠ [] ∧ root.Within names p)
    (region : Region s.disk root l) (tree : Overlays b s.disk l ways files)
    (ends : Ends (paths.forM makeDirectories : Program FilingFault PUnit) s (.ok ⟨⟩) s') :
    Region s'.disk root l ∧ Overlays b s'.disk l ((paths.map (placeFrom root)).reverse ++ ways) files := by
  induction paths generalizing s ways with
  | nil =>
    rw [(Session.endsPure ends).2]
    exact ⟨region, tree⟩
  | cons p rest ih =>
    obtain ⟨_, t, first, later⟩ := Session.endsBindOk ends
    obtain ⟨names, _, here⟩ := within p List.mem_cons_self
    obtain ⟨regionT, treeT⟩ := makeDirectoriesOverlays here region tree first
    have whole := ih (fun q h => within q (List.mem_cons_of_mem _ h)) regionT treeT later
    simpa using whole

theorem filesOverlay {planned : List PlannedFile}
    (within : ∀ f ∈ planned, ∃ names, names ≠ [] ∧ root.Within names f.path)
    (region : Region s.disk root l) (tree : Overlays b s.disk l ways files)
    (ends : Ends (planned.forM write : Program FilingFault PUnit) s (.ok ⟨⟩) s') :
    Region s'.disk root l ∧
      Overlays b s'.disk l ((planned.map fun f => (placeFrom root f.path).tail).reverse ++ ways)
        ((planned.map (placed root)).reverse ++ files) := by
  induction planned generalizing s ways files with
  | nil =>
    rw [(Session.endsPure ends).2]
    exact ⟨region, tree⟩
  | cons f rest ih =>
    obtain ⟨_, t, first, later⟩ := Session.endsBindOk ends
    obtain ⟨names, some, here⟩ := within f List.mem_cons_self
    obtain ⟨regionT, treeT⟩ := writeOverlays some here region tree first
    have whole := ih (fun q h => within q (List.mem_cons_of_mem _ h)) regionT treeT later
    simpa using whole

def waysOf (root : Path) (plan : Plan) : List Location :=
  (plan.files.map fun f => (placeFrom root f.path).tail).reverse ++
    (plan.directories.map (placeFrom root)).reverse

theorem fillPlan {r : Request} {database : Database} {paths : List Path}
    (ends : Ends (fill root r database : Program FilingFault (List Path)) s (.ok paths) s') :
    ∃ plan, Plan.ofRequest root r database = .ok plan ∧ paths = plan.files.map PlannedFile.path ∧
      Ends (carryOut plan : Program FilingFault Unit) s (.ok ()) s' := by
  unfold fill at ends
  split at ends
  · obtain ⟨impossible, _⟩ := Session.endsThrow ends
    cases impossible
  · next plan ok =>
    obtain ⟨_, t, carried, last⟩ := Session.endsBindOk ends
    obtain ⟨same, rfl⟩ := Session.endsPure last
    exact ⟨plan, ok, Except.ok.inj same, carried⟩

theorem carryOutOverlays {r : Request} {database : Database} {plan : Plan} (region : Region s.disk root l)
    (ok : Plan.ofRequest root r database = .ok plan)
    (carried : Ends (carryOut plan : Program FilingFault Unit) s (.ok ()) s') :
    Region s'.disk root l ∧
      Overlays s.disk s'.disk l (waysOf root plan) (plan.files.map (placed root)).reverse := by
  obtain ⟨directories, files⟩ := planWithin ok
  unfold carryOut at carried
  obtain ⟨_, u, first, second⟩ := Session.endsBindOk carried
  obtain ⟨regionU, treeU⟩ := directoriesOverlay directories region (Disk.overlaysNothing s.disk l) first
  obtain ⟨regionT, treeT⟩ := filesOverlay files regionU treeU second
  exact ⟨regionT, by simpa [waysOf] using treeT⟩

theorem fillShows {r : Request} {database : Database} {paths : List Path} (region : Region s.disk root l)
    (empty : ∀ rel, rel ≠ [] → s.disk.get? (rel ++ l) = none)
    (ends : Ends (fill root r database : Program FilingFault (List Path)) s (.ok paths) s') :
    ∃ plan, Plan.ofRequest root r database = .ok plan ∧ paths = plan.files.map PlannedFile.path ∧
      Region s'.disk root l ∧
      Shows s'.disk l (waysOf root plan) (plan.files.map (placed root)).reverse := by
  obtain ⟨plan, ok, same, carried⟩ := fillPlan ends
  obtain ⟨regionT, tree⟩ := carryOutOverlays region ok carried
  exact ⟨plan, ok, same, regionT, Disk.overlaysShow empty tree⟩

end Scaffold
end ClassScaffold
