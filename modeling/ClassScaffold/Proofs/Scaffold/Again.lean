import ClassScaffold.Proofs.Scaffold.Collision
import ClassScaffold.Proofs.Scaffold.Success
/-! Filling a directory in which something stands already. The files hold what the request makes of them and
nothing else is touched; filling the directory once more changes nothing. -/
namespace ClassScaffold
open Session (Ends Program Composes)
open Disk (Location Region Overlays Grows place placeFrom)
open Text.Utf8 (Bytes encode)

namespace Plan

variable {root root' : Path} {r : Request} {database : Database} {plan plan' : Plan}

/- What a plan is made of does not depend on its root -/

theorem segmentUnique {segment name name' : String} (one : IsSegment segment name) (other : IsSegment segment name') :
    name = name' := by
  have same := one.symm.trans other
  simpa using same

theorem segmentsUnique {segments names names' : List String} (one : List.Forall₂ IsSegment segments names)
    (other : List.Forall₂ IsSegment segments names') : names = names' := by
  induction one generalizing names' with
  | nil =>
    cases other
    rfl
  | cons head _ ih =>
    cases other with
    | cons head' rest' => rw [segmentUnique head head', ih rest']

theorem groupTexts {directories : List Path} {all : List Entity} (lengths : directories.length = all.length) :
    (List.zipWith classGroup directories all).flatten.map PlannedFile.text =
      all.flatMap fun e => Layer.all.map fun layer => layer.text e := by
  induction all generalizing directories with
  | nil => simp
  | cons e rest ih =>
    cases directories with
    | nil => simp at lengths
    | cons p directories =>
      rw [List.zipWith_cons_cons, List.flatten_cons, List.map_append, List.flatMap_cons,
        ih (by simpa using lengths), classGroup, List.map_map]
      rfl

theorem ofRequestTexts (ok : ofRequest root r database = .ok plan) : plan.files.map PlannedFile.text =
    let package := Package.ofSegments (Package.segments r.package)
    (Project.File.all.map fun f => (Project.text ⟨r.project, package, database⟩ f)) ++
      (entities r package).flatMap fun e => Layer.all.map fun layer => layer.text e := by
  obtain ⟨layout, entries, classes, accepted⟩ := ofRequestAccepted ok
  obtain ⟨_, _, package⟩ := Layout.ofPackageNames accepted.package
  have lengths : classes.length = (entities r layout.package).length :=
    accepted.classes.length_eq.symm.trans (entitiesNamed r layout.package).length_eq
  rw [accepted.files, List.map_append, groupTexts lengths, projectGroup, List.map_map, package.named]
  rfl

theorem ofRequestSame (ok : ofRequest root r database = .ok plan) (ok' : ofRequest root' r database = .ok plan') :
    plan.files.map (Scaffold.placed root) = plan'.files.map (Scaffold.placed root') := by
  have places : plan.files.map (fun f => placeFrom root f.path) = plan'.files.map (fun f => placeFrom root' f.path) := by
    obtain ⟨main, test, entry, entryTest, names, named⟩ := ofRequestNames ok
    obtain ⟨main', test', entry', entryTest', names', named'⟩ := ofRequestNames ok'
    obtain rfl := segmentsUnique named.main named'.main
    obtain rfl := segmentsUnique named.test named'.test
    obtain rfl := segmentUnique named.entry named'.entry
    obtain rfl := segmentUnique named.entryTest named'.entryTest
    have one := Scaffold.mapWithin names.files (g := placeFrom root) fun _ _ => Disk.placeFromWithin
    have other := Scaffold.mapWithin names'.files (g := placeFrom root') fun _ _ => Disk.placeFromWithin
    rw [List.map_map] at one other
    exact one.trans other.symm
  have texts : plan.files.map PlannedFile.text = plan'.files.map PlannedFile.text :=
    (ofRequestTexts ok).trans (ofRequestTexts ok').symm
  have zipped (root : Path) (files : List PlannedFile) : files.map (Scaffold.placed root) =
      (files.map fun f => placeFrom root f.path).zip ((files.map PlannedFile.text).map encode) := by
    rw [List.map_map, List.zip_map']
    rfl
  rw [zipped, zipped, places, texts]

end Plan

namespace Scaffold

variable {root : Path} {r : Request} {database : Database} {plan : Plan} {l : Location} {s s' t : Session}
  {d d' : Disk}

/- What a second run comes upon -/

structure IsWritten (f : PlannedFile) (d : Disk) : Prop where
  parent : ∃ p, f.path.parent? = some p ∧ d.isDirectory p = true
  file : ∃ q c, d.find f.path = .ok q ∧ d.get? q = some (.file c)

/-- All directories and files of the plan are there. -/
structure IsSettled (plan : Plan) (d : Disk) : Prop where
  wellFormed : d.WellFormed
  directories : ∀ p ∈ plan.directories, d.isDirectory p = true
  files : ∀ f ∈ plan.files, IsWritten f d

theorem writtenGrows {f : PlannedFile} (grows : Grows d d') (written : IsWritten f d) : IsWritten f d' := by
  obtain ⟨⟨p, above, there⟩, q, c, found, file⟩ := written
  obtain ⟨c', file'⟩ := grows.files q c file
  exact ⟨⟨p, above, Disk.isDirectoryGrows grows there⟩, q, c', Disk.findGrows grows found, file'⟩

theorem settledGrows (grows : Grows d d') (wf : d'.WellFormed) (settled : IsSettled plan d) : IsSettled plan d' :=
  ⟨wf, fun p member => Disk.isDirectoryGrows grows (settled.directories p member),
    fun f member => writtenGrows grows (settled.files f member)⟩

theorem growsComposes : Composes fun s s' => Grows s.disk s'.disk :=
  ⟨fun s => Disk.growsRefl s.disk, fun first second => Disk.growsTrans first second⟩

theorem makeDirectoriesSettles {p : Path} {names : List String} (within : root.Within names p) (some : p.parts ≠ [])
    (region : Region s.disk root l) (ends : Ends (makeDirectories p : Program FilingFault Unit) s (.ok ()) s') :
    Region s'.disk root l ∧ Grows s.disk s'.disk ∧ s'.disk.isDirectory p = true := by
  have confined := makeDirectoriesStays within ends region.wellFormed (Disk.regionThere region)
  have made := Session.makeDirectoriesOk (Session.attemptOk ends)
  exact ⟨Disk.regionConfined region confined, confined.grows,
    Disk.makeDirectoriesThere region.wellFormed (Disk.partsSome some) made⟩

theorem writeSettles {f : PlannedFile} {names : List String} (some : names ≠ []) (within : root.Within names f.path)
    (region : Region s.disk root l) (ends : Ends (write f : Program FilingFault Unit) s (.ok ()) s') :
    Region s'.disk root l ∧ Grows s.disk s'.disk ∧ IsWritten f s'.disk := by
  obtain ⟨parent, above, around⟩ := writeWithin some within
  have parts : parent.parts ≠ [] := by
    rw [around]
    simp [Path.textParts (Disk.findText region.found).2]
  unfold write at ends
  rw [above] at ends
  obtain ⟨_, t, first, last⟩ := Session.endsBindOk ends
  obtain ⟨regionT, before, there⟩ := makeDirectoriesSettles around parts region first
  have wrote := Session.writeFileOk (Session.attemptOk last)
  have confined := Disk.writeConfined regionT.wellFormed some within wrote
  obtain ⟨q, isPlace, put, found⟩ := Disk.writeFound regionT.wellFormed wrote
  have nonempty : q ≠ [] := by
    obtain ⟨name, outer, rfl, _⟩ := isPlace.parent
    simp
  refine ⟨Disk.regionConfined regionT confined, Disk.growsTrans before confined.grows,
    ⟨parent, above, Disk.isDirectoryGrows confined.grows there⟩, q, encode f.text, found, ?_⟩
  rw [put, Disk.getPut _ nonempty, if_pos rfl]

theorem carryOutSettles (region : Region s.disk root l) (ok : Plan.ofRequest root r database = .ok plan)
    (carried : Ends (carryOut plan : Program FilingFault PUnit) s (.ok ⟨⟩) s') :
    IsSettled plan s'.disk ∧ Grows s.disk s'.disk := by
  obtain ⟨directories, files⟩ := planWithin ok
  obtain ⟨_, u, first, second⟩ := Session.endsBindOk carried
  obtain ⟨regionU, before, made⟩ := Session.forMEach growsComposes (fun s => Region s.disk root l)
    (fun p s => s.disk.isDirectory p = true) (fun p member s s' region ends => by
      obtain ⟨names, some, within⟩ := directories p member
      have parts : p.parts ≠ [] := by
        rw [within]
        simp [some]
      exact makeDirectoriesSettles within parts region ends)
    (fun p s s' grows there => Disk.isDirectoryGrows grows there) region first
  obtain ⟨region', grows, written⟩ := Session.forMEach growsComposes (fun s => Region s.disk root l)
    (fun f s => IsWritten f s.disk) (fun f member s s' region ends => by
      obtain ⟨names, some, within⟩ := files f member
      exact writeSettles some within region ends)
    (fun f s s' grows there => writtenGrows grows there) regionU second
  refine ⟨⟨region'.wellFormed, fun p member => ?_, written⟩, Disk.growsTrans before grows⟩
  exact Disk.isDirectoryGrows grows (made p member)

theorem makeDirectoriesKeeps {p : Path} (quiet : s.Quiet) (there : s.disk.isDirectory p = true) :
    Ends (makeDirectories p : Program FilingFault Unit) s (.ok ()) (s.record (.makeDirectories p) none s.disk) :=
  Session.attemptEnds (Session.makeDirectoriesRuns quiet (Disk.makeDirectoriesKeeps there))

theorem writeAgain {f : PlannedFile} (member : f ∈ plan.files) (settled : IsSettled plan s.disk) (quiet : s.Quiet) :
    ∃ s', Ends (write f : Program FilingFault Unit) s (.ok ()) s' ∧ IsSettled plan s'.disk ∧ s'.Quiet := by
  obtain ⟨⟨p, above, there⟩, q, c, found, file⟩ := settled.files f member
  obtain ⟨d, wrote⟩ : ∃ d, s.disk.write f.path (encode f.text) = .ok d :=
    ⟨_, Disk.writeThere settled.wellFormed found file (encode f.text)⟩
  obtain ⟨q', isPlace, put, _⟩ := Disk.writeFound settled.wellFormed wrote
  have quiet' := Session.quietRecord quiet (.makeDirectories p) none s.disk
  refine ⟨(s.record (.makeDirectories p) none s.disk).record (.writeFile f.path) none d, ?_, ?_,
    Session.quietRecord quiet' (.writeFile f.path) none d⟩
  · unfold write
    rw [above]
    exact Session.bindEnds (makeDirectoriesKeeps quiet there)
      (Session.attemptEnds (Session.writeFileRuns quiet' wrote))
  · rw [Session.recordDisk, put]
    exact settledGrows (Disk.filePlaceGrows isPlace _) (Disk.filePlaceWellFormed settled.wellFormed isPlace _) settled

theorem carryOutAgain (settled : IsSettled plan s.disk) (quiet : s.Quiet) :
    ∃ s', Ends (carryOut plan : Program FilingFault PUnit) s (.ok ⟨⟩) s' := by
  obtain ⟨t, first, settledT, quietT⟩ := Session.forMRuns (fun s => IsSettled plan s.disk ∧ s.Quiet)
    ⟨settled, quiet⟩ fun p member s ⟨settled, quiet⟩ =>
      ⟨_, makeDirectoriesKeeps quiet (settled.directories p member), settled,
        Session.quietRecord quiet (.makeDirectories p) none s.disk⟩
  obtain ⟨s', later, _⟩ := Session.forMRuns (fun s => IsSettled plan s.disk ∧ s.Quiet)
    ⟨settledT, quietT⟩ fun f member s ⟨settled, quiet⟩ => writeAgain member settled quiet
  exact ⟨s', Session.bindEnds first later⟩

/- Over what is there -/

theorem plannedThere (region : Region s.disk root l) (ok : Plan.ofRequest root r database = .ok plan)
    (carried : Ends (carryOut plan : Program FilingFault PUnit) s (.ok ⟨⟩) s') {f : PlannedFile}
    (member : f ∈ plan.files) : s'.disk.find f.path = .ok (placeFrom root f.path ++ l) := by
  obtain ⟨some, within⟩ := Plan.fileNamesFrom ok member
  obtain ⟨region', _⟩ := carryOutOverlays region ok carried
  obtain ⟨q, _, found, _⟩ := ((carryOutSettles region ok carried).1.files f member).file
  rw [found, (Disk.regionFind region' within found).1]
  rfl

theorem readPlaced {files : List (Location × Bytes)} {b : Disk} {ways : List Location} {p : Path} {rel : Location}
    {c : Bytes} (tree : Overlays b d l ways files) (member : (rel, c) ∈ files) (some : rel ≠ [])
    (found : d.find p = .ok (rel ++ l)) : ∃ c, files.lookup rel = .some c ∧ d.read p = .ok c := by
  cases looked : files.lookup rel with
  | none => simpa using List.lookup_eq_none_iff.1 looked _ member
  | some c =>
    refine ⟨c, rfl, ?_⟩
    have file := tree.file rel some c looked
    simp [Disk.read, Disk.contentsAt, found, file, bind, Except.bind]

theorem filesAgree {e e' : Session} {root' : Path} {m : Location} {plan' : Plan} (region : Region s.disk root l)
    (region' : Region e.disk root' m) (ok : Plan.ofRequest root r database = .ok plan)
    (ok' : Plan.ofRequest root' r database = .ok plan')
    (carried : Ends (carryOut plan : Program FilingFault PUnit) s (.ok ⟨⟩) s')
    (carried' : Ends (carryOut plan' : Program FilingFault PUnit) e (.ok ⟨⟩) e') :
    List.Forall₂ (fun p p' => ∃ c, s'.disk.read p = .ok c ∧ e'.disk.read p' = .ok c)
      (plan.files.map PlannedFile.path) (plan'.files.map PlannedFile.path) := by
  have same := Plan.ofRequestSame ok ok'
  obtain ⟨_, tree⟩ := carryOutOverlays region ok carried
  obtain ⟨_, tree'⟩ := carryOutOverlays region' ok' carried'
  have related : List.Forall₂ (fun f f' => placed root f = placed root' f') plan.files plan'.files := by
    have whole : List.Forall₂ Eq (plan.files.map (placed root)) (plan'.files.map (placed root')) := by
      rw [same]
      exact List.forall₂_same.2 fun _ _ => rfl
    rwa [List.forall₂_map_left_iff, List.forall₂_map_right_iff] at whole
  rw [List.forall₂_map_left_iff, List.forall₂_map_right_iff, List.forall₂_iff_zip]
  refine ⟨related.length_eq, fun {f f'} inside => ?_⟩
  obtain ⟨member, member'⟩ := List.of_mem_zip inside
  have pair : placeFrom root f.path = placeFrom root' f'.path :=
    congrArg Prod.fst ((List.forall₂_iff_zip.1 related).2 inside)
  have some : placeFrom root f.path ≠ [] := plannedPlaces ok _ (List.mem_map_of_mem member)
  have listed : placed root f ∈ (plan.files.map (placed root)).reverse :=
    List.mem_reverse.2 (List.mem_map_of_mem member)
  obtain ⟨c, looked, read⟩ := readPlaced tree listed some (plannedThere region ok carried member)
  rw [← same] at tree'
  have found' := plannedThere region' ok' carried' member'
  rw [← pair] at found'
  obtain ⟨c', looked', read'⟩ := readPlaced tree' listed some found'
  cases looked.symm.trans looked'
  exact ⟨c, read, read'⟩

section
variable (region : Region s.disk root l) (ok : Plan.ofRequest root r database = .ok plan)
  (carried : Ends (carryOut plan : Program FilingFault PUnit) s (.ok ⟨⟩) s')
include region ok carried

theorem plannedPlace {rel : Location} {c : Bytes}
    (looked : (plan.files.map (placed root)).reverse.lookup rel = some c) :
    ∃ f ∈ plan.files, s'.disk.find f.path = .ok (rel ++ l) := by
  obtain ⟨before, after, whole, _⟩ := List.lookup_eq_some_iff.1 looked
  have member : (rel, c) ∈ (plan.files.map (placed root)).reverse := by simp [whole]
  obtain ⟨f, inside, same⟩ := List.mem_map.1 (List.mem_reverse.1 member)
  cases same
  exact ⟨f, inside, plannedThere region ok carried inside⟩

theorem carryOutKeeps {q : Location} {e : Disk.Entry} (there : s.disk.get? q = some e)
    (apart : ∀ f ∈ plan.files, s'.disk.find f.path ≠ .ok q) : s'.disk.get? q = some e := by
  obtain ⟨_, tree⟩ := carryOutOverlays region ok carried
  obtain ⟨_, grows⟩ := carryOutSettles region ok carried
  by_cases below : ∃ rel, rel ≠ [] ∧ q = rel ++ l
  · obtain ⟨rel, some, rfl⟩ := below
    by_cases way : ∃ way ∈ waysOf root plan, rel <:+ way
    · have directory := tree.directory rel some way
      cases e with
      | directory => exact directory
      | file c =>
        obtain ⟨_, file⟩ := grows.files _ c there
        cases directory.symm.trans file
      | link target => cases directory.symm.trans ((grows.links _ target).2 there)
    · cases looked : (plan.files.map (placed root)).reverse.lookup rel with
      | some c =>
        obtain ⟨f, member, found⟩ := plannedPlace region ok carried looked
        exact absurd found (apart f member)
      | none => rw [tree.kept rel some (by simpa using way) looked, there]
  · rw [tree.around q fun rel some same => below ⟨rel, some, same⟩, there]

theorem carryOutNew {q : Location} {e : Disk.Entry} (missing : s.disk.get? q = none)
    (there : s'.disk.get? q = some e) : (∃ f ∈ plan.files, s'.disk.find f.path = .ok q) ∨
      e = .directory ∧ ∃ names, Plan.HasDirectory root plan names ∧ q = place names ++ l := by
  obtain ⟨_, tree⟩ := carryOutOverlays region ok carried
  by_cases below : ∃ rel, rel ≠ [] ∧ q = rel ++ l
  · obtain ⟨rel, some, rfl⟩ := below
    by_cases way : ∃ way ∈ waysOf root plan, rel <:+ way
    · obtain ⟨names, has, rfl⟩ := (Plan.waysDirectory ok some).1 way
      refine .inr ⟨?_, names, has, rfl⟩
      exact Option.some.inj (there.symm.trans (tree.directory _ some way))
    · cases looked : (plan.files.map (placed root)).reverse.lookup rel with
      | some c => exact .inl (plannedPlace region ok carried looked)
      | none =>
        have same := tree.kept rel some (by simpa using way) looked
        cases (there.symm.trans same).trans missing
  · have same := tree.around q fun rel some same => below ⟨rel, some, same⟩
    cases (there.symm.trans same).trans missing

theorem carryOutTwice (quiet : t.Quiet) (disk : t.disk = s'.disk) :
    ∃ t', Ends (carryOut plan : Program FilingFault PUnit) t (.ok ⟨⟩) t' ∧ ∀ q, t'.disk.get? q = t.disk.get? q := by
  obtain ⟨region', tree⟩ := carryOutOverlays region ok carried
  obtain ⟨settled, _⟩ := carryOutSettles region ok carried
  rw [← disk] at region' tree settled
  obtain ⟨t', ends⟩ := carryOutAgain settled quiet
  obtain ⟨_, tree'⟩ := carryOutOverlays region' ok ends
  exact ⟨t', ends, Disk.overlaysAgain tree tree'⟩

end

/-- Filling a directory without links leaves the files that the request makes, whatever was there before, adds
only them and the directories around them, and is settled after one run. In an empty directory it succeeds
when nothing is limited and all names pass. No planned file is then on the way to another place of the plan,
but two of them are one file when the names of their classes clash. -/
theorem fillSettles (region : Region s.disk root l) :
    (∀ paths s', Ends (fill root r database : Program FilingFault (List Path)) s (.ok paths) s' →
      (∀ e root' m paths' e', Region e.disk root' m →
        Ends (fill root' r database : Program FilingFault (List Path)) e (.ok paths') e' →
        List.Forall₂ (fun p p' => ∃ c, s'.disk.read p = .ok c ∧ e'.disk.read p' = .ok c) paths paths') ∧
      (∀ q entry, s.disk.get? q = some entry → (∀ p ∈ paths, s'.disk.find p ≠ .ok q) →
        s'.disk.get? q = some entry) ∧
      (∃ plan, Plan.ofRequest root r database = .ok plan ∧ paths = plan.files.map PlannedFile.path ∧
        ∀ q entry, s.disk.get? q = none → s'.disk.get? q = some entry → (∃ p ∈ paths, s'.disk.find p = .ok q) ∨
          entry = .directory ∧ ∃ names, Plan.HasDirectory root plan names ∧ q = place names ++ l) ∧
      ∀ t : Session, t.Quiet → t.disk = s'.disk →
        ∃ t', Ends (fill root r database : Program FilingFault (List Path)) t (.ok paths) t' ∧
          ∀ q, t'.disk.get? q = t.disk.get? q) ∧
    ((∀ rel, rel ≠ [] → s.disk.get? (rel ++ l) = none) → s.disk.limits = .unlimited → s.Quiet →
      Plan.refusal? r database = none →
      ∃ paths s', Ends (fill root r database : Program FilingFault (List Path)) s (.ok paths) s') ∧
    ∀ plan, Plan.ofRequest root r database = .ok plan → Plan.KeepsApart root plan ∧
      ((plan.files.map fun f => f.path.parts).Nodup ↔ (Plan.namings r).Pairwise fun a b => ¬ Naming.Clash a b) := by
  refine ⟨fun paths s' ends => ?_, fillSucceeds region, fun plan ok =>
    ⟨Plan.ofRequestApart ok, (planNodup ok).2.1⟩⟩
  obtain ⟨plan, ok, same, carried⟩ := fillPlan ends
  subst same
  refine ⟨fun e root' m paths' e' region' ends' => ?_, fun q entry there apart => ?_,
    ⟨plan, ok, rfl, fun q entry missing there => ?_⟩, fun t quiet disk => ?_⟩
  · obtain ⟨plan', ok', rfl, carried'⟩ := fillPlan ends'
    exact filesAgree region region' ok ok' carried carried'
  · refine carryOutKeeps region ok carried there fun f member => ?_
    exact apart f.path (List.mem_map_of_mem member)
  · refine (carryOutNew region ok carried missing there).imp_left fun ⟨f, member, found⟩ => ?_
    exact ⟨f.path, List.mem_map_of_mem member, found⟩
  · obtain ⟨t', again, kept⟩ := carryOutTwice region ok carried quiet disk
    exact ⟨t', fillEnds ok rfl again, kept⟩

/- Two classes with the same files, in an empty directory on a disk without limits -/

def roomy : Session := .start (Disk.empty .unlimited) fun _ => ⟨0⟩

theorem roomyEmpty (rel : Location) (some : rel ≠ []) : roomy.disk.get? (rel ++ []) = none := by
  simp [roomy, Session.start, Disk.get?, Disk.empty, some]

theorem roomyRegion : Region roomy.disk ⟨"/"⟩ [] := by
  refine ⟨Disk.emptyWellFormed .unlimited, by decide, rfl, fun rel some target link => ?_⟩
  cases (roomyEmpty rel some).symm.trans link

theorem slashedPasses : Plan.refusal? slashed .postgresql = none := by decide +kernel

theorem fillSettlesSlashed : ∃ paths s' t',
    Ends (fill ⟨"/"⟩ slashed .postgresql : Program FilingFault (List Path)) roomy (.ok paths) s' ∧
      Ends (fill ⟨"/"⟩ slashed .postgresql : Program FilingFault (List Path))
        (.start s'.disk fun _ => ⟨0⟩) (.ok paths) t' ∧ ∀ q, t'.disk.get? q = s'.disk.get? q := by
  obtain ⟨each, succeeds, _⟩ := @fillSettles ⟨"/"⟩ slashed .postgresql [] roomy roomyRegion
  obtain ⟨paths, s', ends⟩ := succeeds roomyEmpty rfl (fun _ => rfl) slashedPasses
  obtain ⟨_, _, _, again⟩ := each paths s' ends
  obtain ⟨t', twice, kept⟩ := again (.start s'.disk fun _ => ⟨0⟩) (fun _ => rfl) rfl
  exact ⟨paths, s', t', ends, twice, kept⟩

theorem filesMeet : ¬ ∀ (s : Session) (root : Path) (l : Location) (r : Request) (database : Database),
    Region s.disk root l → (∀ rel, rel ≠ [] → s.disk.get? (rel ++ l) = none) → s.disk.limits = .unlimited →
    s.Quiet → Plan.refusal? r database = none →
    ∃ paths s', Ends (fill root r database : Program FilingFault (List Path)) s (.ok paths) s' ∧
      (paths.map Path.parts).Nodup := by
  intro all
  obtain ⟨paths, s', ends, distinct⟩ := all roomy ⟨"/"⟩ [] slashed .postgresql roomyRegion roomyEmpty rfl
    (fun _ => rfl) slashedPasses
  obtain ⟨plan, ok, rfl, _⟩ := fillPlan ends
  rw [List.map_map] at distinct
  have namings : Plan.namings slashed = [⟨"A/", "a/"⟩, ⟨"A//", "a//"⟩] := by decide +kernel
  have apart := (planNodup ok).2.1.1 distinct
  rw [namings] at apart
  exact (List.pairwise_cons.1 apart).1 _ (by simp) slashedClash

end Scaffold
end ClassScaffold
