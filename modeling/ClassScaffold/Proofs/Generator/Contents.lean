import ClassScaffold.Proofs.Archive.Tree
import ClassScaffold.Proofs.Generator.Success
/-! The archive of a project that was generated holds the tree that was planned: every file once, with the
text that was written to its path last, and the directories around the files. -/
namespace ClassScaffold
open Session (Ends Program)
open Disk (Location Region Shows Made place placeFrom)
open Text.Utf8 (Bytes encode)
open Archive (Entry Node Packed)

namespace Generator

/-- The entries are the tree of a plan, by names that go on from its root. -/
structure IsArchive (root : Path) (plan : Plan) (entries : List Entry) : Prop where
  distinct : (entries.map Entry.name).Nodup
  files : ∀ e, e ∈ entries ∧ e.kind = .file ↔ ∃ f, Plan.IsLast root plan f ∧
    e = ⟨"/".intercalate (root.namesFrom f.path), .file, encode f.text⟩
  directories : ∀ e, e ∈ entries ∧ e.kind = .directory ↔ ∃ names, Plan.HasDirectory root plan names ∧
    e = ⟨"/".intercalate names ++ "/", .directory, []⟩
  relative : ∀ e ∈ entries, e.name = "pom.xml" ∨ "src/".toList <+: e.name.toList
  outerFirst : entries.Pairwise fun a b => b.kind = .directory → ¬ b.name.toList <+: a.name.toList

variable {root : Path} {r : Request} {database : Database} {plan : Plan} {d : Disk} {l : Location}
  {entries : List Entry}

theorem fileEntry (ok : Plan.ofRequest root r database = .ok plan) (region : Region d root l)
    (tree : Shows d l (Scaffold.waysOf root plan) (plan.files.map (Scaffold.placed root)).reverse)
    (packed : Packed d root l entries) (e : Entry) : e ∈ entries ∧ e.kind = .file ↔
      ∃ f, Plan.IsLast root plan f ∧ e = ⟨"/".intercalate (root.namesFrom f.path), .file, encode f.text⟩ := by
  rw [Archive.packedFile region packed]
  constructor
  · rintro ⟨rel, c, some, there, rfl⟩
    obtain ⟨f, last, rfl, rfl⟩ := (Plan.showsFile tree some).1 there
    refine ⟨f, last, ?_⟩
    rw [placeFrom, Node.entryName, Archive.nodePath]
  · rintro ⟨f, last, rfl⟩
    have some : placeFrom root f.path ≠ [] := fun none =>
      (Plan.fileNamesFrom ok (Plan.lastFile last)).1 (Disk.placeEmpty.1 none)
    refine ⟨placeFrom root f.path, _, some, (Plan.showsFile tree some).2 ⟨f, last, rfl, rfl⟩, ?_⟩
    rw [placeFrom, Node.entryName, Archive.nodePath]

theorem directoryEntry (ok : Plan.ofRequest root r database = .ok plan) (region : Region d root l)
    (tree : Shows d l (Scaffold.waysOf root plan) (plan.files.map (Scaffold.placed root)).reverse)
    (packed : Packed d root l entries) (e : Entry) : e ∈ entries ∧ e.kind = .directory ↔
      ∃ names, Plan.HasDirectory root plan names ∧ e = ⟨"/".intercalate names ++ "/", .directory, []⟩ := by
  rw [Archive.packedDirectory region packed]
  constructor
  · rintro ⟨rel, some, there, rfl⟩
    obtain ⟨names, has, rfl⟩ := (Plan.showsDirectory ok tree some).1 there
    refine ⟨names, has, ?_⟩
    rw [Node.entryName, Archive.nodePath]
  · rintro ⟨names, has, rfl⟩
    have some : place names ≠ [] := fun none => has.1 (Disk.placeEmpty.1 none)
    refine ⟨place names, some, (Plan.showsDirectory ok tree some).2 ⟨names, has, rfl⟩, ?_⟩
    rw [Node.entryName, Archive.nodePath]

/- Names of entries -/

theorem filePieces (ok : Plan.ofRequest root r database = .ok plan) {f : PlannedFile} (member : f ∈ plan.files) :
    Archive.ArePieces (root.namesFrom f.path) := by
  obtain ⟨some, within⟩ := Plan.fileNamesFrom ok member
  exact ⟨some, fun name inside => (Path.withinPlain within name inside).2.2.2⟩

theorem directoryPieces (ok : Plan.ofRequest root r database = .ok plan) {names : List String}
    (has : Plan.HasDirectory root plan names) : Archive.ArePieces names := by
  obtain ⟨some, ⟨f, member, within, _⟩ | rfl⟩ := has
  · exact ⟨some, fun name inside => (filePieces ok member).2 name (within.subset inside)⟩
  · exact ⟨some, by decide⟩

theorem directoryStart (ok : Plan.ofRequest root r database = .ok plan) {names : List String}
    (has : Plan.HasDirectory root plan names) : ∃ rest, names = "src" :: rest := by
  obtain ⟨some, ⟨f, member, within, other⟩ | rfl⟩ := has
  · obtain ⟨first, rest, rfl⟩ := List.exists_cons_of_ne_nil some
    rcases Plan.fileStart ok member with pom | ⟨next, later, src⟩
    · rw [pom] at within other
      obtain ⟨rfl, none⟩ := List.cons_prefix_cons.1 within
      exact absurd (congrArg _ (List.prefix_nil.1 none)) other
    · rw [src] at within
      obtain ⟨rfl, _⟩ := List.cons_prefix_cons.1 within
      exact ⟨rest, rfl⟩
  · exact ⟨_, rfl⟩

theorem sourceStart (next : String) (rest : List String) :
    "src/".toList <+: ("/".intercalate ("src" :: next :: rest)).toList := by
  rw [String.intercalate_cons_cons, String.toList_append]
  exact List.prefix_append ..

theorem entryRelative (ok : Plan.ofRequest root r database = .ok plan)
    (file : ∀ e, e ∈ entries ∧ e.kind = .file ↔ ∃ f, Plan.IsLast root plan f ∧
      e = ⟨"/".intercalate (root.namesFrom f.path), .file, encode f.text⟩)
    (directory : ∀ e, e ∈ entries ∧ e.kind = .directory ↔ ∃ names, Plan.HasDirectory root plan names ∧
      e = ⟨"/".intercalate names ++ "/", .directory, []⟩) :
    ∀ e ∈ entries, e.name = "pom.xml" ∨ "src/".toList <+: e.name.toList := by
  intro e member
  cases kind : e.kind with
  | file =>
    obtain ⟨f, last, rfl⟩ := (file e).1 ⟨member, kind⟩
    rcases Plan.fileStart ok (Plan.lastFile last) with pom | ⟨next, rest, src⟩
    · exact .inl (by simp [pom])
    · right
      rw [src]
      exact sourceStart next rest
  | directory =>
    obtain ⟨names, has, rfl⟩ := (directory e).1 ⟨member, kind⟩
    obtain ⟨rest, rfl⟩ := directoryStart ok has
    right
    cases rest with
    | nil => decide
    | cons next rest =>
      rw [String.toList_append]
      exact (sourceStart next rest).trans (List.prefix_append ..)

theorem packedPlan (ok : Plan.ofRequest root r database = .ok plan) (region : Region d root l)
    (tree : Shows d l (Scaffold.waysOf root plan) (plan.files.map (Scaffold.placed root)).reverse)
    (packed : Packed d root l entries) (distinct : (entries.map Entry.name).Nodup) :
    IsArchive root plan entries := by
  have file := fileEntry ok region tree packed
  have directory := directoryEntry ok region tree packed
  refine ⟨distinct, file, directory, entryRelative ok file directory,
    Archive.packedOuterFirst region.wellFormed packed fun n member => ?_⟩
  obtain ⟨some, e, there, _⟩ := (Archive.memNodesBelow region.wellFormed).1 member
  cases e with
  | directory =>
    obtain ⟨names, has, same⟩ := (Plan.showsDirectory ok tree some).1 there
    exact ⟨names, same, directoryPieces ok has⟩
  | file c =>
    obtain ⟨f, last, same, _⟩ := (Plan.showsFile tree some).1 there
    exact ⟨_, same, filePieces ok (Plan.lastFile last)⟩
  | link target => exact absurd there (region.clear _ some target)

/- The run -/

variable {g : Generator} {s s' : Session} {w : Workspace}

theorem buildOk {contents : Bytes} (ends : Ends (g.build w r : Program Failure _) s (.ok contents) s') :
    ∃ paths t count u, Ends (Scaffold.fill w.project r g.database : Program FilingFault _) s (.ok paths) t ∧
      Ends (Archive.pack w.project w.archive : Program ArchiveFault _) t (.ok count) u ∧
      u.disk.read w.archive = .ok contents := by
  unfold build at ends
  obtain ⟨paths, t, filled, ends⟩ := Session.endsBindOk ends
  obtain ⟨count, u, packed, ends⟩ := Session.endsBindOk ends
  exact ⟨paths, t, count, u, inPhaseOk filled, inPhaseOk packed, (Session.lookOk (Session.attemptOk ends)).1⟩

theorem buildContents {lp : Location} {contents : Bytes} (root : Region s.disk w.root l)
    (project : Region s.disk w.project lp) (empty : ∀ rel, rel ≠ [] → s.disk.get? (rel ++ lp) = none)
    (ends : Ends (g.build w r : Program Failure _) s (.ok contents) s') :
    ∃ plan t, Plan.ofRequest w.project r g.database = .ok plan ∧
      Ends (Scaffold.fill w.project r g.database : Program FilingFault _) s
        (.ok (plan.files.map PlannedFile.path)) t ∧
      IsArchive w.project plan (Archive.Zip.entries contents) := by
  obtain ⟨paths, t, count, u, filled, packed, read⟩ := buildOk ends
  have confined := confinedOuter (projectWithin w)
    (Scaffold.fillStays filled project.wellFormed (Disk.regionThere project))
  have rootT := Disk.regionConfined root confined
  obtain ⟨plan, ok, rfl, projectT, tree⟩ := Scaffold.fillShows project empty filled
  obtain ⟨d, l', entries, opened, found, packed, distinct, written, _⟩ := Archive.packOk packed
  obtain ⟨_, projectD, same⟩ := archiveBeside rootT projectT opened
  obtain rfl : lp = l' := Except.ok.inj (projectD.found.symm.trans found)
  have archive := packedPlan ok projectD (Disk.showsSame tree fun rel _ => same rel) packed distinct
  have fits : ∀ e ∈ entries, Archive.Zip.Fits e := fun e member => by
    obtain ⟨n, inside, holds⟩ := Archive.packedEntry packed member
    obtain ⟨_, called⟩ := Plan.plannedCalled ok projectD (Disk.showsSame tree fun rel _ => same rel) inside
    exact Archive.holdsFits (Archive.calledLast called) holds
  rw [Disk.readWritten projectD.wellFormed written] at read
  cases read
  rw [Archive.Zip.entriesEncode fits]
  exact ⟨plan, t, ok, filled, archive⟩

/-- An archive that was generated holds exactly the files that were written into the project, and the
directories around them. -/
theorem generateContents {stream : Stream} (wf : s.disk.WellFormed)
    (ends : Ends (g.generate r : Program Failure _) s (.ok stream) s') :
    ∃ contents plan t u, stream.unread = some contents ∧ stream.length = contents.length ∧
      Plan.ofRequest (g.workspace s).project r g.database = .ok plan ∧
      Ends (Scaffold.fill (g.workspace s).project r g.database : Program FilingFault _) t
        (.ok (plan.files.map PlannedFile.path)) u ∧
      (∀ f ∈ plan.files, (g.workspace s).project.Within ((g.workspace s).project.namesFrom f.path) f.path) ∧
      IsArchive (g.workspace s).project plan (Archive.Zip.entries contents) := by
  obtain ⟨contents, t, created, built, rfl⟩ := generatedOk (generateCases ends)
  obtain ⟨_, l, lp, new⟩ := createdNew wf created
  obtain ⟨plan, v, ok, filled, archive⟩ := buildContents new.root new.project new.empty built
  exact ⟨contents, plan, t, v, rfl, rfl, ok, filled, fun f member => (Plan.fileNamesFrom ok member).2, archive⟩

def boundless : Session := .start (.empty .unlimited) fun _ => ⟨0⟩

def rooted : Generator := ⟨⟨"/"⟩, .postgresql⟩

/-- The archive has to be called otherwise than the project. -/
def shop : Request := ⟨some "My Shop", some "p", [⟨["Order"], ["- total: double"], []⟩]⟩

theorem shopNames : ((Plan.ofRequest ⟨"."⟩ shop .postgresql).map fun plan =>
    plan.files.map fun f => Path.namesFrom ⟨"."⟩ f.path) = .ok [["pom.xml"],
      ["src", "main", "resources", "application.properties"],
      ["src", "main", "java", "p", "MyShopApplication.java"],
      ["src", "test", "java", "p", "MyShopApplicationTests.java"],
      ["src", "main", "java", "p", "order", "model", "ModelOrder.java"],
      ["src", "main", "java", "p", "order", "repository", "RepositoryOrder.java"],
      ["src", "main", "java", "p", "order", "service", "ServiceOrder.java"],
      ["src", "main", "java", "p", "order", "controller", "ControllerOrder.java"]] := by decide +kernel

/-- Lengths are told of the pieces of a text, so that no text has to be put together. -/
theorem filledLength (t : Template) (b : Bindings) :
    (encode (t.fill b)).length = t.foldr (fun piece rest => (encode (piece.fill b)).length + rest) 0 := by
  rw [Template.fill, Text.Utf8.encodeJoin]
  induction t with
  | nil => rfl
  | cons piece rest ih => rw [List.map_cons, List.flatMap_cons, List.length_append, ih, List.foldr_cons]

theorem shopEntities : ∃ e, Plan.entities shop "p" = [e] ∧
    ∀ layer : Layer, (encode (layer.text e)).length ≤ Archive.lengthLimit := by
  refine ⟨(Plan.entities shop "p").head (by decide +kernel), rfl, fun layer => ?_⟩
  cases layer <;> refine (filledLength _ _).trans_le ?_ <;> decide +kernel

theorem shopFits {plan : Plan} (ok : Plan.ofRequest ⟨"."⟩ shop .postgresql = .ok plan) :
    Plan.FitsArchive ⟨"."⟩ plan := by
  refine ⟨fun f member => ?_, fun f member => ?_⟩
  · have names := shopNames
    rw [ok, Except.map, Except.ok.injEq] at names
    have listed := List.mem_map_of_mem member (f := fun f => Path.namesFrom ⟨"."⟩ f.path)
    rw [names] at listed
    revert listed
    generalize Path.namesFrom ⟨"."⟩ f.path = all
    revert all
    decide +kernel
  · obtain ⟨e, only, short⟩ := shopEntities
    have package : Package.ofSegments (Package.segments shop.package) = "p" := by decide +kernel
    have listed := List.mem_map_of_mem member (f := PlannedFile.text)
    simp only [Plan.ofRequestTexts ok, package, only, List.flatMap_cons, List.flatMap_nil, List.append_nil] at listed
    rcases List.mem_append.1 listed with project | layers
    · obtain ⟨file, _, same⟩ := List.mem_map.1 project
      rw [← same]
      cases file <;> refine (filledLength _ _).trans_le ?_ <;> decide +kernel
    · obtain ⟨layer, _, same⟩ := List.mem_map.1 layers
      exact same ▸ short layer

theorem shopEnds : ∃ stream s', Ends (rooted.generate shop : Program Failure _) boundless (.ok stream) s' := by
  let creating : Program FilingFault Workspace := Workspace.create rooted.sharedRoot
  have made : (creating.run.run boundless).1.isOk = true := by decide +kernel
  have passes : Plan.refusal? shop rooted.database = none := by decide +kernel
  obtain ⟨w, t, run⟩ := Session.endsIsOk made
  obtain ⟨plan', ok'⟩ := Plan.ofRequestPasses ⟨"."⟩ .postgresql passes
  exact generateRuns (Disk.emptyWellFormed .unlimited) (fun _ => rfl) rfl run passes fun plan ok =>
    Plan.fitsElsewhere ok ok' (shopFits ok')

theorem generateContentsShop : ∃ stream s',
    Ends (rooted.generate shop : Program Failure _) boundless (.ok stream) s' ∧
    ∃ contents plan, stream.unread = some contents ∧ plan.files.length = 8 ∧
      IsArchive (rooted.workspace boundless).project plan (Archive.Zip.entries contents) := by
  obtain ⟨stream, s', ends⟩ := shopEnds
  obtain ⟨contents, plan, _, _, unread, _, ok, _, _, archive⟩ := generateContents (Disk.emptyWellFormed .unlimited) ends
  have eight := congrArg List.length (Plan.ofRequestTexts ok)
  rw [List.length_map] at eight
  exact ⟨stream, s', ends, contents, plan, unread, eight.trans (by decide +kernel), archive⟩

end Generator
end ClassScaffold
