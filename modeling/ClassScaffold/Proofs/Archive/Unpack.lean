import ClassScaffold.Archive.Unpack
import ClassScaffold.Proofs.Archive.Named
import ClassScaffold.Proofs.Disk.Fill
import ClassScaffold.Proofs.Disk.Tree
/-! What comes out of an archive. Unpacking the entries of a tree into an empty directory gives the tree again,
where the limits of the machine take the paths of all entries there. -/
namespace ClassScaffold.Archive
open Disk (Location Region Overlays Shows place IsMakeable IsWritable HasNames HasTexts)
open Text.Utf8 (Bytes encode)

/- The entries of a tree -/

def contentsIn (d : Disk) (place : Location) : Bytes :=
  match d.get? place with
  | some (.file contents) => contents
  | _ => []

def entryOf (d : Disk) (l : Location) (n : Node) : Entry := ⟨n.entryName, n.kind, contentsIn d (n.location ++ l)⟩

def entriesOf (d : Disk) (l : Location) : List Entry := (nodesBelow d l).map (entryOf d l)

variable {d : Disk} {l : Location} {n : Node} {names : List String}

theorem entryText (called : IsCalled n names) : (entryOf d l n).name = "/".intercalate names ∨
    (entryOf d l n).name = "/".intercalate names ++ "/" := by
  rw [← calledPath called, entryOf, Node.entryName]
  cases n.kind with
  | directory => exact .inr rfl
  | file => exact .inl rfl

theorem entryParts (called : IsCalled n names) : (⟨(entryOf d l n).name⟩ : Path).parts = names.map .normal := by
  have parts := Path.namesParts called.plain
  rcases entryText (d := d) (l := l) called with name | name
  · rw [name, parts]
  · have some : ("/".intercalate names).toList ≠ [] := by
      intro none
      have empty : "/".intercalate names = "" := String.toList_injective none
      rw [empty] at parts
      exact called.some (List.map_eq_nil_iff.1 parts.symm)
    have closed := Path.slashEnd some
    rw [String.ofList_toList, parts] at closed
    have text : (⟨"/".intercalate names ++ "/"⟩ : Path).text.toList = ("/".intercalate names).toList ++ ['/'] :=
      String.toList_append ..
    rw [name, Path.ofText text, closed]

theorem entryMakeable (called : IsCalled n names) : IsMakeable ⟨(entryOf d l n).name⟩ := by
  have whole : IsMakeable ⟨"/".intercalate names⟩ := by
    rw [← Path.ofPartsNames]
    obtain ⟨outer, name, rfl⟩ := names.eq_nil_or_concat'.resolve_left called.some
    rw [List.map_append]
    refine Disk.parentMakeable (called.plain name (by simp)) fun part member => ?_
    rw [← List.map_singleton, ← List.map_append] at member
    obtain ⟨other, inside, rfl⟩ := List.mem_map.1 member
    exact called.clean other inside
  rcases entryText (d := d) (l := l) called with name | name
  · rwa [name]
  · obtain ⟨before, last, steps⟩ := whole.named
    refine ⟨⟨before, last, ?_⟩, ?_⟩
    · rw [name, String.toList_append]
      change Disk.stepsOf (_ ++ '/' :: []) = _
      rw [Disk.stepsSlash, steps]
      simp [Disk.stepsOf, Text.splitAt, Disk.stepOf]
    · rw [name, String.toList_append, List.mem_append]
      exact fun inside => inside.elim whole.clean (by decide)

variable {root : Path}

theorem entryWithin (root : Path) (called : IsCalled n names) : root.Within names (root.join (entryOf d l n).name) :=
  withinJoin (withinSelf root) called.some (entryParts called)

theorem entryJoined (called : IsCalled n names) (clean : '\x00' ∉ root.text.toList) :
    IsMakeable (root.join (entryOf d l n).name) ∧
      (n.kind = .file → IsWritable (root.join (entryOf d l n).name)) := by
  have makeable := entryMakeable (d := d) (l := l) called
  have relative : (entryOf d l n).name.toList.head? ≠ some '/' := by
    have parts := entryParts (d := d) (l := l) called
    obtain ⟨name, rest, rfl⟩ := List.exists_cons_of_ne_nil called.some
    exact (Path.partsStart (s := (entryOf d l n).name.toList) (by simpa using parts)).1
  refine ⟨Disk.joinMakeable clean relative makeable, fun file => Disk.joinWritable clean relative ⟨makeable, ?_⟩⟩
  simpa [entryOf, Node.entryName, file] using calledLast called

/- One entry after the other -/

theorem madeOk {d d' : Disk} {p : Path} : made d p = .ok d' ↔ d.makeDirectories p = (.ok (), d') := by
  rcases run : d.makeDirectories p with ⟨result, left⟩
  cases result with
  | error e => simp [made, run, Except.map]
  | ok => simp [made, run, Except.map]

theorem unpackEntryOk {e : Entry} {d d' : Disk} {p : Path} (join : root.join e.name = p) (within : root.Within names p)
    (some : names ≠ []) : unpackEntry root d e = .ok d' ↔
      match e.kind with
      | .directory => d.makeDirectories p = (.ok (), d')
      | .file => ∃ q d₁, p.parent? = .some q ∧ d.makeDirectories q = (.ok (), d₁) ∧ d₁.write p e.contents = .ok d' := by
  obtain ⟨outer, name, rfl⟩ := names.eq_nil_or_concat'.resolve_left some
  obtain ⟨q, above, _⟩ := Path.withinParent within
  unfold unpackEntry
  simp only [join, above]
  cases e.kind with
  | directory => exact madeOk
  | file =>
    constructor
    · intro ok
      cases first : made d q with
      | error e => simp [first, bind, Except.bind] at ok
      | ok d₁ => exact ⟨q, d₁, rfl, madeOk.1 first, by simpa [first, bind, Except.bind] using ok⟩
    · rintro ⟨q', d₁, same, first, last⟩
      cases same
      rw [← madeOk] at first
      simp [first, bind, Except.bind, last]

/-- The directories that an entry needs, as the innermost of them. -/
def wayOf (n : Node) : Location :=
  match n.kind with
  | .directory => n.location
  | .file => n.location.tail

def fileOf (d : Disk) (l : Location) (n : Node) : Option (Location × Bytes) :=
  match n.kind with
  | .directory => none
  | .file => some (n.location, contentsIn d (n.location ++ l))

/-- What one entry adds to a directory. -/
theorem unpackEntryOverlays {b e e' : Disk} {m : Location} {ways : List Location} {files : List (Location × Bytes)}
    (called : IsCalled n names) (region : Region e root m) (tree : Overlays b e m ways files)
    (ok : unpackEntry root e (entryOf d l n) = .ok e') : Region e' root m ∧
      Overlays b e' m (wayOf n :: ways) ((fileOf d l n).toList ++ files) := by
  have within := entryWithin (d := d) (l := l) root called
  generalize join : root.join (entryOf d l n).name = p at within
  rw [unpackEntryOk join within called.some] at ok
  have region' {e₁ : Disk} {p : Path} {names : List String} (within : root.Within names p)
      (runs : e.makeDirectories p = (.ok (), e₁)) : Region e₁ root m :=
    Disk.regionConfined region (Disk.makeDirectoriesThrough region within runs).1
  obtain ⟨location, kind⟩ := n
  obtain rfl : location = place names := called.location
  cases kind with
  | directory => exact ⟨region' within ok, Disk.overlaysMade region within tree ok⟩
  | file =>
    obtain ⟨q, e₁, above, runs, wrote⟩ := ok
    obtain ⟨outer, name, split⟩ := names.eq_nil_or_concat'.resolve_left called.some
    obtain ⟨q', above', around⟩ := Path.withinParent (split ▸ within)
    cases above.symm.trans above'
    have parent := Disk.overlaysMade region around tree runs
    have regionQ := region' around runs
    have tail : (place names).tail = place outer := by
      rw [split, Disk.placeAppend]
      rfl
    have whole := Disk.overlaysWritten regionQ within called.some parent wrote
    rw [← tail] at whole
    exact ⟨Disk.regionConfined regionQ (Disk.writeConfined regionQ.wellFormed called.some within wrote), whole⟩

def waysBelow (d : Disk) (l : Location) : List Location := ((nodesBelow d l).map wayOf).reverse

def filesBelow (d : Disk) (l : Location) : List (Location × Bytes) := ((nodesBelow d l).filterMap (fileOf d l)).reverse

theorem unpackOverlays {b e e' : Disk} {m : Location} {nodes : List Node} {ways : List Location}
    {files : List (Location × Bytes)} (called : ∀ n ∈ nodes, ∃ names, IsCalled n names) (region : Region e root m)
    (tree : Overlays b e m ways files) (ok : unpack root e (nodes.map (entryOf d l)) = .ok e') : Region e' root m ∧
    Overlays b e' m ((nodes.map wayOf).reverse ++ ways) ((nodes.filterMap (fileOf d l)).reverse ++ files) := by
  unfold unpack at ok
  induction nodes generalizing e ways files with
  | nil =>
    cases ok
    exact ⟨region, by simpa using tree⟩
  | cons n rest ih =>
    rw [List.map_cons, List.foldlM_cons] at ok
    obtain ⟨names, here⟩ := called n List.mem_cons_self
    cases first : unpackEntry root e (entryOf d l n) with
    | error fault => simp [first, bind, Except.bind] at ok
    | ok e₁ =>
      obtain ⟨region₁, tree₁⟩ := unpackEntryOverlays here region tree first
      obtain ⟨region', whole⟩ := ih (fun m h => called m (List.mem_cons_of_mem _ h)) region₁ tree₁
        (by simpa [first, bind, Except.bind] using ok)
      refine ⟨region', ?_⟩
      cases file : fileOf d l n <;> simpa [file] using whole

/- The whole tree -/

section
variable {m rel : Location} {e e' : Disk} (region : Region d root l)
include region

theorem nodeAt (some : rel ≠ []) {entry : Disk.Entry} (there : d.get? (rel ++ l) = .some entry) :
    (⟨rel, if entry = .directory then .directory else .file⟩ : Node) ∈ nodesBelow d l :=
  (memNodesBelow region.wellFormed).2 ⟨some, entry, there, rfl⟩

theorem nodeDirectory : (⟨rel, .directory⟩ : Node) ∈ nodesBelow d l ↔
    rel ≠ [] ∧ d.get? (rel ++ l) = .some .directory := by
  refine ⟨fun member => ?_, fun there => nodeAt region there.1 there.2⟩
  obtain ⟨some, entry, there, kind⟩ := (memNodesBelow region.wellFormed).1 member
  by_cases directory : entry = .directory
  · exact ⟨some, directory ▸ there⟩
  · rw [if_neg directory] at kind
    cases kind

/-- Every directory around a node is a node of the tree. -/
theorem aroundDirectory (member : n ∈ nodesBelow d l) (some : rel ≠ []) (suffix : rel <:+ n.location)
    (other : rel ≠ n.location) : (⟨rel, .directory⟩ : Node) ∈ nodesBelow d l := by
  obtain ⟨_, entry, there, _⟩ := (memNodesBelow region.wellFormed).1 member
  have located : d.get? (n.location ++ l) ≠ none := by simp [there]
  have above := Disk.directoryAbove region.wellFormed located suffix other
  exact (nodeDirectory region).2 ⟨some, above⟩

theorem wayDirectory (member : n ∈ nodesBelow d l) (some : rel ≠ []) (suffix : rel <:+ wayOf n) :
    (⟨rel, .directory⟩ : Node) ∈ nodesBelow d l := by
  obtain ⟨location, kind⟩ := n
  cases kind with
  | directory =>
    by_cases whole : rel = location
    · exact whole ▸ member
    · exact aroundDirectory region member some suffix whole
  | file =>
    have around : rel <:+ location.tail := suffix
    refine aroundDirectory region member some (around.trans (List.tail_suffix _)) fun whole => ?_
    obtain rfl : rel = location := whole
    have lengths := around.length_le
    have long := List.length_pos_of_ne_nil some
    rw [List.length_tail] at lengths
    omega

theorem fileListed {c : Bytes} : (rel, c) ∈ filesBelow d l ↔ rel ≠ [] ∧ d.get? (rel ++ l) = some (.file c) := by
  rw [filesBelow, List.mem_reverse, List.mem_filterMap]
  constructor
  · rintro ⟨⟨location, kind⟩, member, file⟩
    cases kind with
    | directory => cases file
    | file =>
      cases file
      obtain ⟨some, entry, there, kind⟩ := (memNodesBelow region.wellFormed).1 member
      refine ⟨some, ?_⟩
      rw [contentsIn, there]
      cases entry with
      | directory => cases kind
      | file c => rfl
      | link target => exact absurd there (region.clear _ some target)
  · rintro ⟨some, there⟩
    refine ⟨⟨rel, .file⟩, nodeAt region some there, ?_⟩
    rw [fileOf, contentsIn, there]

/-- The nodes of a tree show all of it. -/
theorem nodesShow : Shows d l (waysBelow d l) (filesBelow d l) := by
  refine ⟨fun rel some => ⟨fun there => ?_, ?_⟩, fun rel some c => ⟨fun there => ?_, fun listed => ?_⟩⟩
  · have member := (nodeDirectory region).2 ⟨some, there⟩
    exact ⟨rel, List.mem_reverse.2 (List.mem_map.2 ⟨_, member, rfl⟩), List.suffix_refl _⟩
  · rintro ⟨way, inWays, suffix⟩
    obtain ⟨n, member, rfl⟩ := List.mem_map.1 (List.mem_reverse.1 inWays)
    exact ((nodeDirectory region).1 (wayDirectory region member some suffix)).2
  · cases looked : (filesBelow d l).lookup rel with
    | none => simpa using List.lookup_eq_none_iff.1 looked _ ((fileListed region).2 ⟨some, there⟩)
    | some c' =>
      obtain ⟨before, after, whole, _⟩ := List.lookup_eq_some_iff.1 looked
      have listed : (rel, c') ∈ filesBelow d l := by simp [whole]
      obtain ⟨_, there'⟩ := (fileListed region).1 listed
      cases there.symm.trans there'
      rfl
  · obtain ⟨before, after, whole, _⟩ := List.lookup_eq_some_iff.1 listed
    exact ((fileListed region).1 (by simp [whole])).2

variable (named : HasNames d l) (texts : HasTexts d l)
include named texts

theorem unpackSame {target : Path} (into : Region e target m) (empty : ∀ rel, rel ≠ [] → e.get? (rel ++ m) = none)
    (ok : unpack target e (entriesOf d l) = .ok e') (some : rel ≠ []) : e'.get? (rel ++ m) = d.get? (rel ++ l) := by
  obtain ⟨into', tree⟩ :=
    unpackOverlays (fun n => nodeCalled region.wellFormed named texts) into (Disk.overlaysNothing e m) ok
  rw [List.append_nil, List.append_nil] at tree
  exact Disk.showsAlike into' region (Disk.overlaysShow empty tree) (nodesShow region) some

/-- Neither the path of an entry in a directory nor a name in it is too long. -/
def IsTaken (limits : Disk.Limits) (target : Path) (n : Node) : Prop :=
  limits.allowPath (encode (target.join n.entryName).text) = true ∧ ∀ name ∈ n.location, limits.allowName name = true

theorem unpackEntryRuns {limits : Disk.Limits} {target : Path} (member : n ∈ nodesBelow d l)
    (taken : IsTaken limits target n)
    (filling : Disk.Filling target m limits (fun rel => ⟨rel, .file⟩ ∈ nodesBelow d l)
      (fun rel => ⟨rel, .directory⟩ ∈ nodesBelow d l) e) :
    ∃ e', unpackEntry target e (entryOf d l n) = .ok e' ∧
      Disk.Filling target m limits (fun rel => ⟨rel, .file⟩ ∈ nodesBelow d l)
        (fun rel => ⟨rel, .directory⟩ ∈ nodesBelow d l) e' := by
  have apart (rel : Location) (file : (⟨rel, .file⟩ : Node) ∈ nodesBelow d l) :
      (⟨rel, .directory⟩ : Node) ∉ nodesBelow d l := by
    intro directory
    cases List.inj_on_of_nodup_map (nodesDistinct region.wellFormed) file directory rfl
  obtain ⟨names, called⟩ := nodeCalled region.wellFormed named texts member
  have within := entryWithin (d := d) (l := l) target called
  obtain ⟨makeable, writable⟩ := entryJoined (d := d) (l := l) called (Disk.findText filling.region.found).1
  have takes : limits.Takes (target.join (entryOf d l n).name) names := by
    refine ⟨taken.1, fun name inside => taken.2 _ ?_⟩
    rw [called.location]
    exact List.mem_reverse.2 (List.mem_map_of_mem inside)
  obtain ⟨location, kind⟩ := n
  obtain rfl : location = place names := called.location
  cases kind with
  | directory =>
    have parts : (target.join (entryOf d l ⟨place names, .directory⟩).name).parts ≠ [] := by
      rw [within]
      simp [called.some]
    obtain ⟨e', runs, filled, _⟩ := Disk.makeDirectoriesFills apart filling takes within parts makeable.clean
      (fun _ => makeable) fun rel some suffix => wayDirectory region member some suffix
    exact ⟨e', (unpackEntryOk rfl within called.some).2 runs, filled⟩
  | file =>
    obtain ⟨q, above, e₁, runs, e', wrote, filled⟩ := Disk.writeFills apart filling takes within called.some
      (writable rfl) (fun rel some suffix => wayDirectory region member some suffix) member
      (contentsIn d (place names ++ l))
    exact ⟨e', (unpackEntryOk rfl within called.some).2 ⟨q, e₁, above, runs, wrote⟩, filled⟩

theorem unpackRuns {limits : Disk.Limits} {target : Path} {nodes : List Node}
    (inside : ∀ n ∈ nodes, n ∈ nodesBelow d l) (taken : ∀ n ∈ nodes, IsTaken limits target n)
    (filling : Disk.Filling target m limits (fun rel => ⟨rel, .file⟩ ∈ nodesBelow d l)
      (fun rel => ⟨rel, .directory⟩ ∈ nodesBelow d l) e) :
    ∃ e', unpack target e (nodes.map (entryOf d l)) = .ok e' := by
  unfold unpack
  induction nodes generalizing e with
  | nil => exact ⟨e, rfl⟩
  | cons n rest ih =>
    obtain ⟨e₁, first, filled⟩ := unpackEntryRuns region named texts (inside n List.mem_cons_self)
      (taken n List.mem_cons_self) filling
    obtain ⟨e', later⟩ := ih (fun m h => inside m (List.mem_cons_of_mem _ h))
      (fun m h => taken m (List.mem_cons_of_mem _ h)) filled
    refine ⟨e', ?_⟩
    rw [List.map_cons, List.foldlM_cons, first]
    exact later

end

end ClassScaffold.Archive
