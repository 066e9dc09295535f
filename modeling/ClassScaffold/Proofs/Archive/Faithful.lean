import ClassScaffold.Proofs.Archive.Order
import ClassScaffold.Proofs.Archive.Tree
import ClassScaffold.Proofs.Archive.Unpack
/-! Whether an archive stands for the tree that was packed. It holds all nodes in the order of a visit, or packing
stops at the first node whose path is too long for the machine, that does not fit into the archive or whose name
has been taken. Unpacking it gives the tree again. -/
namespace ClassScaffold.Archive
open Session (Ends Program)
open Disk (Location Region HasNames HasTexts)
open Text.Utf8 (Bytes encode)

variable {s s' : Session} {source archive : Path} {d d' : Disk} {l q : Location}

/- The entries by the tree alone -/

theorem holdsEntry (region : Region d source l) {n : Node} {e : Entry} (member : n ∈ nodesBelow d l)
    (holds : Holds d source n e) : e = entryOf d l n := by
  obtain ⟨some, entry, there, kind⟩ := (memNodesBelow region.wellFormed).1 member
  have contents : e.contents = contentsIn d (n.location ++ l) := by
    cases same : n.kind with
    | file =>
      rw [contentsIn, (Disk.readBelowFile region some (holds.contents same)).1]
    | directory =>
      rw [holds.empty same, contentsIn, there]
      cases entry <;> simp_all
  obtain ⟨name, _, _⟩ := e
  cases holds.name
  cases holds.kind
  cases contents
  rfl

theorem packedEntries (region : Region d source l) {entries : List Entry}
    (packed : List.Forall₂ (Holds d source) (nodesBelow d l) entries) : entries = entriesOf d l := by
  have members := (List.forall₂_and_left _ _).2 ⟨fun n (member : n ∈ nodesBelow d l) => member, packed⟩
  have same : List.Forall₂ Eq ((nodesBelow d l).map (entryOf d l)) entries :=
    List.forall₂_map_left_iff.2 (members.imp fun n e ⟨member, holds⟩ => (holdsEntry region member holds).symm)
  rw [List.forall₂_eq_eq_eq] at same
  exact same.symm

theorem belowSame (wf : d.WellFormed) (wf' : d'.WellFormed) (same : d'.below l = d.below l) {rel : Location}
    (some : rel ≠ []) : d'.get? (rel ++ l) = d.get? (rel ++ l) := by
  refine Option.ext fun e => ?_
  have here : (rel, e) ∈ d.below l ↔ _ := Disk.belowGet wf
  have there : (rel, e) ∈ d'.below l ↔ _ := Disk.belowGet wf'
  rw [same] at there
  simpa [some] using there.symm.trans here

theorem nodesSame (same : d'.below l = d.below l) : nodesBelow d' l = nodesBelow d l := by
  rw [nodesBelow, nodesBelow, same]

theorem entriesSame (wf : d.WellFormed) (wf' : d'.WellFormed) (same : d'.below l = d.below l) :
    entriesOf d' l = entriesOf d l := by
  rw [entriesOf, entriesOf, nodesSame same]
  refine List.map_congr_left fun n member => ?_
  obtain ⟨some, _⟩ := (memNodesBelow wf).1 member
  rw [entryOf, entryOf, contentsIn, contentsIn, belowSame wf wf' same some]

theorem storableSame (wf : d.WellFormed) (wf' : d'.WellFormed) (same : d'.below l = d.below l)
    (limits : d'.limits = d.limits) {n : Node} (some : n.location ≠ []) :
    IsStorable d' source l n ↔ IsStorable d source l n := by
  have files := belowSame wf wf' same some
  constructor
  · rintro ⟨name, path, contents⟩
    exact ⟨name, limits ▸ path, files ▸ contents⟩
  · rintro ⟨name, path, contents⟩
    exact ⟨name, limits.symm ▸ path, files.symm ▸ contents⟩

theorem stopsSame (wf : d.WellFormed) (wf' : d'.WellFormed) (same : d'.below l = d.below l)
    (limits : d'.limits = d.limits) {taken : List String} {before : List Node} {n : Node} {e : ArchiveFault}
    (some : n.location ≠ []) (someBefore : ∀ m ∈ before, m.location ≠ [])
    (stops : StopsAt d' source l taken before n e) : StopsAt d source l taken before n e := by
  refine ⟨fun m member => ?_, stops.distinct, stops.fresh, ?_⟩
  · exact (storableSame wf wf' same limits (someBefore m member)).1 (stops.storable m member)
  · cases stops.refuses with
    | repeated old => exact .repeated old
    | name long => exact .name long
    | directory kind long => exact .directory kind (limits ▸ long)
    | file kind long => exact .file kind (limits ▸ long)
    | contents there long => exact .contents (belowSame wf wf' same some ▸ there) long

/-- Opening an archive outside of the tree leaves the tree as it is. -/
theorem archiveOpens (region : Region s.disk source l) (opens : s.disk.writePlace archive = .ok q)
    (outside : ¬ l <:+ q) : ∃ d d', s.disk.write archive [] = .ok d ∧ d.write archive [] = .ok d' ∧
      Region d source l ∧ d.below l = s.disk.below l ∧ d.limits = s.disk.limits := by
  have opened : s.disk.write archive [] = .ok (s.disk.put q (.file [])) := by
    unfold Disk.write
    rw [opens]
    rfl
  have below := Disk.putBelow s.disk outside (.file [])
  obtain ⟨d', again⟩ := Disk.writeReopens region.wellFormed opened
  obtain ⟨q', isPlace, put, _⟩ := Disk.writeFound region.wellFormed opened
  rw [put] at opened below again
  exact ⟨_, d', opened, again, Disk.regionGrows region (Disk.filePlaceGrows isPlace [])
    (Disk.filePlaceWellFormed region.wellFormed isPlace []), below, rfl⟩

/- Packing -/

theorem locationThere (wf : d.WellFormed) {n : Node} (member : n ∈ nodesBelow d l) :
    n.location ≠ [] ∧ d.get? (n.location ++ l) ≠ none := by
  obtain ⟨some, e, there, _⟩ := (memNodesBelow wf).1 member
  exact ⟨some, by simp [there]⟩

theorem namesApart (wf : d.WellFormed) (named : HasNames d l) :
    ((nodesBelow d l).map Node.entryName).Nodup ↔ AreApart (nodesBelow d l) := by
  refine entryNamesApart fun n member => ?_
  obtain ⟨some, there⟩ := locationThere wf member
  exact pathLast some (named.proper _ there)

/-- What is in an archive once packing has come to its end. -/
theorem packHolds {count : Nat} (region : Region s.disk source l) (named : HasNames s.disk l)
    (opens : s.disk.writePlace archive = .ok q) (outside : ¬ l <:+ q)
    (ends : Ends (pack source archive : Program ArchiveFault Nat) s (.ok count) s') :
    (∀ n ∈ nodesBelow s.disk l, IsStorable s.disk source l n) ∧ AreApart (nodesBelow s.disk l) ∧
      count = (s.disk.below l).length ∧
      ∃ bytes, s'.disk.read archive = .ok bytes ∧ Zip.entries bytes = entriesOf s.disk l := by
  have wf := region.wellFormed
  obtain ⟨d, _, opened, _, regionD, below, limits⟩ := archiveOpens region opens outside
  obtain ⟨d', l', entries, opened', found, packed, distinct, written, counted⟩ := packOk ends
  cases opened.symm.trans opened'
  cases regionD.found.symm.trans found
  have nodes := nodesSame below
  have whole := packedEntries regionD packed
  rw [entriesSame wf regionD.wellFormed below] at whole
  have fits : ∀ e ∈ entries, Zip.Fits e := by
    intro e member
    obtain ⟨n, inside, holds⟩ := packedEntry packed member
    rw [nodes] at inside
    obtain ⟨some, there⟩ := locationThere wf inside
    exact holdsFits (pathLast some (named.proper _ there)) holds
  refine ⟨fun n member => ?_, ?_, ?_, Zip.encode entries, Disk.readWritten regionD.wellFormed written, ?_⟩
  · rw [← storableSame wf regionD.wellFormed below limits (locationThere wf member).1]
    rw [← nodes] at member
    obtain ⟨_, _, holds⟩ := packedNode packed member
    exact holdsStorable regionD member holds
  · rw [whole, entriesOf, List.map_map] at distinct
    exact (namesApart wf named).1 distinct
  · rw [counted, whole, entriesOf, List.length_map, nodesBelow, inOrder, List.length_mergeSort, List.length_map]
  · rw [Zip.entriesEncode fits, whole]

/-- Packing comes to its end, or stops at the first node that is refused. -/
theorem packDecides (region : Region s.disk source l) (named : HasNames s.disk l)
    (opens : s.disk.writePlace archive = .ok q) (outside : ¬ l <:+ q) (quiet : s.Quiet) :
    (∃ s', Ends (pack source archive : Program ArchiveFault Nat) s (.ok (s.disk.below l).length) s') ∨
      ∃ before n after e s', nodesBelow s.disk l = before ++ n :: after ∧ StopsAt s.disk source l [] before n e ∧
        Ends (pack source archive : Program ArchiveFault Nat) s (.error e) s' := by
  have wf := region.wellFormed
  obtain ⟨d, d', opened, again, regionD, below, limits⟩ := archiveOpens region opens outside
  have nodes := nodesSame below
  have allowed : ∀ n ∈ nodesBelow d l, ∀ name ∈ n.location, d.limits.allowName name = true := by
    rw [nodes, limits]
    exact fun n member => named.allowed _ (locationThere wf member).2
  rcases packEnds quiet opened again regionD allowed with
    ⟨count, s', ends, _⟩ | ⟨before, n, after, e, s', split, stops, ends⟩
  · obtain ⟨_, _, rfl, _⟩ := packHolds region named opens outside ends
    exact .inl ⟨s', ends⟩
  · rw [nodes] at split
    have located {m : Node} (inside : m ∈ before ++ n :: after) : m.location ≠ [] :=
      (locationThere wf (split ▸ inside)).1
    exact .inr ⟨before, n, after, e, s', split, stopsSame wf regionD.wellFormed below limits (located (by simp))
      (fun m member => located (by simp [member])) stops, ends⟩

/-- Packing a tree to a place outside of it. Where the machine takes all paths of the tree and the archive has room
for its names and files, it succeeds with as many entries as there are nodes, unless two directories or two
files would have one name: that name is refused then. Otherwise it stops at the first node that does not fit,
and says why. An archive stands for all nodes, in the order of a visit. Where the names of the tree are texts,
no two of them meet, and unpacking the archive gives the tree again wherever the paths of its entries are
taken. -/
theorem packUnpacks (region : Region s.disk source l) (named : HasNames s.disk l)
    (opens : s.disk.writePlace archive = .ok q) (outside : ¬ l <:+ q) :
    (s.Quiet → (∀ n ∈ nodesBelow s.disk l, IsStorable s.disk source l n) →
      (AreApart (nodesBelow s.disk l) →
        ∃ s', Ends (pack source archive : Program ArchiveFault Nat) s (.ok (s.disk.below l).length) s') ∧
      (¬ AreApart (nodesBelow s.disk l) →
        ∃ before n after s', nodesBelow s.disk l = before ++ n :: after ∧ n.entryName ∈ before.map Node.entryName ∧
          Ends (pack source archive : Program ArchiveFault Nat) s (.error (.duplicate n.entryName)) s')) ∧
    (s.Quiet → ¬ (∀ n ∈ nodesBelow s.disk l, IsStorable s.disk source l n) →
      ∃ before n after e s', nodesBelow s.disk l = before ++ n :: after ∧ StopsAt s.disk source l [] before n e ∧
        Ends (pack source archive : Program ArchiveFault Nat) s (.error e) s') ∧
    (∀ count s', Ends (pack source archive : Program ArchiveFault Nat) s (.ok count) s' →
      (∀ n ∈ nodesBelow s.disk l, IsStorable s.disk source l n) ∧ AreApart (nodesBelow s.disk l) ∧
      count = (s.disk.below l).length ∧
      ∃ bytes, s'.disk.read archive = .ok bytes ∧ Zip.entries bytes = entriesOf s.disk l) ∧
    Visits s.disk l [] ((nodesBelow s.disk l).map Node.location) ∧
    (HasTexts s.disk l → AreApart (nodesBelow s.disk l) ∧
      ∀ e target m, Region e target m → (∀ rel, rel ≠ [] → e.get? (rel ++ m) = none) →
        ((∀ n ∈ nodesBelow s.disk l, IsTaken e.limits target n) →
          ∃ e', unpack target e (entriesOf s.disk l) = .ok e') ∧
        ∀ e', unpack target e (entriesOf s.disk l) = .ok e' →
          ∀ rel, rel ≠ [] → e'.get? (rel ++ m) = s.disk.get? (rel ++ l)) := by
  have wf := region.wellFormed
  have decides := packDecides region named opens outside
  have holds {count : Nat} {s' : Session}
      (ends : Ends (pack source archive : Program ArchiveFault Nat) s (.ok count) s') :=
    packHolds region named opens outside ends
  refine ⟨fun quiet storable => ⟨fun apart => ?_, fun together => ?_⟩, fun quiet unfit => ?_,
    fun count s' ends => holds ends,
    nodesVisited wf, fun texts => ⟨?_, fun e target m into empty => ⟨fun taken => ?_, fun e' ok rel some => ?_⟩⟩⟩
  · rcases decides quiet with went | ⟨before, n, after, e, _, split, stops, _⟩
    · exact went
    · exact absurd stops.refuses (refusesNone storable ((namesApart wf named).2 apart) split)
  · rcases decides quiet with ⟨s', ends⟩ | ⟨before, n, after, e, s', split, stops, ends⟩
    · exact absurd (holds ends).2.1 together
    · obtain ⟨old, rfl⟩ := refusesRepeated stops.refuses (storable n (by simp [split]))
      exact ⟨before, n, after, s', split, old, ends⟩
  · rcases decides quiet with ⟨s', ends⟩ | refused
    · exact absurd (holds ends).1 unfit
    · exact refused
  · exact textsApart wf fun n member => nodeCalled wf named texts member
  · exact unpackRuns region named texts (fun _ member => member) taken (Disk.fillingEmpty into rfl empty)
  · exact unpackSame region named texts into empty ok some

/- A file with a backslash at its end, and a directory with nothing in it -/

def paired : Disk :=
  (((Disk.empty .usual).put [encode "in"] .directory).put [encode "a\\", encode "in"] (.file [0x78])).put
    [encode "b", encode "in"] .directory

theorem pairedBelow : paired.below [encode "in"] =
    [([encode "b"], .directory), ([encode "a\\"], .file [0x78])] := by decide +kernel

theorem pairedWellFormed : paired.WellFormed := by
  refine Disk.putWellFormed (Disk.putWellFormed (Disk.putWellFormed (Disk.emptyWellFormed .usual) rfl (.inl rfl)) ?_ ?_)
    ?_ (.inl rfl)
  · decide +kernel
  · exact .inr (by decide +kernel)
  · decide +kernel

theorem pairedThere {rel : Location} (some : rel ≠ []) {e : Disk.Entry}
    (there : paired.get? (rel ++ [encode "in"]) = .some e) :
    rel = [encode "b"] ∧ e = .directory ∨ rel = [encode "a\\"] ∧ e = .file [0x78] := by
  have member := (Disk.belowGet pairedWellFormed).2 ⟨some, there⟩
  rw [pairedBelow] at member
  simpa using member

theorem pairedRegion : Region paired ⟨"/in"⟩ [encode "in"] := by
  refine ⟨pairedWellFormed, by decide +kernel, by decide +kernel, fun rel some target link => ?_⟩
  rcases pairedThere some link with ⟨_, other⟩ | ⟨_, other⟩ <;> cases other

theorem pairedName {rel : Location} (there : paired.get? (rel ++ [encode "in"]) ≠ none) :
    ∀ name ∈ rel, name = encode "b" ∨ name = encode "a\\" := by
  intro name member
  obtain ⟨e, found⟩ := Option.ne_none_iff_exists'.1 there
  rcases pairedThere (List.ne_nil_of_mem member) found with ⟨rfl, _⟩ | ⟨rfl, _⟩
  · exact .inl (List.mem_singleton.1 member)
  · exact .inr (List.mem_singleton.1 member)

theorem pairedNamed : HasNames paired [encode "in"] := by
  refine ⟨fun rel there name member => ?_, fun rel there name member => ?_⟩
  · rcases pairedName there name member with rfl | rfl <;> exact ⟨by decide, by decide, by decide, by decide⟩
  · rcases pairedName there name member with rfl | rfl <;> decide

theorem pairedTexts : HasTexts paired [encode "in"] := by
  intro rel there name member
  rcases pairedName there name member with rfl | rfl
  · exact ⟨_, rfl⟩
  · exact ⟨_, rfl⟩

theorem pairedNode {n : Node} (member : n ∈ nodesBelow paired [encode "in"]) :
    n = ⟨[encode "b"], .directory⟩ ∨ n = ⟨[encode "a\\"], .file⟩ := by
  obtain ⟨some, e, there, kind⟩ := (memNodesBelow pairedWellFormed).1 member
  obtain ⟨location, _⟩ := n
  rcases pairedThere some there with ⟨rfl, rfl⟩ | ⟨rfl, rfl⟩
  · cases kind
    exact .inl rfl
  · cases kind
    exact .inr rfl

theorem pairedStorable : ∀ n ∈ nodesBelow paired [encode "in"], IsStorable paired ⟨"/in"⟩ [encode "in"] n := by
  intro n member
  obtain ⟨some, _⟩ := locationThere pairedWellFormed member
  refine ⟨?_, ?_, fun c there => ?_⟩
  · rcases pairedNode member with rfl | rfl <;> decide +kernel
  · rcases pairedNode member with rfl | rfl <;> decide +kernel
  · rcases pairedThere some there with ⟨_, other⟩ | ⟨_, same⟩
    · cases other
    · cases same
      decide

def fresh : Disk := .empty .usual

theorem freshRegion : Region fresh ⟨"/"⟩ [] := by
  refine ⟨Disk.emptyWellFormed .usual, by decide, rfl, fun rel some target link => ?_⟩
  simp [fresh, Disk.get?, Disk.empty, some] at link

theorem freshEmpty (rel : Location) (some : rel ≠ []) : fresh.get? (rel ++ []) = none := by
  simp [fresh, Disk.get?, Disk.empty, some]

def pairedSession : Session := .start paired fun _ => ⟨0⟩

theorem packUnpacksPaired : ∃ s', Ends (pack ⟨"/in"⟩ ⟨"/out.zip"⟩ : Program ArchiveFault Nat) pairedSession (.ok 2) s' ∧
    ∃ bytes e', s'.disk.read ⟨"/out.zip"⟩ = .ok bytes ∧ unpack ⟨"/"⟩ fresh (Zip.entries bytes) = .ok e' ∧
      e'.get? [encode "a\\"] = some (.file [0x78]) ∧ e'.get? [encode "b"] = some .directory := by
  obtain ⟨packs, _, holds, _, texts⟩ := @packUnpacks pairedSession ⟨"/in"⟩ ⟨"/out.zip"⟩ [encode "in"]
    [encode "out.zip"] pairedRegion pairedNamed (by decide +kernel) (by decide +kernel)
  obtain ⟨apart, unpacks⟩ := texts pairedTexts
  obtain ⟨s', ends⟩ := (packs (fun _ => rfl) pairedStorable).1 apart
  obtain ⟨_, _, _, bytes, read, held⟩ := holds _ s' ends
  obtain ⟨runs, same⟩ := unpacks fresh ⟨"/"⟩ [] freshRegion freshEmpty
  have taken : ∀ n ∈ nodesBelow paired [encode "in"], IsTaken fresh.limits ⟨"/"⟩ n := by
    intro n member
    have named := pairedNamed.allowed _ (locationThere pairedWellFormed member).2
    rcases pairedNode member with rfl | rfl <;> exact ⟨by decide +kernel, named⟩
  obtain ⟨e', ok⟩ := runs taken
  refine ⟨s', ends, bytes, e', read, held ▸ ok, ?_, ?_⟩
  · exact (same e' ok [encode "a\\"] (by simp)).trans (by decide +kernel)
  · exact (same e' ok [encode "b"] (by simp)).trans (by decide +kernel)

/- Directories so deep that the machine does not take the path of the innermost one -/

def nested (depth : Nat) : Location := List.replicate depth (encode "d") ++ [encode "in"]

def deep : Nat → Disk
  | 0 => ((Disk.empty .usual).put [encode "out.zip"] (.file [])).put [encode "in"] .directory
  | depth + 1 => (deep depth).put (nested (depth + 1)) .directory

theorem deepLimits (depth : Nat) : (deep depth).limits = .usual := by
  induction depth with
  | zero => rfl
  | succ depth ih => exact ih

theorem deepDirectory {depth k : Nat} {rel : Location} {e : Disk.Entry} (less : k ≤ depth)
    (same : rel = List.replicate k (encode "d")) : some .directory = some e ↔
      e = .directory ∧ ∃ k ≤ depth, rel = List.replicate k (encode "d") := by
  constructor
  · intro found
    exact ⟨(Option.some.inj found).symm, k, less, same⟩
  · rintro ⟨rfl, _⟩
    rfl

theorem deepGet {depth : Nat} {rel : Location} {e : Disk.Entry} :
    (deep depth).get? (rel ++ [encode "in"]) = some e ↔
      e = .directory ∧ ∃ k ≤ depth, rel = List.replicate k (encode "d") := by
  induction depth with
  | zero =>
    have apart : rel ++ [encode "in"] ≠ [encode "out.zip"] := by
      intro same
      have last : encode "in" = encode "out.zip" := by simpa using congrArg List.getLast? same
      revert last
      decide
    rw [deep, Disk.getPut _ (by simp), Disk.getPut _ (by simp), if_neg apart]
    by_cases none : rel = []
    · rw [none, List.nil_append, if_pos rfl]
      exact deepDirectory (Nat.zero_le _) rfl
    · rw [if_neg (by simpa using none)]
      constructor
      · intro found
        simp [Disk.get?, Disk.empty] at found
      · rintro ⟨_, k, less, same⟩
        rw [Nat.le_zero.1 less] at same
        exact absurd same none
  | succ depth ih =>
    rw [deep, Disk.getPut _ (by simp [nested])]
    by_cases same : rel = List.replicate (depth + 1) (encode "d")
    · rw [if_pos (by rw [same]; rfl)]
      exact deepDirectory (Nat.le_refl _) same
    · have other : rel ++ [encode "in"] ≠ nested (depth + 1) := fun whole => same (List.append_cancel_right whole)
      rw [if_neg other, ih]
      refine and_congr_right fun _ => ?_
      constructor
      · rintro ⟨k, less, at_⟩
        exact ⟨k, Nat.le_succ_of_le less, at_⟩
      · rintro ⟨k, less, at_⟩
        have inner : k ≠ depth + 1 := fun whole => same (whole ▸ at_)
        exact ⟨k, by omega, at_⟩

theorem deepMakes {depth : Nat} (wf : (deep depth).WellFormed) :
    Disk.Grows (deep depth) (deep (depth + 1)) ∧ (deep (depth + 1)).WellFormed := by
  have missing : (deep depth).get? (nested (depth + 1)) = none := by
    refine Option.eq_none_iff_forall_ne_some.2 fun e found => ?_
    obtain ⟨_, k, less, same⟩ := deepGet.1 found
    have lengths := congrArg List.length same
    simp only [List.length_replicate] at lengths
    omega
  have around : (deep depth).get? (nested depth) = some .directory := deepGet.2 ⟨rfl, depth, Nat.le_refl _, rfl⟩
  exact ⟨Disk.putGrows (by simp [nested]) (.inl ⟨missing, by simp⟩), Disk.putWellFormed wf around (.inl rfl)⟩

theorem deepStart : (deep 0).WellFormed ∧ (deep 0).find ⟨"/in"⟩ = .ok [encode "in"] ∧
    (deep 0).find ⟨"/out.zip"⟩ = .ok [encode "out.zip"] ∧ (deep 0).get? [encode "out.zip"] = some (.file []) := by
  refine ⟨?_, by decide +kernel, by decide +kernel, by decide +kernel⟩
  refine Disk.putWellFormed (Disk.putWellFormed (Disk.emptyWellFormed .usual) rfl (.inr ?_)) ?_ (.inl rfl)
  · decide +kernel
  · decide +kernel

theorem deepGrows (depth : Nat) : Disk.Grows (deep 0) (deep depth) ∧ (deep depth).WellFormed := by
  induction depth with
  | zero => exact ⟨Disk.growsRefl _, deepStart.1⟩
  | succ depth ih =>
    obtain ⟨more, wf⟩ := deepMakes ih.2
    exact ⟨Disk.growsTrans ih.1 more, wf⟩

theorem deepRegion (depth : Nat) : Region (deep depth) ⟨"/in"⟩ [encode "in"] := by
  obtain ⟨grows, wf⟩ := deepGrows depth
  refine ⟨wf, Disk.findGrows grows deepStart.2.1, deepGet.2 ⟨rfl, 0, Nat.zero_le _, rfl⟩, fun rel _ target link => ?_⟩
  cases (deepGet.1 link).1

theorem deepName {depth : Nat} {rel : Location} (there : (deep depth).get? (rel ++ [encode "in"]) ≠ none) :
    ∀ name ∈ rel, name = encode "d" := by
  obtain ⟨e, found⟩ := Option.ne_none_iff_exists'.1 there
  obtain ⟨_, k, _, rfl⟩ := deepGet.1 found
  exact fun name member => List.eq_of_mem_replicate member

theorem deepNamed (depth : Nat) : HasNames (deep depth) [encode "in"] := by
  refine ⟨fun rel there name member => ?_, fun rel there name member => ?_⟩
  · rw [deepName there name member]
    exact ⟨by decide, by decide, by decide, by decide⟩
  · rw [deepName there name member, deepLimits]
    decide

theorem deepOpens (depth : Nat) : (deep depth).writePlace ⟨"/out.zip"⟩ = .ok [encode "out.zip"] := by
  obtain ⟨grows, wf⟩ := deepGrows depth
  obtain ⟨c, file⟩ := grows.files _ _ deepStart.2.2.2
  exact Disk.writePlaceThere wf (Disk.findGrows grows deepStart.2.2.1) file

theorem deepPath (depth : Nat) :
    (Disk.pathBelow ⟨"/in"⟩ (List.replicate (depth + 1) (encode "d"))).length = 2 * depth + 5 := by
  have start : encode ((⟨"/in"⟩ : Path).join "").text = [0x2F, 0x69, 0x6E, 0x2F] := by decide +kernel
  have names (depth : Nat) :
      (([0x2F] : Bytes).intercalate (List.replicate (depth + 1) (encode "d"))).length = 2 * depth + 1 := by
    induction depth with
    | zero => decide
    | succ depth ih =>
      rw [List.replicate_succ, List.replicate_succ, List.intercalate_cons_cons, ← List.replicate_succ,
        List.length_append, List.length_append, ih]
      have one : (encode "d").length = 1 := by decide
      simp only [one, List.length_singleton]
      omega
  rw [Disk.pathBelow, start, List.reverse_replicate, List.length_append, names]
  simp only [List.length_cons, List.length_nil]
  omega

theorem packStops : ¬ ∀ (s : Session) (source archive : Path) (l q : Location), Region s.disk source l →
    HasNames s.disk l → HasTexts s.disk l → s.disk.writePlace archive = .ok q → ¬ l <:+ q → s.Quiet →
    ∃ count s', Ends (pack source archive : Program ArchiveFault Nat) s (.ok count) s' := by
  intro all
  obtain ⟨depth, many⟩ : ∃ depth, depth = 2046 := ⟨_, rfl⟩
  let s : Session := .start (deep (depth + 1)) fun _ => ⟨0⟩
  have region : Region s.disk ⟨"/in"⟩ [encode "in"] := deepRegion (depth + 1)
  have named : HasNames s.disk [encode "in"] := deepNamed (depth + 1)
  have opens : s.disk.writePlace ⟨"/out.zip"⟩ = .ok [encode "out.zip"] := deepOpens (depth + 1)
  have outside : ¬ [encode "in"] <:+ [encode "out.zip"] := by decide
  obtain ⟨count, s', ends⟩ := all s ⟨"/in"⟩ ⟨"/out.zip"⟩ [encode "in"] [encode "out.zip"] region named
    (fun _ there name member => ⟨"d", deepName there name member⟩) opens outside fun _ => rfl
  have innermost : (⟨List.replicate (depth + 1) (encode "d"), .directory⟩ : Node) ∈ nodesBelow s.disk [encode "in"] :=
    (nodeDirectory region).2 ⟨by simp, deepGet.2 ⟨rfl, depth + 1, Nat.le_refl _, rfl⟩⟩
  have path := ((packHolds region named opens outside ends).1 _ innermost).path
  have limits : s.disk.limits = .usual := deepLimits (depth + 1)
  rw [limits, Disk.Limits.allowPath, Option.all_eq_true] at path
  have short := of_decide_eq_true (path 4095 rfl)
  rw [deepPath depth] at short
  omega

end ClassScaffold.Archive
