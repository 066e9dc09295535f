import ClassScaffold.Proofs.Archive.Named
import ClassScaffold.Proofs.Archive.Pack
import ClassScaffold.Proofs.Disk.Tree
/-! The entries of an archive by what stands in the tree that was packed. -/
namespace ClassScaffold.Archive
open Disk (Location Region place)
open Text.Utf8 (Bytes)

def Packed (d : Disk) (source : Path) (l : Location) (entries : List Entry) : Prop :=
  List.Forall₂ (Holds d source) (nodesBelow d l) entries

variable {d : Disk} {source : Path} {l : Location} {entries : List Entry} {e : Entry}

theorem packedEntry (packed : Packed d source l entries) (member : e ∈ entries) :
    ∃ n ∈ nodesBelow d l, Holds d source n e := by
  obtain ⟨i, bound, rfl⟩ := List.mem_iff_getElem.1 member
  have bound' : i < (nodesBelow d l).length := by rwa [packed.length_eq]
  exact ⟨_, List.getElem_mem bound', packed.get bound' bound⟩

theorem packedNode (packed : Packed d source l entries) {n : Node} (member : n ∈ nodesBelow d l) :
    ∃ e ∈ entries, Holds d source n e := by
  obtain ⟨i, bound, rfl⟩ := List.mem_iff_getElem.1 member
  have bound' : i < entries.length := by rwa [← packed.length_eq]
  exact ⟨_, List.getElem_mem bound', packed.get bound bound'⟩

theorem holdsFits {n : Node} (last : n.path.toList.getLast? ≠ some '/') (holds : Holds d source n e) : Zip.Fits e := by
  refine ⟨?_, fun directory => holds.empty (holds.kind.symm.trans directory), ?_, holds.short⟩
  · rw [holds.name, holds.kind]
    exact entryKind last
  · rw [holds.name]
    exact holds.named

theorem packedFile (region : Region d source l) (packed : Packed d source l entries) :
    e ∈ entries ∧ e.kind = .file ↔ ∃ rel c, rel ≠ [] ∧ d.get? (rel ++ l) = some (.file c) ∧
      e = ⟨(⟨rel, .file⟩ : Node).entryName, .file, c⟩ := by
  constructor
  · rintro ⟨member, kind⟩
    obtain ⟨⟨rel, k⟩, inside, holds⟩ := packedEntry packed member
    obtain rfl : k = .file := holds.kind.symm.trans kind
    obtain ⟨some, _⟩ := (memNodesBelow region.wellFormed).1 inside
    refine ⟨rel, e.contents, some, (Disk.readBelowFile region some (holds.contents rfl)).1, ?_⟩
    obtain ⟨name, _, contents⟩ := e
    cases kind
    cases holds.name
    rfl
  · rintro ⟨rel, c, some, there, rfl⟩
    have inside : (⟨rel, .file⟩ : Node) ∈ nodesBelow d l :=
      (memNodesBelow region.wellFormed).2 ⟨some, _, there, rfl⟩
    obtain ⟨⟨name, kind, contents⟩, member, holds⟩ := packedNode packed inside
    have found := (Disk.readBelowFile region some (holds.contents rfl)).1
    rw [there] at found
    cases found
    cases holds.name
    cases holds.kind
    exact ⟨member, rfl⟩

theorem packedDirectory (region : Region d source l) (packed : Packed d source l entries) :
    e ∈ entries ∧ e.kind = .directory ↔ ∃ rel, rel ≠ [] ∧ d.get? (rel ++ l) = some .directory ∧
      e = ⟨(⟨rel, .directory⟩ : Node).entryName, .directory, []⟩ := by
  constructor
  · rintro ⟨member, kind⟩
    obtain ⟨⟨rel, k⟩, inside, holds⟩ := packedEntry packed member
    obtain rfl : k = .directory := holds.kind.symm.trans kind
    obtain ⟨some, entry, there, same⟩ := (memNodesBelow region.wellFormed).1 inside
    have directory : entry = .directory := by
      by_contra other
      rw [if_neg other] at same
      cases same
    have empty := holds.empty rfl
    refine ⟨rel, some, directory ▸ there, ?_⟩
    obtain ⟨name, _, contents⟩ := e
    cases kind
    cases holds.name
    cases empty
    rfl
  · rintro ⟨rel, some, there, rfl⟩
    have inside : (⟨rel, .directory⟩ : Node) ∈ nodesBelow d l :=
      (memNodesBelow region.wellFormed).2 ⟨some, _, there, rfl⟩
    obtain ⟨⟨name, kind, contents⟩, member, holds⟩ := packedNode packed inside
    cases holds.name
    cases holds.kind
    cases holds.empty rfl
    exact ⟨member, rfl⟩

theorem packedOuterFirst (wf : d.WellFormed) (packed : Packed d source l entries)
    (texts : ∀ n ∈ nodesBelow d l, ∃ names, n.location = place names ∧ ArePieces names) :
    entries.Pairwise fun a b => b.kind = .directory → ¬ b.name.toList <+: a.name.toList := by
  have order := List.pairwise_iff_getElem.1 (nodesOuterFirst wf (l := l))
  refine List.pairwise_iff_getElem.2 fun i j boundI boundJ less directory starts => ?_
  have nodeI : i < (nodesBelow d l).length := by rwa [packed.length_eq]
  have nodeJ : j < (nodesBelow d l).length := by rwa [packed.length_eq]
  have holdsI := packed.get nodeI boundI
  have holdsJ := packed.get nodeJ boundJ
  obtain ⟨inner, innerPlace, innerPieces⟩ := texts _ (List.getElem_mem nodeI)
  obtain ⟨outer, outerPlace, outerPieces⟩ := texts _ (List.getElem_mem nodeJ)
  have apart := order i j nodeI nodeJ less
  simp only [List.get_eq_getElem] at holdsI holdsJ
  generalize (nodesBelow d l)[i] = a at holdsI innerPlace apart
  generalize (nodesBelow d l)[j] = b at holdsJ outerPlace apart
  obtain ⟨_, kindA⟩ := a
  obtain ⟨_, kindB⟩ := b
  cases innerPlace
  cases outerPlace
  obtain rfl : kindB = .directory := holdsJ.kind.symm.trans directory
  rw [holdsI.name, holdsJ.name] at starts
  -- a directory's name ends with a separator, so only what is below it can start with that name
  obtain ⟨rest, same⟩ := outerName innerPieces outerPieces starts
  have within : place outer <:+ place inner := by
    rw [← same, Disk.placeAppend]
    exact List.suffix_append ..
  exact apart within

end ClassScaffold.Archive
