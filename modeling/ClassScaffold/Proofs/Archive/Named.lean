import ClassScaffold.Proofs.Archive.Nodes
import ClassScaffold.Proofs.Disk.Route
/-! The names of entries. An entry is told from the others by its kind and its path, and the paths are as different
as the texts that the names on the disk are turned into; where these names are texts, all entries differ. -/
namespace ClassScaffold
open Text.Utf8 (encode decodeLossy)
open ClassScaffold.Path (Plain)

namespace Disk

/-- What the name of a file or directory can be, as bytes. -/
structure IsName (name : Name) : Prop where
  some : name ≠ []
  other : name ≠ [0x2E] ∧ name ≠ [0x2E, 0x2E]
  single : 0x2F ∉ name
  clean : 0 ∉ name

/-- All nodes below a place have names that the disk allows. -/
structure HasNames (d : Disk) (l : Location) : Prop where
  proper : ∀ rel, d.get? (rel ++ l) ≠ none → ∀ name ∈ rel, IsName name
  allowed : ∀ rel, d.get? (rel ++ l) ≠ none → ∀ name ∈ rel, d.limits.allowName name = true

def HasTexts (d : Disk) (l : Location) : Prop :=
  ∀ rel, d.get? (rel ++ l) ≠ none → ∀ name ∈ rel, ∃ s, name = encode s

variable {d : Disk} {l rel : Location}

theorem encodeMember {c : Char} {b : UInt8} (single : String.utf8EncodeChar c = [b]) {s : String}
    (member : c ∈ s.toList) : b ∈ encode s := by
  rw [Text.Utf8.encodeChars]
  exact List.mem_flatMap.2 ⟨c, member, by simp [single]⟩

theorem nameText {s : String} (proper : IsName (encode s)) : Plain s.toList ∧ '\x00' ∉ s.toList := by
  have same {t : String} (text : s.toList = t.toList) : encode s = encode t := by
    rw [String.toList_injective text]
  refine ⟨⟨fun none => ?_, fun dot => ?_, fun dots => ?_, fun slash => ?_⟩, fun nul => ?_⟩
  · exact proper.some (same (t := "") none)
  · exact proper.other.1 (same (t := ".") dot)
  · exact proper.other.2 (same (t := "..") dots)
  · exact proper.single (encodeMember (by decide) slash)
  · exact proper.clean (encodeMember (by decide) nul)

theorem textNames (named : HasNames d l) (texts : HasTexts d l) (there : d.get? (rel ++ l) ≠ none) :
    ∃ names, rel = place names ∧ ∀ name ∈ names, Plain name.toList ∧ '\x00' ∉ name.toList := by
  have proper := named.proper rel there
  have each := texts rel there
  clear there
  induction rel with
  | nil => exact ⟨[], rfl, by simp⟩
  | cons name outer ih =>
    obtain ⟨names, rfl, plain⟩ := ih (fun n h => proper n (List.mem_cons_of_mem _ h))
      (fun n h => each n (List.mem_cons_of_mem _ h))
    obtain ⟨s, rfl⟩ := each name List.mem_cons_self
    refine ⟨names ++ [s], (placeAppend names [s]).symm, fun t member => ?_⟩
    rcases List.mem_append.1 member with inner | last
    · exact plain t inner
    · rw [List.mem_singleton.1 last]
      exact nameText (proper _ List.mem_cons_self)

end Disk

namespace Archive
open Disk (Location IsName HasNames)

/- Entries by kind and path -/

theorem intercalateLast {names : List String} {name : String} (some : name.toList ≠ []) (single : '/' ∉ name.toList) :
    ("/".intercalate (names ++ [name])).toList.getLast? ≠ .some '/' := by
  intro last
  rw [String.toList_intercalate, List.map_append, List.map_singleton] at last
  apply single
  rcases Disk.intercalateConcat '/' (names.map String.toList) name.toList with same | ⟨before, same⟩
  · exact List.mem_of_getLast? (same ▸ last)
  · change ([('/' : Char)].intercalate _).getLast? = _ at last
    rw [same, List.getLast?_append_of_ne_nil _ (by simp), List.getLast?_cons_of_ne_nil some] at last
    exact List.mem_of_getLast? last

theorem pathLast {n : Node} (some : n.location ≠ []) (proper : ∀ name ∈ n.location, IsName name) :
    n.path.toList.getLast? ≠ .some '/' := by
  obtain ⟨name, outer, location⟩ := List.exists_cons_of_ne_nil some
  have head := proper name (by simp [location])
  rw [Node.path, location, List.reverse_cons, List.map_append, List.map_singleton]
  exact intercalateLast (Text.Utf8.decodeLossySome head.some) (Text.Utf8.decodeLossySlash head.single)

theorem entryKind {n : Node} (last : n.path.toList.getLast? ≠ some '/') : kindOf n.entryName = n.kind := by
  cases kind : n.kind with
  | directory => simp [kindOf, Node.entryName, kind]
  | file => simp [kindOf, Node.entryName, kind, last]

/-- No two directories have the same path, and no two files, as texts. -/
structure AreApart (nodes : List Node) : Prop where
  directories : ((nodes.filter fun n => n.kind = .directory).map Node.path).Nodup
  files : ((nodes.filter fun n => n.kind = .file).map Node.path).Nodup

theorem entryNamesApart {nodes : List Node} (ends : ∀ n ∈ nodes, n.path.toList.getLast? ≠ some '/') :
    (nodes.map Node.entryName).Nodup ↔ AreApart nodes := by
  have kinds : AreApart nodes ↔ nodes.Pairwise fun a b =>
      (a.kind = .directory → b.kind = .directory → a.path ≠ b.path) ∧ (a.kind = .file → b.kind = .file → a.path ≠ b.path) := by
    rw [List.pairwise_and_iff]
    have filtered (k : Kind) : ((nodes.filter fun n => n.kind = k).map Node.path).Nodup ↔
        nodes.Pairwise fun a b => a.kind = k → b.kind = k → a.path ≠ b.path := by
      rw [List.Nodup, List.pairwise_map, List.pairwise_filter]
      simp
    exact ⟨fun apart => ⟨(filtered _).1 apart.directories, (filtered _).1 apart.files⟩,
      fun ⟨directories, files⟩ => ⟨(filtered _).2 directories, (filtered _).2 files⟩⟩
  rw [kinds, List.Nodup, List.pairwise_map]
  refine List.Pairwise.iff_of_mem fun {a b} inA inB => ?_
  have mixed {n m : Node} (inN : n ∈ nodes) : m.path ++ "/" ≠ n.path := fun same =>
    ends n inN (by simp [← same])
  obtain ⟨_, kindA⟩ := a
  obtain ⟨_, kindB⟩ := b
  cases kindA <;> cases kindB
  · simp [Node.entryName, Node.path]
  · simpa [Node.entryName] using mixed inB
  · simpa [Node.entryName] using (mixed inA).symm
  · simp [Node.entryName]

/- Names that are texts -/

variable {d : Disk} {l : Location}

/-- A node is named by these texts, from the outermost on. -/
structure IsCalled (n : Node) (names : List String) : Prop where
  location : n.location = Disk.place names
  some : names ≠ []
  plain : ∀ name ∈ names, Plain name.toList
  clean : ∀ name ∈ names, '\x00' ∉ name.toList

theorem calledPieces {n : Node} {names : List String} (called : IsCalled n names) : ArePieces names :=
  ⟨called.some, fun name member => (called.plain name member).2.2.2⟩

theorem calledPath {n : Node} {names : List String} (called : IsCalled n names) : n.path = "/".intercalate names := by
  obtain ⟨_, kind⟩ := n
  cases called.location
  exact nodePath

theorem calledLast {n : Node} {names : List String} (called : IsCalled n names) :
    n.path.toList.getLast? ≠ .some '/' := by
  obtain ⟨outer, name, rfl⟩ := names.eq_nil_or_concat'.resolve_left called.some
  have plain := called.plain name (by simp)
  rw [calledPath called]
  exact intercalateLast plain.1 plain.2.2.2

theorem nodeCalled (wf : d.WellFormed) (named : HasNames d l) (texts : Disk.HasTexts d l) {n : Node}
    (member : n ∈ nodesBelow d l) : ∃ names, IsCalled n names := by
  obtain ⟨some, e, there, _⟩ := (memNodesBelow wf).1 member
  obtain ⟨names, location, each⟩ := Disk.textNames named texts (by simp [there] : d.get? (n.location ++ l) ≠ none)
  refine ⟨names, location, fun none => some ?_, fun name h => (each name h).1, fun name h => (each name h).2⟩
  rw [location, none]
  rfl

theorem textsApart (wf : d.WellFormed) (called : ∀ n ∈ nodesBelow d l, ∃ names, IsCalled n names) :
    AreApart (nodesBelow d l) := by
  have apart (k : Kind) : (((nodesBelow d l).filter fun n => n.kind = k).map Node.path).Nodup := by
    have distinct : (nodesBelow d l).Nodup := .of_map _ (nodesDistinct wf)
    refine List.Nodup.map_on (fun a inA b inB same => ?_) (distinct.filter _)
    obtain ⟨memberA, kindA⟩ := List.mem_filter.1 inA
    obtain ⟨memberB, kindB⟩ := List.mem_filter.1 inB
    obtain ⟨names, calledA⟩ := called a memberA
    obtain ⟨others, calledB⟩ := called b memberB
    rw [calledPath calledA, calledPath calledB] at same
    have pieces := intercalatePieces (calledPieces calledA)
    rw [same, intercalatePieces (calledPieces calledB)] at pieces
    obtain rfl := List.map_injective_iff.2 (fun _ _ h => String.toList_injective h) pieces
    obtain ⟨_, _⟩ := a
    obtain ⟨_, _⟩ := b
    cases calledA.location
    cases calledB.location
    cases (of_decide_eq_true kindA).trans (of_decide_eq_true kindB).symm
    rfl
  exact ⟨apart .directory, apart .file⟩

theorem calledDistinct (wf : d.WellFormed) (called : ∀ n ∈ nodesBelow d l, ∃ names, IsCalled n names) :
    ((nodesBelow d l).map Node.entryName).Nodup := by
  refine (entryNamesApart fun n member => ?_).2 (textsApart wf called)
  obtain ⟨names, spelled⟩ := called n member
  exact calledLast spelled

end Archive
end ClassScaffold
