import ClassScaffold.Archive.Entry
import ClassScaffold.Proofs.Disk.Confine
import ClassScaffold.Proofs.Text.Utf8
/-! The nodes of a tree, in the order of an archive. A directory comes before all that is in it, and the names
of nodes tell them apart where the names on the disk are texts. -/
namespace ClassScaffold.Archive
open Disk (Location place)

/- The order -/

theorem beforeLess (a b : Location) : isBefore a b = true ↔ a.reverse < b.reverse := by simp [isBefore]

theorem inOrderPairwise (nodes : List Node) :
    (inOrder nodes).Pairwise fun a b => a.location.reverse ≤ b.location.reverse := by
  have notAfter (a b : Node) : (!isBefore b.location a.location) = true ↔
      a.location.reverse ≤ b.location.reverse := by
    rw [Bool.not_eq_true', ← Bool.not_eq_true, beforeLess]
    exact List.not_lt
  have sorted : (inOrder nodes).Pairwise fun a b => (!isBefore b.location a.location) = true := by
    refine List.pairwise_mergeSort (fun a b c first next => ?_) (fun a b => ?_) nodes
    · rw [notAfter] at *
      exact List.le_trans first next
    · rw [Bool.or_eq_true, notAfter, notAfter]
      exact List.le_total ..
  exact sorted.imp fun {a b} h => (notAfter a b).1 h

variable {d : Disk} {l : Location}

theorem memNodesBelow (wf : d.WellFormed) {n : Node} : n ∈ nodesBelow d l ↔ n.location ≠ [] ∧
    ∃ e, d.get? (n.location ++ l) = some e ∧ n.kind = if e = .directory then .directory else .file := by
  unfold nodesBelow inOrder
  rw [List.mem_mergeSort, List.mem_map]
  constructor
  · rintro ⟨⟨rel, e⟩, member, rfl⟩
    obtain ⟨some, there⟩ := (Disk.belowGet wf).1 member
    exact ⟨some, e, there, rfl⟩
  · rintro ⟨some, e, there, kind⟩
    refine ⟨(n.location, e), (Disk.belowGet wf).2 ⟨some, there⟩, ?_⟩
    obtain ⟨rel, k⟩ := n
    simp only at kind
    rw [kind]

theorem nodesDistinct (wf : d.WellFormed) : ((nodesBelow d l).map Node.location).Nodup := by
  unfold nodesBelow inOrder
  rw [((List.mergeSort_perm _ _).map Node.location).nodup_iff, List.map_map]
  exact Disk.belowDistinct wf l

theorem prefixLess {α : Type} [LT α] {a b : List α} (first : a <+: b) (other : a ≠ b) : a < b := by
  obtain ⟨rest, rfl⟩ := first
  have more : rest ≠ [] := by simpa using other
  obtain ⟨x, rest, rfl⟩ := List.exists_cons_of_ne_nil more
  clear other more
  induction a with
  | nil => exact .nil
  | cons y a ih => exact .cons ih

theorem nodesSorted (wf : d.WellFormed) :
    ((nodesBelow d l).map Node.location).Pairwise fun a b => a.reverse < b.reverse := by
  have distinct := List.pairwise_map.1 (nodesDistinct wf (l := l))
  refine List.pairwise_map.2 ((distinct.and (inOrderPairwise _)).imp fun {a b} ⟨other, order⟩ => ?_)
  exact Std.lt_of_le_of_ne order fun same => other (List.reverse_injective same)

theorem nodesOuterFirst (wf : d.WellFormed) :
    (nodesBelow d l).Pairwise fun a b => ¬ b.location <:+ a.location := by
  refine (List.pairwise_map.1 (nodesSorted wf)).imp fun {a b} less inside => ?_
  by_cases same : b.location = a.location
  · rw [same] at less
    exact List.lt_irrefl _ less
  · exact List.lt_asymm less (prefixLess (List.reverse_prefix.2 inside) fun h => same (List.reverse_injective h))

/- Names -/

variable {names others : List String} {kind kind' : Kind}

theorem nodePath : (⟨place names, kind⟩ : Node).path = "/".intercalate names := by
  simp [Node.path, place, Function.comp_def]

def ArePieces (names : List String) : Prop := names ≠ [] ∧ ∀ name ∈ names, '/' ∉ name.toList

theorem intercalatePieces (pieces : ArePieces names) :
    Text.splitAt '/' ("/".intercalate names).toList = names.map String.toList := by
  have whole : ("/".intercalate names).toList = ['/'].intercalate (names.map String.toList) := by
    simp [String.toList_intercalate]
  rw [whole]
  exact Text.splitAtIntercalate (by simpa using pieces.1) (by simpa using pieces.2)

theorem outerName (pieces : ArePieces names) (otherPieces : ArePieces others)
    (starts : (⟨place others, .directory⟩ : Node).entryName.toList <+:
      (⟨place names, kind⟩ : Node).entryName.toList) : others <+: names := by
  obtain ⟨rest, whole⟩ := starts
  have outer : Text.splitAt '/' ((⟨place others, .directory⟩ : Node).entryName.toList ++ rest) =
      others.map String.toList ++ Text.splitAt '/' rest := by
    have slash : (⟨place others, .directory⟩ : Node).entryName.toList ++ rest =
        ("/".intercalate others).toList ++ '/' :: rest := by
      simp [Node.entryName, nodePath]
    rw [slash, Text.splitAtAppend, intercalatePieces otherPieces]
  rw [whole] at outer
  have map : others.map String.toList <+: names.map String.toList := by
    cases kind with
    | file =>
      rw [Node.entryName, nodePath, intercalatePieces pieces] at outer
      exact ⟨_, outer.symm⟩
    | directory =>
      have slash : (⟨place names, .directory⟩ : Node).entryName.toList =
          ("/".intercalate names).toList ++ ['/'] := by simp [Node.entryName, nodePath]
      rw [slash, Text.splitAtAppend, intercalatePieces pieces] at outer
      -- what stands behind the last separator is none of the names
      have last := List.dropLast_append_getLast (Text.splitAtNonempty '/' rest)
      rw [← last, ← List.append_assoc] at outer
      exact ⟨_, (List.append_inj_left' outer rfl).symm⟩
  exact (List.prefix_map_iff_of_injective fun _ _ same => String.toList_injective same).1 map

end ClassScaffold.Archive
