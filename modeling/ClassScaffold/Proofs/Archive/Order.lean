import ClassScaffold.Proofs.Archive.Nodes
import Mathlib.Data.List.Perm.Subperm
/-! The order in which a tree is visited. Sorting the nodes by all their names, one below the other, is the same as
going depth first, with the children of every directory in the order of their names. -/
namespace ClassScaffold.Archive
open Disk (Location Name)

/-- The places below a directory, each directory before what is in it, and children by their names. -/
inductive Visits (d : Disk) (l : Location) : Location → List Location → Prop where
  | directory {rel : Location} {names : List Name} {inner : Name → List Location}
      (sorted : names.Pairwise (· < ·)) (children : ∀ n, n ∈ names ↔ d.get? (n :: rel ++ l) ≠ none)
      (below : ∀ n ∈ names, Visits d l (n :: rel) (inner n)) :
      Visits d l rel (names.flatMap fun n => (n :: rel) :: inner n)

variable {d : Disk} {l rel : Location} {places : List Location}

theorem visitsMember (wf : d.WellFormed) (visits : Visits d l rel places) (q : Location) :
    q ∈ places ↔ ∃ more, more ≠ [] ∧ q = more ++ rel ∧ d.get? (q ++ l) ≠ none := by
  induction visits with
  | @directory rel names inner sorted children below ih =>
    rw [List.mem_flatMap]
    constructor
    · rintro ⟨n, member, inside⟩
      rcases List.mem_cons.1 inside with rfl | deeper
      · exact ⟨[n], by simp, rfl, (children n).1 member⟩
      · obtain ⟨more, _, rfl, there⟩ := (ih n member).1 deeper
        exact ⟨more ++ [n], by simp, by simp, there⟩
    · rintro ⟨more, some, rfl, there⟩
      obtain ⟨outer, n, rfl⟩ := more.eq_nil_or_concat'.resolve_left some
      have child : d.get? (n :: rel ++ l) ≠ none := by
        intro none
        have nothing := Disk.nothingBelow wf none outer
        exact there (by simpa using nothing)
      have member := (children n).2 child
      refine ⟨n, member, ?_⟩
      rcases List.eq_nil_or_concat outer with rfl | ⟨_, _, concat⟩
      · exact List.mem_cons_self
      · refine List.mem_cons_of_mem _ ((ih n member).2 ⟨outer, by simp [concat], by simp, there⟩)

theorem visitsSorted (wf : d.WellFormed) (visits : Visits d l rel places) :
    places.Pairwise fun a b => a.reverse < b.reverse := by
  induction visits with
  | @directory rel names inner sorted children below ih =>
    have within {n : Name} (member : n ∈ names) {q : Location} (inside : q ∈ (n :: rel) :: inner n) :
        ∃ more, q.reverse = rel.reverse ++ n :: more := by
      rcases List.mem_cons.1 inside with rfl | deeper
      · exact ⟨[], by simp⟩
      · obtain ⟨more, _, rfl, _⟩ := (visitsMember wf (below n member) q).1 deeper
        exact ⟨more.reverse, by simp⟩
    refine List.pairwise_flatMap.2 ⟨fun n member => List.pairwise_cons.2 ⟨fun q deeper => ?_, ih n member⟩, ?_⟩
    · obtain ⟨more, some, rfl, _⟩ := (visitsMember wf (below n member) q).1 deeper
      refine prefixLess ?_ fun same => ?_
      · rw [List.reverse_append]
        exact List.prefix_append ..
      · exact some (by simpa using (List.reverse_injective same).symm)
    · refine sorted.imp_of_mem fun {n n'} member member' less q inside q' inside' => ?_
      obtain ⟨more, same⟩ := within member inside
      obtain ⟨more', same'⟩ := within member' inside'
      rw [same, same']
      exact List.append_left_lt (.rel less)

/- All places are visited -/

theorem belowShorter (wf : d.WellFormed) {q : Location} {n : Name} (there : d.get? (n :: q) ≠ none) :
    (d.below (n :: q)).length < (d.below q).length := by
  obtain ⟨e, there⟩ := Option.ne_none_iff_exists'.1 there
  have distinct := Disk.belowDistinct wf (n :: q)
  have inside : ([n] :: ((d.below (n :: q)).map Prod.fst).map (· ++ [n])) ⊆ (d.below q).map Prod.fst := by
    intro rel member
    rcases List.mem_cons.1 member with rfl | deeper
    · exact List.mem_map.2 ⟨([n], e), (Disk.belowGet wf).2 ⟨by simp, there⟩, rfl⟩
    · obtain ⟨_, found, rfl⟩ := List.mem_map.1 deeper
      obtain ⟨⟨rel, e'⟩, listed, rfl⟩ := List.mem_map.1 found
      obtain ⟨_, there⟩ := (Disk.belowGet wf).1 listed
      exact List.mem_map.2 ⟨(rel ++ [n], e'), (Disk.belowGet wf).2 ⟨by simp, by simpa using there⟩, rfl⟩
  have apart : ([n] :: ((d.below (n :: q)).map Prod.fst).map (· ++ [n])).Nodup := by
    refine List.nodup_cons.2 ⟨fun member => ?_, (List.nodup_map_iff fun _ _ => List.append_cancel_right).2 distinct⟩
    obtain ⟨_, found, same⟩ := List.mem_map.1 member
    obtain ⟨⟨rel, e'⟩, listed, rfl⟩ := List.mem_map.1 found
    exact ((Disk.belowGet wf).1 listed).1 (by simpa using same)
  have fewer := (apart.subperm inside).length_le
  simp only [List.length_cons, List.length_map] at fewer
  exact fewer

def Node.child? (n : Node) : Option Name :=
  match n.location with
  | [name] => some name
  | _ => none

theorem childLocation {n : Node} {name : Name} : n.child? = some name ↔ n.location = [name] := by
  unfold Node.child?
  split
  · next same => simp [same]
  · next other => simpa using other name

theorem childrenSorted (wf : d.WellFormed) (q : Location) :
    ∃ names : List Name, names.Pairwise (· < ·) ∧ ∀ n, n ∈ names ↔ d.get? (n :: q) ≠ none := by
  refine ⟨(nodesBelow d q).filterMap Node.child?, List.pairwise_filterMap.2 ?_, fun name => ?_⟩
  · refine (List.pairwise_map.1 (nodesSorted wf)).imp fun {a b} less x here y there => ?_
    rw [childLocation.1 here, childLocation.1 there] at less
    simpa [List.cons_lt_cons_iff] using less
  · rw [List.mem_filterMap, Option.ne_none_iff_exists']
    constructor
    · rintro ⟨n, member, here⟩
      obtain ⟨_, e, there, _⟩ := (memNodesBelow wf).1 member
      rw [childLocation.1 here] at there
      exact ⟨e, there⟩
    · rintro ⟨e, there⟩
      exact ⟨⟨[name], _⟩, (memNodesBelow wf).2 ⟨by simp, e, there, rfl⟩, rfl⟩

theorem visitsAll (wf : d.WellFormed) (rel : Location) : ∃ places, Visits d l rel places := by
  induction size : (d.below (rel ++ l)).length using Nat.strongRecOn generalizing rel with
  | _ size ih =>
    obtain ⟨names, sorted, children⟩ := childrenSorted wf (rel ++ l)
    have inner (n : Name) : ∃ places, n ∈ names → Visits d l (n :: rel) places := by
      by_cases member : n ∈ names
      · obtain ⟨places, visits⟩ := ih _ (size ▸ belowShorter wf ((children n).1 member)) (n :: rel) rfl
        exact ⟨places, fun _ => visits⟩
      · exact ⟨[], fun inside => absurd inside member⟩
    choose inner below using inner
    exact ⟨_, .directory sorted children below⟩

/-- The nodes of an archive are in the order in which the tree is visited. -/
theorem nodesVisited (wf : d.WellFormed) : Visits d l [] ((nodesBelow d l).map Node.location) := by
  obtain ⟨places, visits⟩ := visitsAll wf (l := l) []
  have sorted := visitsSorted wf visits
  have distinct : places.Nodup := sorted.imp fun {a b} less same => by
    rw [same] at less
    exact List.lt_irrefl _ less
  have members (q : Location) : q ∈ places ↔ q ∈ (nodesBelow d l).map Node.location := by
    rw [visitsMember wf visits, List.mem_map]
    constructor
    · rintro ⟨more, some, rfl, there⟩
      obtain ⟨e, there⟩ := Option.ne_none_iff_exists'.1 there
      rw [List.append_nil] at there ⊢
      exact ⟨⟨more, _⟩, (memNodesBelow wf).2 ⟨some, e, there, rfl⟩, rfl⟩
    · rintro ⟨n, member, rfl⟩
      obtain ⟨some, e, there, _⟩ := (memNodesBelow wf).1 member
      exact ⟨n.location, some, by simp, by simp [there]⟩
  have same : places = (nodesBelow d l).map Node.location := by
    refine List.Perm.eq_of_pairwise (fun a b _ _ less greater => ?_) sorted (nodesSorted wf)
      ((List.perm_ext_iff_of_nodup distinct (nodesDistinct wf)).2 members)
    exact absurd greater (List.lt_asymm less)
  exact same ▸ visits

end ClassScaffold.Archive
