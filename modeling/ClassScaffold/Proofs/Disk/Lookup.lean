import ClassScaffold.Disk.Operation
import Mathlib.Data.List.Nodup
/-! What stands where after a disk has been changed at one location, and disks on which everything stands
in a directory. On such a disk there is nothing below a location where no directory is. -/
namespace ClassScaffold.Disk

/- Single changes -/

theorem lookupFilter {α β : Type} [BEq α] [LawfulBEq α] (entries : List (α × β)) (keep : α → Bool)
    (key : α) : (entries.filter fun e => keep e.1).lookup key =
      if keep key then entries.lookup key else none := by
  induction entries with
  | nil => simp
  | cons entry rest ih =>
    obtain ⟨k, v⟩ := entry
    by_cases same : key = k
    · subst same
      cases kept : keep key <;> simp [kept, ih]
    · have other : (key == k) = false := by simpa using same
      cases kept : keep k <;> simp [kept, List.lookup_cons, other, ih]

@[simp] theorem getRoot (d : Disk) : d.get? [] = some .directory := rfl

@[simp] theorem putHere (d : Disk) (l : Location) (e : Entry) : (d.put l e).here = d.here := rfl

@[simp] theorem putLimits (d : Disk) (l : Location) (e : Entry) : (d.put l e).limits = d.limits := rfl

theorem getPut (d : Disk) {l : Location} (some : l ≠ []) (e : Entry) (q : Location) :
    (d.put l e).get? q = if q = l then .some e else d.get? q := by
  unfold get? put
  by_cases root : q = []
  · have apart : ¬ q = l := fun same => some (same ▸ root)
    simp [root, root ▸ apart]
  · by_cases same : q = l
    · simp [same, some]
    · have other : (q == l) = false := by simpa using same
      have filtered := lookupFilter d.entries (· != l) q
      simp [root, same, List.lookup_cons, other] at filtered ⊢
      exact filtered

theorem getRemoveTree (d : Disk) {l : Location} (some : l ≠ []) (q : Location) :
    (d.removeTree l).get? q = if l <:+ q then none else d.get? q := by
  unfold get? removeTree
  by_cases root : q = []
  · simp [root, some]
  · have filtered := lookupFilter d.entries (fun k => !l.isSuffixOf k) q
    simp only [root, if_false, filtered]
    by_cases inside : l <:+ q
    · simp [inside, List.isSuffixOf_iff_suffix.2 inside]
    · have outside : l.isSuffixOf q = false := by
        rw [Bool.eq_false_iff, Ne, List.isSuffixOf_iff_suffix]
        exact inside
      simp [inside, outside]

theorem memBelow {d : Disk} {l rel : Location} {e : Entry} :
    (rel, e) ∈ d.below l ↔ rel ≠ [] ∧ (rel ++ l, e) ∈ d.entries := by
  simp only [below, List.mem_filterMap, Prod.exists]
  constructor
  · rintro ⟨q, entry, member, found⟩
    split at found
    · next name rest suffix =>
      cases found
      have same := List.append_eq_of_isSuffixOf?_eq_some suffix
      exact ⟨by simp, by rwa [same]⟩
    · contradiction
  · rintro ⟨some, member⟩
    refine ⟨rel ++ l, e, member, ?_⟩
    have suffix : l.isSuffixOf? (rel ++ l) = Option.some rel :=
      List.isSuffixOf?_eq_some_iff_append_eq.2 rfl
    obtain ⟨name, rest, rfl⟩ := List.exists_cons_of_ne_nil some
    rw [suffix]

/- Disks on which everything stands in a directory -/

structure WellFormed (d : Disk) : Prop where
  distinct : (d.entries.map Prod.fst).Nodup
  parents : ∀ name l, d.get? (name :: l) ≠ none → d.get? l = some .directory
  here : d.get? d.here = some .directory

theorem emptyWellFormed (limits : Limits) : (empty limits).WellFormed :=
  ⟨List.nodup_nil, fun _ _ h => by simp [get?, empty] at h, rfl⟩

theorem nothingBelow {d : Disk} (wf : d.WellFormed) {l : Location} (none : d.get? l = none)
    (rel : Location) : d.get? (rel ++ l) = .none := by
  induction rel with
  | nil => exact none
  | cons name rest ih =>
    by_contra some
    have parent := wf.parents name (rest ++ l) some
    rw [ih] at parent
    contradiction

theorem directoryAbove {d : Disk} (wf : d.WellFormed) {l rel q : Location} (there : d.get? (rel ++ l) ≠ none)
    (suffix : q <:+ rel) (other : q ≠ rel) : d.get? (q ++ l) = some .directory := by
  obtain ⟨more, rfl⟩ := suffix
  have some : more ≠ [] := by
    rintro rfl
    exact other rfl
  rw [← List.dropLast_concat_getLast some] at there
  refine wf.parents (more.getLast some) (q ++ l) fun none => there ?_
  simpa using nothingBelow wf none more.dropLast

theorem putWellFormed {d : Disk} (wf : d.WellFormed) {l : Location} {name : Name} {e : Entry}
    (parent : d.get? l = some .directory)
    (kept : e = .directory ∨ d.get? (name :: l) ≠ some .directory) :
    (d.put (name :: l) e).WellFormed := by
  have directories (q : Location) (h : d.get? q = some .directory) :
      (d.put (name :: l) e).get? q = some .directory := by
    rw [getPut d (by simp)]
    split
    · next same =>
      rcases kept with rfl | other
      · rfl
      · exact absurd (same ▸ h) other
    · exact h
  refine ⟨?_, fun n q some => ?_, directories _ wf.here⟩
  · have others : ((d.entries.filter (·.1 != name :: l)).map Prod.fst).Nodup :=
      wf.distinct.sublist (List.filter_sublist.map _)
    refine List.nodup_cons.2 ⟨fun member => ?_, others⟩
    obtain ⟨entry, inside, same⟩ := List.mem_map.1 member
    simp [same] at inside
  · rw [getPut d (by simp)] at some
    split at some
    · next same =>
      cases same
      exact directories _ parent
    · exact directories _ (wf.parents n q some)

theorem lookupDistinct {α β : Type} [BEq α] [LawfulBEq α] {entries : List (α × β)}
    (distinct : (entries.map Prod.fst).Nodup) {key : α} {value : β} :
    entries.lookup key = some value ↔ (key, value) ∈ entries := by
  induction entries with
  | nil => simp
  | cons entry rest ih =>
    obtain ⟨k, v⟩ := entry
    obtain ⟨fresh, distinct⟩ := List.nodup_cons.1 distinct
    by_cases same : key = k
    · subst same
      have absent (other : β) : (key, other) ∉ rest := fun member =>
        fresh (List.mem_map.2 ⟨_, member, rfl⟩)
      simp [absent, eq_comm]
    · have other : (key == k) = false := by simpa using same
      simp [List.lookup_cons, other, same, ih distinct]

theorem belowGet {d : Disk} (wf : d.WellFormed) {l rel : Location} {e : Entry} :
    (rel, e) ∈ d.below l ↔ rel ≠ [] ∧ d.get? (rel ++ l) = some e := by
  rw [memBelow, ← lookupDistinct wf.distinct]
  refine and_congr_right fun some => ?_
  rw [get?, if_neg (by simp [some])]

theorem putBelow (d : Disk) {l q : Location} (outside : ¬ l <:+ q) (e : Entry) : (d.put q e).below l = d.below l := by
  have apart : l.isSuffixOf? q = none := by
    rw [Option.eq_none_iff_forall_ne_some]
    exact fun rel found => outside ⟨rel, List.append_eq_of_isSuffixOf?_eq_some found⟩
  unfold put below
  simp only [List.filterMap_cons, apart, List.filterMap_filter]
  refine List.filterMap_congr fun ⟨k, entry⟩ _ => ?_
  by_cases same : k = q
  · simp [same, apart]
  · simp [same]

theorem belowSublist (d : Disk) (l : Location) :
    ((d.below l).map fun e => e.1 ++ l).Sublist (d.entries.map Prod.fst) := by
  unfold below
  induction d.entries with
  | nil => exact .slnil
  | cons entry rest ih =>
    obtain ⟨q, e⟩ := entry
    rw [List.filterMap_cons]
    split
    · exact ih.cons q
    · next shown found =>
      simp only at found
      split at found
      · next name others suffix =>
        cases found
        have same := List.append_eq_of_isSuffixOf?_eq_some suffix
        rw [List.map_cons, List.map_cons, same]
        exact ih.cons_cons q
      · contradiction

theorem belowDistinct {d : Disk} (wf : d.WellFormed) (l : Location) :
    ((d.below l).map Prod.fst).Nodup := by
  have whole := wf.distinct.sublist (belowSublist d l)
  apply List.Nodup.of_map (· ++ l)
  rwa [List.map_map]

end ClassScaffold.Disk
