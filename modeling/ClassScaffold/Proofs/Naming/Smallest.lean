import ClassScaffold.Proofs.Naming.Assign
import ClassScaffold.Request
/-! Which number a class gets: none when its group is free, otherwise the smallest one from two upwards that no
class before it has used up. The classes after it have no say in it. -/
namespace ClassScaffold.Naming

/-- What a class is called that would be `base`, when the classes before it have the groups `taken`. The number
is found after no more tries than there are such classes. -/
inductive Gets (taken : List String) (base : Naming) : Naming → Prop
  | own (free : base.group ∉ taken) : Gets taken base base
  | numbered {n : Nat} (used : base.group ∈ taken) (fromTwo : 2 ≤ n)
      (free : (base.numbered n).group ∉ taken)
      (smallest : ∀ k, 2 ≤ k → k < n → (base.numbered k).group ∈ taken)
      (soon : n ≤ taken.length + 1) : Gets taken base (base.numbered n)

theorem getsPerm {taken other : List String} {base naming : Naming} (same : taken.Perm other)
    (gets : Gets taken base naming) : Gets other base naming := by
  cases gets with
  | own free => exact .own fun member => free (same.mem_iff.2 member)
  | numbered used fromTwo free smallest soon =>
    exact .numbered (same.mem_iff.1 used) fromTwo (fun member => free (same.mem_iff.2 member))
      (fun k lower upper => same.mem_iff.1 (smallest k lower upper)) (same.length_eq ▸ soon)

theorem firstFreeSmallest (taken : List String) (base : Naming) (tries n : Nat) :
    ∃ k, firstFree taken base tries n = base.numbered k ∧ n ≤ k ∧
      ∀ i, n ≤ i → i < k → (base.numbered i).group ∈ taken := by
  induction tries generalizing n with
  | zero => exact ⟨n, rfl, Nat.le_refl n, fun i lower upper => by omega⟩
  | succ tries ih =>
    unfold firstFree
    split
    · next here =>
      obtain ⟨k, found, later, before⟩ := ih (n + 1)
      refine ⟨k, found, by omega, fun i lower upper => ?_⟩
      rcases Nat.eq_or_lt_of_le lower with rfl | above
      · exact here
      · exact before i above upper
    · exact ⟨n, rfl, Nat.le_refl n, fun i lower upper => by omega⟩

theorem claimGets (taken : List String) (base : Naming) : Gets taken base (claim taken base) := by
  have fresh := claimFresh taken base
  unfold claim at fresh ⊢
  split at fresh
  · next used =>
    obtain ⟨n, found, fromTwo, smallest⟩ := firstFreeSmallest taken base taken.length 2
    rw [if_pos used, found]
    rw [found] at fresh
    exact .numbered used fromTwo fresh smallest (numbersFew used smallest)
  · next free =>
    rw [if_neg free]
    exact .own free

theorem assignAfterGets {names : List String} (taken : List String) {i : Nat} {name : String}
    (here : names[i]? = some name) :
    ∃ naming, (assignAfter taken names)[i]? = some naming ∧
      Gets (((assignAfter taken names).take i).map Naming.group ++ taken) (ofName name) naming := by
  induction names generalizing taken i with
  | nil => simp at here
  | cons first rest ih =>
    cases i with
    | zero =>
      obtain rfl : first = name := by simpa using here
      exact ⟨claim taken (ofName first), rfl, claimGets taken (ofName first)⟩
    | succ i =>
      let group := (claim taken (ofName first)).group
      have later : rest[i]? = some name := by simpa using here
      obtain ⟨naming, found, gets⟩ := ih (group :: taken) later
      refine ⟨naming, by simpa [assignAfter] using found, ?_⟩
      -- the group of the first class is taken from the start for those after it
      simpa [assignAfter] using getsPerm List.perm_middle gets

theorem assignAfterAppend (taken names more : List String) :
    ∃ later, assignAfter taken (names ++ more) = assignAfter taken names ++ later := by
  induction names generalizing taken with
  | nil => exact ⟨assignAfter taken more, rfl⟩
  | cons name rest ih =>
    obtain ⟨later, split⟩ := ih ((claim taken (ofName name)).group :: taken)
    exact ⟨later, by simp [assignAfter, split]⟩

/-- The names of the classes, in the order of the classes. What comes after a class is not looked at. -/
structure AreAssigned (classes : List ClassModel) (namings : List Naming) : Prop where
  each : namings.length = classes.length
  distinct : (namings.map Naming.group).Nodup
  gets : ∀ i c, classes[i]? = some c → ∃ naming, namings[i]? = some naming ∧
    Gets ((namings.take i).map Naming.group) (ofName c.canonicalName) naming

theorem assignSmallest (classes : List ClassModel) :
    AreAssigned classes (assign (classes.map ClassModel.canonicalName)) ∧
      ∀ more, assign (classes.map ClassModel.canonicalName) <+:
        assign ((classes ++ more).map ClassModel.canonicalName) := by
  refine ⟨⟨?_, assignDistinct _, fun i c here => ?_⟩, fun more => ?_⟩
  · rw [assign, assignAfterLength, List.length_map]
  · have name : (classes.map ClassModel.canonicalName)[i]? = some c.canonicalName := by
      simp [here]
    obtain ⟨naming, found, gets⟩ := assignAfterGets [] name
    exact ⟨naming, found, by simpa [assign] using gets⟩
  · rw [List.map_append]
    obtain ⟨later, split⟩ := assignAfterAppend [] (classes.map ClassModel.canonicalName)
      (more.map ClassModel.canonicalName)
    exact ⟨later, split.symm⟩

/-- A name that somebody has written with a number is passed over as well. -/
example : (assign ["Order", "order2", "ORDER"]).map Naming.group = ["order", "order2", "order3"] := by
  decide +kernel

end ClassScaffold.Naming
