import ClassScaffold.Naming
import Mathlib.Data.List.Nodup
import Mathlib.Data.List.Perm.Subperm
/-! No two classes of a request have the same group. There is one number more to be tried than there are
groups that are taken, so the search for a free one cannot fail. -/
namespace ClassScaffold.Naming

theorem decimalInjective {n k : Nat} (same : decimal n = decimal k) : n = k := by
  have digits : Nat.toDigits 10 n = Nat.toDigits 10 k := by
    have := congrArg String.toList same
    simpa [decimal] using this
  have values := congrArg (Nat.ofDigitChars 10 · 0) digits
  simpa [Nat.ofDigitChars_ten_toDigits] using values

theorem numberedInjective {base : Naming} {n k : Nat}
    (same : (base.numbered n).group = (base.numbered k).group) : n = k :=
  decimalInjective (String.append_right_inj _ |>.1 same)

theorem numberedApart (base : Naming) (n : Nat) : (base.numbered n).group ≠ base.group := by
  intro same
  have nothing : decimal n = "" := String.append_eq_left_iff.1 same
  have digits := congrArg String.toList nothing
  simp [decimal, Nat.toDigits_ne_nil] at digits

/-- As many numbers as can be in use, when the plain group and all numbers from two up to `n` are. -/
theorem numbersFew {taken : List String} {base : Naming} {n : Nat} (used : base.group ∈ taken)
    (all : ∀ k, 2 ≤ k → k < n → (base.numbered k).group ∈ taken) : n ≤ taken.length + 1 := by
  let numbers := (List.range (n - 2)).map fun i => (base.numbered (2 + i)).group
  have distinct : (base.group :: numbers).Nodup := by
    refine List.nodup_cons.2 ⟨fun member => ?_, List.Nodup.map (fun i k same => ?_) List.nodup_range⟩
    · obtain ⟨i, _, same⟩ := List.mem_map.1 member
      exact numberedApart base (2 + i) same
    · have := numberedInjective same
      omega
  have inside : base.group :: numbers ⊆ taken := by
    refine List.cons_subset.2 ⟨used, fun group among => ?_⟩
    obtain ⟨i, small, rfl⟩ := List.mem_map.1 among
    exact all (2 + i) (by omega) (by have := List.mem_range.1 small; omega)
  have lengths := (distinct.subperm inside).length_le
  simp only [numbers, List.length_cons, List.length_map, List.length_range] at lengths
  omega

theorem firstFreeTaken {taken : List String} {base : Naming} {tries n : Nat}
    (member : (firstFree taken base tries n).group ∈ taken) :
    ∀ i ≤ tries, (base.numbered (n + i)).group ∈ taken := by
  induction tries generalizing n with
  | zero =>
    intro i small
    obtain rfl : i = 0 := by omega
    exact member
  | succ tries ih =>
    unfold firstFree at member
    split at member
    · next here =>
      intro i small
      cases i with
      | zero => exact here
      | succ i =>
        have later := ih member i (by omega)
        rwa [Nat.add_right_comm, Nat.add_assoc] at later
    · next free => exact absurd member free

theorem claimFresh (taken : List String) (base : Naming) : (claim taken base).group ∉ taken := by
  unfold claim
  split
  · next used =>
    intro member
    -- the search took the last number, so all of them were taken, and they are too many
    have tried := firstFreeTaken member
    have few : taken.length + 3 ≤ taken.length + 1 := numbersFew used fun k fromTwo below => by
      have here := tried (k - 2) (by omega)
      rwa [Nat.add_sub_cancel' fromTwo] at here
    omega
  · next free => exact free

theorem assignAfterDistinct (names taken : List String) :
    ((assignAfter taken names).map Naming.group).Nodup ∧
      ∀ naming ∈ assignAfter taken names, naming.group ∉ taken := by
  induction names generalizing taken with
  | nil => simp [assignAfter]
  | cons name rest ih =>
    obtain ⟨distinct, fresh⟩ := ih ((claim taken (ofName name)).group :: taken)
    have head := claimFresh taken (ofName name)
    simp only [assignAfter, List.map_cons, List.nodup_cons, List.mem_map, List.mem_cons]
    refine ⟨⟨?_, distinct⟩, ?_⟩
    · rintro ⟨naming, member, same⟩
      exact fresh naming member (by simp [same])
    · rintro naming (rfl | member)
      · exact head
      · exact fun inside => fresh naming member (List.mem_cons_of_mem _ inside)

theorem assignDistinct (names : List String) : ((assign names).map Naming.group).Nodup :=
  (assignAfterDistinct names []).1

theorem claimCases (taken : List String) (base : Naming) :
    claim taken base = base ∨ ∃ n, claim taken base = base.numbered n := by
  have search (tries n : Nat) : ∃ k, firstFree taken base tries n = base.numbered k := by
    induction tries generalizing n with
    | zero => exact ⟨n, rfl⟩
    | succ tries ih =>
      unfold firstFree
      split
      · exact ih (n + 1)
      · exact ⟨n, rfl⟩
  unfold claim
  split
  · exact .inr (search taken.length 2)
  · exact .inl rfl

theorem assignAfterSource {names taken : List String} {naming : Naming}
    (member : naming ∈ assignAfter taken names) :
    ∃ name ∈ names, naming = ofName name ∨ ∃ n, naming = (ofName name).numbered n := by
  induction names generalizing taken with
  | nil => simp [assignAfter] at member
  | cons name rest ih =>
    rcases List.mem_cons.1 member with rfl | later
    · exact ⟨name, List.mem_cons_self, claimCases taken (ofName name)⟩
    · obtain ⟨other, inside, shape⟩ := ih later
      exact ⟨other, List.mem_cons_of_mem _ inside, shape⟩

end ClassScaffold.Naming
