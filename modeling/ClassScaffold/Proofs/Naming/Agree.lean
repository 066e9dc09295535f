import ClassScaffold.Proofs.Naming.Shape
import ClassScaffold.Proofs.Text.Recase
import ClassScaffold.Request
/-! When the two names of a class agree. A number that makes the group free stands behind both names and
has no case, so all is decided by the first letter of the class name: a dotless i is capitalised to the
letter that the dotted i has, and then the type names of two groups are one. -/
namespace ClassScaffold.Naming
open Text (comesBack lowerAll lowered recased)

def Agrees (n : Naming) : Prop := lowered n.typeName = n.group
instance (n : Naming) : Decidable n.Agrees := by unfold Agrees; infer_instance

theorem loweredDecimal (s : String) (n : Nat) : lowered (s ++ decimal n) = lowered s ++ decimal n := by
  apply String.toList_injective
  simp only [Text.toListLowered, String.toList_append, lowerAll]
  exact Text.lowerAfterDigits (decimalDigits n).2

theorem ofNameAgrees (name : String) : (ofName name).Agrees ↔ recased name.toList = true := by
  rw [← Text.lowerCapitalize, Agrees, ofName, ← String.toList_inj, Text.toListLowered,
    Text.toListCapitalized, Text.toListLowered]

theorem numberedAgrees (base : Naming) (n : Nat) : (base.numbered n).Agrees ↔ base.Agrees := by
  rw [Agrees, Agrees, numbered, loweredDecimal, String.append_left_inj]

theorem claimAgrees (taken : List String) (base : Naming) : (claim taken base).Agrees ↔ base.Agrees := by
  rcases claimCases taken base with same | ⟨n, same⟩
  · rw [same]
  · rw [same, numberedAgrees]

theorem assignAfterAgrees (taken names : List String) :
    List.Forall₂ (fun name n => n.Agrees ↔ recased name.toList = true) names (assignAfter taken names) := by
  induction names generalizing taken with
  | nil => exact .nil
  | cons name rest ih => exact .cons ((claimAgrees _ _).trans (ofNameAgrees name)) (ih _)

theorem comesBackAscii : ∀ n : Fin 128, comesBack (Char.ofNat n) = true := by decide +kernel

theorem asciiAgrees {names taken : List String} {n : Naming} (member : n ∈ assignAfter taken names)
    (ascii : ∀ name ∈ names, ∀ c ∈ name.toList.head?, c.toNat < 0x80) : n.Agrees := by
  obtain ⟨name, inside, source⟩ := assignAfterSource member
  have back : recased name.toList = true := by
    rw [recased, Option.all_eq_true]
    intro c first
    have small := ascii name inside c first
    simpa only [Char.ofNat_toNat] using comesBackAscii ⟨c.toNat, small⟩
  have agrees := (ofNameAgrees name).2 back
  rcases source with rfl | ⟨k, rfl⟩
  · exact agrees
  · exact (numberedAgrees _ k).2 agrees

theorem agreeingDistinct {namings : List Naming} (groups : (namings.map Naming.group).Nodup) :
    ((namings.filter (·.Agrees)).map fun n => lowered n.typeName).Nodup := by
  have same : (namings.filter (·.Agrees)).map (fun n => lowered n.typeName) =
      (namings.filter (·.Agrees)).map Naming.group := by
    apply List.map_congr_left
    intro n member
    exact of_decide_eq_true (List.mem_filter.1 member).2
  rw [same]
  exact groups.sublist (List.filter_sublist.map _)

/-- The names of a class agree just when its first letter comes back from its capital, and the type names
of classes whose names agree differ in more than case. -/
theorem assignAgrees (classes : List ClassModel) :
    List.Forall₂ (fun (c : ClassModel) n => n.Agrees ↔ recased c.canonicalName.toList = true) classes
      (assign (classes.map ClassModel.canonicalName)) ∧
    (((assign (classes.map ClassModel.canonicalName)).filter (·.Agrees)).map
      fun n => lowered n.typeName).Nodup := by
  have each := assignAfterAgrees [] (classes.map ClassModel.canonicalName)
  exact ⟨List.forall₂_map_left_iff.1 each, agreeingDistinct (assignDistinct _)⟩

def dotless : List ClassModel := [⟨["ı"], [], []⟩, ⟨["i"], [], []⟩]

theorem dotlessClash : ¬ ∀ classes : List ClassModel,
    (∀ n ∈ assign (classes.map ClassModel.canonicalName), n.Agrees) ∧
    ((assign (classes.map ClassModel.canonicalName)).map fun n => lowered n.typeName).Nodup := by
  intro all
  have distinct := (all dotless).2
  exact absurd distinct (by decide +kernel)

end ClassScaffold.Naming
