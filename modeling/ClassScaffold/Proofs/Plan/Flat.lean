import ClassScaffold.Proofs.Plan.Names
/-! Requests without separators in their names. A name without separators that is accepted as a segment is the
name on the disk as it stands, and the way to such a name is read off the request. A file name with a suffix
has no separators when it is accepted, as nothing but dots may follow them. -/
namespace ClassScaffold

/- Segments without separators -/

theorem singleFlat {s : List Char} {name : String} (flat : '/' ∉ s)
    (single : (⟨String.ofList s⟩ : Path).parts = [.normal name]) : name = String.ofList s := by
  obtain ⟨first, rest, pieces, _, same, _⟩ := Path.singleShape single
  rw [Text.splitAtWhole flat] at pieces
  rw [same, ← (List.cons.inj pieces).1]

theorem singleLetter {s : List Char} {name : String} {c : Char} (last : s.getLast? = some c)
    (other : c ≠ '/' ∧ c ≠ '.') (single : (⟨String.ofList s⟩ : Path).parts = [.normal name]) : '/' ∉ s := by
  intro member
  obtain ⟨first, rest, pieces, _, _, slack⟩ := Path.singleShape single
  cases cut : Text.cutLast '/' s with
  | none => exact Text.cutLastNone.1 cut member
  | some pair =>
    -- what follows the last separator is the last piece, and it ends like the text
    obtain ⟨whole, absent⟩ := Text.cutLastSource cut
    rw [whole, Text.splitAtAppend, Text.splitAtWhole absent] at pieces
    have inside : pair.2 ∈ rest := by
      obtain ⟨head, tail, before⟩ := List.exists_cons_of_ne_nil (Text.splitAtNonempty '/' pair.1)
      rw [before, List.cons_append] at pieces
      simp [← (List.cons.inj pieces).2]
    rw [whole, List.getLast?_append_of_ne_nil _ (by simp)] at last
    rcases slack pair.2 inside with empty | dot
    · rw [empty] at last
      exact other.1 (by simpa using last.symm)
    · rw [dot] at last
      exact other.2 (by simpa using last.symm)

theorem fileTrimmed (stem : String) :
    (Text.trimmed (stem ++ ".java")).toList = Text.trimStart stem.toList ++ ".java".toList := by
  have trimmed : Text.IsTrimmed ".java".toList := by
    refine ⟨fun c head => ?_, fun c last => ?_⟩
    · obtain rfl : '.' = c := by simpa using head
      decide
    · obtain rfl : 'a' = c := by simpa using last
      decide
  rw [Text.toListTrimmed, String.toList_append, Text.trimEnding _ (by decide) trimmed]

theorem fileSegment {stem name : String} (single : IsSegment (stem ++ ".java") name) :
    name = Text.trimmed (stem ++ ".java") := by
  have last : (Text.trimmed (stem ++ ".java")).toList.getLast? = some 'a' := by
    rw [fileTrimmed]
    simp
  rw [IsSegment, Path.ofText (p := ⟨Text.trimmed (stem ++ ".java")⟩) rfl] at single
  rw [singleFlat (singleLetter last (by decide) single) single, String.ofList_toList]

theorem segmentsFlat {segments names : List String} (single : List.Forall₂ IsSegment segments names)
    (flat : ∀ segment ∈ segments, Text.trimmed segment = segment ∧ '/' ∉ segment.toList) : names = segments := by
  induction single with
  | nil => rfl
  | @cons segment name segments names head _ ih =>
    obtain ⟨trimmed, absent⟩ := flat segment List.mem_cons_self
    rw [IsSegment, trimmed, Path.ofText (p := ⟨segment⟩) rfl] at head
    rw [ih fun other member => flat other (List.mem_cons_of_mem _ member), singleFlat absent head,
      String.ofList_toList]

theorem Package.segmentsPlain {package : String} (flat : '/' ∉ package.toList) :
    ∀ segment ∈ segments package, Text.trimmed segment = segment ∧ '/' ∉ segment.toList := by
  intro segment member
  obtain ⟨text, kept, rfl⟩ := List.mem_map.1 member
  obtain ⟨piece, inside, rfl⟩ := List.mem_map.1 (List.mem_filter.1 kept).1
  have within : Text.trim piece ⊆ package.toList :=
    List.Subset.trans (Text.trimWithin piece) (Text.splitAtWithin inside)
  have fixed := Text.trimFixed (Text.trimIsTrimmed piece)
  exact ⟨by simp [Text.trimmed, fixed], by simpa using fun slash => flat (within slash)⟩

/-- The names of the request that go into paths have no separators. -/
def Request.IsFlat (r : Request) : Prop :=
  '/' ∉ r.package.toList ∧ ∀ c ∈ r.classes, '/' ∉ c.canonicalName.toList
instance (r : Request) : Decidable r.IsFlat := by unfold Request.IsFlat; infer_instance

theorem Plan.groupsFlat {r : Request} (flat : r.IsFlat) : ∀ n ∈ namings r, '/' ∉ n.group.toList := by
  intro n member slash
  obtain ⟨name, inside, shape⟩ := Naming.assignAfterSource member
  obtain ⟨c, among, rfl⟩ := List.mem_map.1 inside
  have lowered : '/' ∉ (Naming.ofName c.canonicalName).group.toList := fun slash =>
    flat.2 c among (Text.lowerAfterUnlettered (by simpa [Naming.ofName, Text.lowerAll] using slash) (by decide))
  rcases shape with rfl | ⟨k, rfl⟩
  · exact lowered slash
  · have digits : '/' ∉ (Naming.decimal k).toList := fun digit => by
      simpa using (Naming.decimalDigits k).2 _ digit
    simp [Naming.numbered, lowered, digits] at slash

end ClassScaffold
