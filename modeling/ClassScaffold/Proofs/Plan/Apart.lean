import ClassScaffold.Proofs.Plan.Flat
import ClassScaffold.Proofs.Text.Length
/-! No planned file is on the way to another one. An entry point has a capital letter and the directory of a
class has none; a file `Model….java` could only be the directory `Model…` of a class with the same group, but
then the names of the two classes would be of different lengths. -/
namespace ClassScaffold
open Text (lowerLength)

namespace Naming

/- Groups and type names -/

/-- In lower case the type name is about as long as the group. -/
structure IsFitting (n : Naming) : Prop where
  group : n.group.toList.length ≤ lowerLength n.typeName.toList + 1
  type : lowerLength n.typeName.toList ≤ n.group.toList.length + 3

variable {names : List String} {n : Naming}

theorem assignFitting (member : n ∈ assign names) : n.IsFitting := by
  have base (name : String) : (ofName name).IsFitting := by
    obtain ⟨small, capital⟩ := Text.capitalizeLength name.toList
    refine ⟨?_, ?_⟩
    · simpa [ofName, lowerLength] using small
    · simpa [ofName, lowerLength] using capital
  obtain ⟨name, _, rfl | ⟨k, rfl⟩⟩ := assignAfterSource member
  · exact base name
  · obtain ⟨small, capital⟩ := base name
    have digits := Text.lowerLengthDigits (decimalDigits k).2
    refine ⟨?_, ?_⟩ <;>
      rw [numbered, String.toList_append, String.toList_append, Text.lowerLengthAppend, List.length_append, digits] <;>
      omega

theorem groupCapital (member : n ∈ assign names) : 'A' ∉ n.group.toList := by
  have base (name : String) : 'A' ∉ (ofName name).group.toList := by
    simpa [ofName, Text.lowerAll] using Text.lowerAllCapital [] name.toList
  obtain ⟨name, _, rfl | ⟨k, rfl⟩⟩ := assignAfterSource member
  · exact base name
  · rw [numbered, String.toList_append, List.mem_append]
    rintro (capital | digit)
    · exact base name capital
    · exact absurd ((decimalDigits k).2 _ digit) (by decide)

theorem directoryCapital (member : n ∈ assign names) : 'A' ∉ n.directory.toList := by
  intro capital
  rw [directory, stem, String.toList_ofList] at capital
  exact groupCapital member (List.takeWhile_subset _ capital)

theorem cutFitting {group type rest : List Char} (cut : n.IsCut group type rest) (fitting : n.IsFitting) :
    lowerLength type ≤ group.length + 3 := by
  have kept : lowerLength ('/' :: rest) = ('/' :: rest).length := by
    refine Text.lowerLengthUndotted fun c member => ?_
    rcases List.mem_cons.1 member with rfl | inside
    · decide
    · rcases slackDotted cut.slack c inside with rfl | rfl <;> decide
  have fits := fitting.type
  rw [cut.groupText, cut.typeText, Text.lowerLengthAppend, List.length_append, kept] at fits
  omega

/-- A file is no directory around the files of another class. -/
theorem layerNamesPrefix {a b : Naming} (shapeA : a.IsShaped) (shapeB : b.IsShaped) (fitA : a.IsFitting)
    (fitB : b.IsFitting) {l l' : Layer} (within : a.layerNames l <+: b.layerNames l') :
    a.layerNames l = b.layerNames l' := by
  rcases shapeA with flatA | cutA <;> rcases shapeB with flatB | @⟨group, type, rest, cutB⟩
  · refine within.eq_of_length ?_
    rw [layerNamesFlat flatA, layerNamesFlat flatB]
    rfl
  · exfalso
    rw [layerNamesFlat flatA, layerNamesCut cutB, stemCut cutB.groupText cutB.group.2.2.2,
      stemCut cutB.typeText cutB.type] at within
    simp only [List.cons_prefix_cons, List.nil_prefix, and_true] at within
    obtain ⟨groups, layers, files⟩ := within
    obtain rfl := layerDirectoryInjective layers
    rw [Layer.fileName, Layer.typeName, Layer.typeName, String.append_assoc, String.append_right_inj] at files
    have long := cutFitting cutB fitB
    have java : lowerLength ".java".toList = 5 := by decide +kernel
    have text := congrArg String.toList files
    simp only [String.toList_append, String.toList_ofList] at text
    rw [← text, Text.lowerLengthAppend, java] at long
    have short := fitA.group
    rw [groups, String.toList_ofList] at short
    omega
  · have lengths := within.length_le
    rw [layerNamesCut cutA, layerNamesFlat flatB] at lengths
    simp at lengths
  · refine within.eq_of_length ?_
    rw [layerNamesCut cutA, layerNamesCut cutB]
    rfl

end Naming

namespace Plan
open Layout (sourceNames testNames)

variable {main test : List String} {entry entryTest : String} {namings : List Naming}

theorem entryCapital {segments : List String} {pascal : String}
    (named : IsNamed segments (pascal ++ Project.entryStem) main test entry entryTest) : 'A' ∈ entry.toList := by
  have kept {s : List Char} (member : 'A' ∈ s) : 'A' ∈ Text.trimStart s := by
    unfold Text.trimStart
    induction s with
    | nil => contradiction
    | cons c rest ih =>
      rw [List.dropWhile_cons]
      split
      · next blank =>
        rcases List.mem_cons.1 member with rfl | later
        · exact absurd blank (by decide)
        · exact ih later
      · exact member
  rw [fileSegment named.entry, fileTrimmed]
  refine List.mem_append_left _ (kept ?_)
  rw [String.toList_append]
  exact List.mem_append_right _ (by decide)

theorem projectPrefix {a b : List String} (inA : a ∈ projectNames main test entry entryTest)
    (inB : b ∈ projectNames main test entry entryTest) (within : a <+: b) : a = b := by
  simp only [projectNames, sourceNames, testNames, List.mem_cons, List.not_mem_nil, or_false] at inA inB
  rcases inA with rfl | rfl | rfl | rfl <;> rcases inB with rfl | rfl | rfl | rfl <;>
    simp_all [List.cons_prefix_cons]

theorem projectClassPrefix {a : List String} {n : Naming} {l : Layer} (capital : 'A' ∈ entry.toList)
    (small : 'A' ∉ n.directory.toList) (inA : a ∈ projectNames main test entry entryTest) :
    ¬ a <+: sourceNames main ++ n.layerNames l ∧ ¬ sourceNames main ++ n.layerNames l <+: a := by
  simp only [projectNames, List.mem_cons, List.not_mem_nil, or_false] at inA
  rcases inA with rfl | rfl | rfl | rfl
  · simp [sourceNames, List.cons_prefix_cons]
  · simp [sourceNames, List.cons_prefix_cons]
  · rw [List.prefix_append_right_inj, List.prefix_append_right_inj, Naming.layerNames, List.cons_prefix_cons,
      List.cons_prefix_cons]
    exact ⟨fun within => small (within.1 ▸ capital), fun within => small (within.1 ▸ capital)⟩
  · simp [sourceNames, testNames, List.cons_prefix_cons]

section
variable (shapes : ∀ n ∈ namings, n.IsShaped) (fits : ∀ n ∈ namings, n.IsFitting)
  (small : ∀ n ∈ namings, 'A' ∉ n.directory.toList) (capital : 'A' ∈ entry.toList)
include shapes fits small capital

theorem filesPrefix {a b : List String}
    (inA : a ∈ projectNames main test entry entryTest ++ namings.flatMap (classNames main))
    (inB : b ∈ projectNames main test entry entryTest ++ namings.flatMap (classNames main))
    (within : a <+: b) : a = b := by
  rcases List.mem_append.1 inA with project | classes <;> rcases List.mem_append.1 inB with project' | classes'
  · exact projectPrefix project project' within
  · obtain ⟨n, member, layers⟩ := List.mem_flatMap.1 classes'
    obtain ⟨l, _, rfl⟩ := List.mem_map.1 layers
    exact absurd within (projectClassPrefix capital (small n member) project).1
  · obtain ⟨n, member, layers⟩ := List.mem_flatMap.1 classes
    obtain ⟨l, _, rfl⟩ := List.mem_map.1 layers
    exact absurd within (projectClassPrefix capital (small n member) project').2
  · obtain ⟨n, member, layers⟩ := List.mem_flatMap.1 classes
    obtain ⟨l, _, rfl⟩ := List.mem_map.1 layers
    obtain ⟨n', member', layers'⟩ := List.mem_flatMap.1 classes'
    obtain ⟨l', _, rfl⟩ := List.mem_map.1 layers'
    rw [List.prefix_append_right_inj] at within
    rw [Naming.layerNamesPrefix (shapes n member) (shapes n' member') (fits n member) (fits n' member') within]

/-- The directories that are made first are around other files, except one that stays empty. -/
theorem directoriesPrefix {a b : List String}
    (inA : a ∈ projectNames main test entry entryTest ++ namings.flatMap (classNames main))
    (inB : b ∈ [sourceNames main, testNames test, ["src", "main", "resources"], ["src", "test", "resources"]]) :
    ¬ a <+: b := by
  have around {c} (name : String) (file : c = b ++ [name])
      (inC : c ∈ projectNames main test entry entryTest ++ namings.flatMap (classNames main)) : ¬ a <+: b := by
    intro within
    have same := filesPrefix shapes fits small capital inA inC (within.trans (file ▸ List.prefix_append ..))
    have lengths := within.length_le
    rw [same, file, List.length_append, List.length_singleton] at lengths
    omega
  simp only [List.mem_cons, List.not_mem_nil, or_false] at inB
  rcases inB with rfl | rfl | rfl | rfl
  · exact around entry rfl (List.mem_append_left _ (by simp [projectNames]))
  · exact around entryTest rfl (List.mem_append_left _ (by simp [projectNames]))
  · exact around "application.properties" rfl (List.mem_append_left _ (by simp [projectNames]))
  · intro within
    rcases List.mem_append.1 inA with project | classes
    · simp only [projectNames, List.mem_cons, List.not_mem_nil, or_false] at project
      rcases project with rfl | rfl | rfl | rfl <;>
        simp [sourceNames, testNames, List.cons_prefix_cons] at within
    · obtain ⟨n, _, layers⟩ := List.mem_flatMap.1 classes
      obtain ⟨l, _, rfl⟩ := List.mem_map.1 layers
      simp [sourceNames, List.cons_prefix_cons] at within

end

end Plan
end ClassScaffold
