import ClassScaffold.Proofs.Disk.Route
import ClassScaffold.Proofs.Plan.Flat
/-! What a plan asks for can be made. The checks let separators and dots behind a name pass, but the texts of
the planned paths are put together so that each of them goes to a name at last, and none of them holds a NUL. -/
namespace ClassScaffold
open ClassScaffold.Path (InvalidSegment)
open Disk (EndsInName IsMakeable IsWritable)

/- Segments -/

theorem Path.joinSegmentClean {p q : Path} {segment context : String} (ok : p.joinSegment segment context = .ok q) :
    '\x00' ∉ (Text.trimmed segment).toList := by
  simp only [joinSegment] at ok
  split at ok
  · cases ok
  · next checked =>
    simp only [Bool.or_eq_true, Bool.not_eq_true', not_or, List.contains_iff_mem] at checked
    exact checked.1.2

theorem segmentRelative {s name : String} (parts : (⟨s⟩ : Path).parts = [.normal name]) : s.toList.head? ≠ some '/' :=
  (Path.partsStart (s := s.toList) (by simpa using parts)).1

theorem joinSegmentMakeable {p q : Path} {segment context : String} (ok : p.joinSegment segment context = .ok q)
    (clean : '\x00' ∉ p.text.toList) (ends : EndsInName (Text.trimmed segment).toList) : IsMakeable q := by
  obtain ⟨rfl, name, parts, _⟩ := Path.joinSegmentParts ok
  exact Disk.joinMakeable clean (segmentRelative parts) ⟨ends, Path.joinSegmentClean ok⟩

theorem joinSegmentWritable {p q : Path} {stem context : String} (ok : p.joinSegment (stem ++ ".java") context = .ok q)
    (clean : '\x00' ∉ p.text.toList) : IsWritable q := by
  obtain ⟨rfl, name, parts, _⟩ := Path.joinSegmentParts ok
  exact Disk.joinWritable clean (segmentRelative parts)
    (Disk.sourceWritable (fileTrimmed stem) (Path.joinSegmentClean ok))

theorem Package.segmentsDotless (package : String) : ∀ segment ∈ segments package, '.' ∉ segment.toList := by
  intro segment member
  obtain ⟨text, kept, rfl⟩ := List.mem_map.1 member
  obtain ⟨piece, inside, rfl⟩ := List.mem_map.1 (List.mem_filter.1 kept).1
  simpa using fun dot => Text.splitAtAbsent inside (Text.trimWithin piece dot)

namespace Layout

theorem descendMakeable {start q : Path} {segments : List String} (makeable : IsMakeable start)
    (dotless : ∀ segment ∈ segments, '.' ∉ segment.toList) (ok : descend start segments = .ok q) : IsMakeable q := by
  unfold descend at ok
  induction segments generalizing start with
  | nil =>
    cases ok
    exact makeable
  | cons segment rest ih =>
    rw [List.foldlM_cons] at ok
    obtain ⟨p, first, later⟩ := okBind ok
    obtain ⟨_, name, parts, _⟩ := Path.joinSegmentParts first
    have apart : '.' ∉ (Text.trimmed segment).toList := by
      rw [Text.toListTrimmed]
      exact fun dot => dotless segment List.mem_cons_self (Text.trimWithin _ dot)
    have ends : EndsInName (Text.trimmed segment).toList := by
      rw [← String.ofList_toList (s := Text.trimmed segment)] at parts
      exact Disk.endsSegment apart parts
    exact ih (joinSegmentMakeable first makeable.clean ends)
      (fun other member => dotless other (List.mem_cons_of_mem _ member)) later

theorem rootsMakeable {p : Path} (clean : '\x00' ∉ p.text.toList) : IsMakeable (p.join sourceRoot) ∧
    IsMakeable (p.join testSourceRoot) ∧ IsMakeable (p.join resourceRoot) ∧ IsMakeable (p.join testResourceRoot) := by
  have below {other : String} (start word : List Char) (text : other.toList = start ++ word)
      (checked : '/' ∉ word ∧ word.any (· != '.') = true ∧ '\x00' ∉ other.toList ∧ other.toList.head? ≠ some '/') :
      IsMakeable (p.join other) := by
    obtain ⟨absent, letter, cleanOther, relative⟩ := checked
    exact Disk.joinMakeable clean relative (Disk.wordWritable text absent letter cleanOther).toIsMakeable
  exact ⟨below "src/main/".toList "java".toList (by decide) (by decide),
    below "src/test/".toList "java".toList (by decide) (by decide),
    below "src/main/".toList "resources".toList (by decide) (by decide),
    below "src/test/".toList "resources".toList (by decide) (by decide)⟩

theorem projectWritable {l : Layout} {name package : String} {database : Database} {e : Entries}
    (clean : '\x00' ∉ l.root.text.toList) (main : IsMakeable l.packageDirectory)
    (test : IsMakeable l.testPackageDirectory) (ok : l.entries ⟨name, package, database⟩ = .ok e)
    (f : Project.File) : IsWritable (l.projectPath e f) := by
  obtain ⟨entry, entryOk, ok⟩ := okBind ok
  obtain ⟨entryTest, entryTestOk, ok⟩ := okBind ok
  cases ok
  cases f with
  | pom =>
    exact Disk.joinWritable clean (by decide) (Disk.nameWritable (by decide) (by decide) (by decide))
  | properties =>
    exact Disk.joinWritable (rootsMakeable clean).2.2.1.clean (by decide)
      (Disk.nameWritable (by decide) (by decide) (by decide))
  | entry => exact joinSegmentWritable entryOk main.clean
  | entryTest =>
    have file (stem : String) : stem ++ "Tests.java" = stem ++ "Tests" ++ ".java" := by
      rw [String.append_assoc]
      rfl
    rw [Project.entryTestFile, file] at entryTestOk
    exact joinSegmentWritable entryTestOk test.clean

end Layout

namespace Naming

theorem lowerNul {before s : List Char} (member : '\x00' ∈ s) : '\x00' ∈ Text.lowerAfter before s := by
  have kept : Text.lower '\x00' = ['\x00'] := by decide
  induction s generalizing before with
  | nil => contradiction
  | cons c rest ih =>
    simp only [Text.lowerAfter, List.mem_append]
    rcases List.mem_cons.1 member with rfl | later
    · exact .inl (by simp [kept])
    · exact .inr (ih later)

theorem typeClean {names : List String} {n : Naming} (member : n ∈ assign names)
    (clean : '\x00' ∉ n.group.toList) : '\x00' ∉ n.typeName.toList := by
  have capitals {s : List Char} (nul : '\x00' ∈ Text.capitalize s) : '\x00' ∈ Text.lowerAll s := by
    refine lowerNul ?_
    cases s with
    | nil => contradiction
    | cons c rest =>
      rcases List.mem_append.1 nul with head | tail
      · rw [Text.upperUnlettered head (by decide)]
        exact List.mem_cons_self
      · exact List.mem_cons_of_mem _ tail
  obtain ⟨name, _, rfl | ⟨k, rfl⟩⟩ := assignAfterSource member
  · exact fun nul => clean (by simpa [ofName] using capitals (by simpa [ofName] using nul))
  · intro nul
    rw [numbered, String.toList_append, List.mem_append] at clean nul
    rcases nul with head | tail
    · exact clean (.inl (by simpa [ofName] using capitals (by simpa [ofName] using head)))
    · exact clean (.inr tail)

end Naming

namespace Layout

theorem layerWritable {directory : Path} {n : Naming} (clean : '\x00' ∉ directory.text.toList)
    (type : '\x00' ∉ n.typeName.toList) (layer : Layer) : IsWritable (layerPath directory n layer) := by
  have inner : IsMakeable (directory.join layer.directory) := by
    have word : IsWritable ⟨layer.directory⟩ := by
      cases layer <;> exact Disk.nameWritable (by decide) (by decide) (by decide)
    exact Disk.joinMakeable clean (by cases layer <;> decide) word.toIsMakeable
  have text : (layer.fileName n.typeName).toList = (layer.typeName n.typeName).toList ++ ".java".toList := by
    simp [Layer.fileName]
  refine Disk.joinWritable inner.clean ?_ (Disk.sourceWritable text ?_)
  · cases layer <;> simp [Layer.fileName, Layer.typeName, Layer.typeStem]
  · cases layer <;> simp [Layer.fileName, Layer.typeName, Layer.typeStem, type]

end Layout

namespace Plan

theorem ofPackageMakeable {root : Path} {package : String} {l : Layout} (ok : Layout.ofPackage root package = .ok l)
    (clean : '\x00' ∉ root.text.toList) :
    l.root = root ∧ IsMakeable l.packageDirectory ∧ IsMakeable l.testPackageDirectory := by
  simp only [Layout.ofPackage] at ok
  split at ok
  · cases ok
  · obtain ⟨main, mainOk, ok⟩ := okBind ok
    obtain ⟨test, testOk, ok⟩ := okBind ok
    cases ok
    have dotless := Package.segmentsDotless package
    obtain ⟨source, tests, _⟩ := Layout.rootsMakeable clean
    exact ⟨rfl, Layout.descendMakeable source dotless mainOk, Layout.descendMakeable tests dotless testOk⟩

theorem ofRequestReady {root : Path} {r : Request} {database : Database} {plan : Plan}
    (ok : ofRequest root r database = .ok plan) (clean : '\x00' ∉ root.text.toList) :
    (∀ p ∈ plan.directories, IsMakeable p) ∧ ∀ f ∈ plan.files, IsWritable f.path := by
  obtain ⟨layout, entries, classes, accepted⟩ := ofRequestAccepted ok
  obtain ⟨rfl, main, test⟩ := ofPackageMakeable accepted.package clean
  obtain ⟨_, _, resources, testResources⟩ := Layout.rootsMakeable clean
  have located : List.Forall₂ (fun n p => '\x00' ∉ n.typeName.toList ∧ '\x00' ∉ p.text.toList)
      (namings r) classes := by
    have members : List.Forall₂ (fun n p => n ∈ namings r ∧ layout.classDirectory n = .ok p) (namings r) classes :=
      (List.forall₂_and_left _ _).2 ⟨fun _ member => member, accepted.classes⟩
    refine members.imp fun n p ⟨member, checked⟩ => ?_
    have group := Path.joinSegmentClean checked
    obtain ⟨rfl, name, parts, _⟩ := Path.joinSegmentParts checked
    have below := Disk.joinClean main.clean (segmentRelative parts) group
    rw [Naming.groupTrimmed (namingsTrimmed r) member] at group
    exact ⟨Naming.typeClean member group, below⟩
  have layers := classGroupsRelated (fun _ f => IsWritable f.path) (fun _ layer => layer) located
    (entitiesNamed r layout.package) fun p e clean _ layer => Layout.layerWritable clean.2 clean.1 layer
  refine ⟨fun p member => ?_, fun f member => ?_⟩
  · rw [accepted.directories, Layout.directories] at member
    simp only [List.mem_cons, List.not_mem_nil, or_false] at member
    rcases member with rfl | rfl | rfl | rfl
    · exact main
    · exact test
    · exact resources
    · exact testResources
  · rw [accepted.files, List.mem_append] at member
    rcases member with project | inClasses
    · obtain ⟨file, _, rfl⟩ := List.mem_map.1 project
      exact Layout.projectWritable clean main test accepted.project file
    · obtain ⟨i, inside⟩ := List.mem_iff_get.1 inClasses
      rw [← inside]
      have bound : i.1 < ((namings r).flatMap fun n => Layer.all.map fun layer => layer).length := by
        rw [layers.length_eq]
        exact i.2
      exact layers.get bound i.2

end Plan
end ClassScaffold
