import ClassScaffold.Layout
import ClassScaffold.Proofs.Naming.Shape
import Mathlib.Data.List.TakeWhile
/-! Where the files of an accepted class lie below the package, name by name, and when two classes have the
same files. Groups are told apart as texts, and texts that differ only behind the first separator are the
same name on a disk. -/
namespace ClassScaffold
open Text (splitAt)
open ClassScaffold.Path (Plain Part partOf partsOf)

/- Names with plain characters in them -/

theorem plainOf {s : List Char} (absent : '/' ∉ s) {c : Char} (member : c ∈ s) (other : c ≠ '.') :
    Plain s := by
  refine ⟨fun none => ?_, fun dot => ?_, fun dots => ?_, absent⟩
  · simp [none] at member
  · simp [dot, other] at member
  · simp [dots, other] at member

theorem partsPlain {s : List Char} (plain : Plain s) :
    (⟨String.ofList s⟩ : Path).parts = [.normal (String.ofList s)] := by
  have relative : s.head? ≠ some '/' := fun head => plain.2.2.2 (List.mem_of_head? head)
  simp [Path.partsRelative relative, Text.splitAtWhole plain.2.2.2, partsOf, Path.partOfPlain plain]

theorem partsCut {name rest : List Char} (plain : Plain name) (slack : Slack rest) {ending : List Char}
    (absent : '/' ∉ ending) {c : Char} (member : c ∈ ending) (other : c ≠ '.') :
    (⟨String.ofList (name ++ '/' :: rest ++ ending)⟩ : Path).parts =
      [.normal (String.ofList name),
        .normal (String.ofList ((if rest.getLast? = some '.' then ['.'] else []) ++ ending))] := by
  have relative : (name ++ '/' :: rest ++ ending).head? ≠ some '/' := by
    obtain ⟨x, xs, rfl⟩ := List.exists_cons_of_ne_nil plain.1
    have apart := plain.2.2.2
    simp only [List.cons_append, List.head?_cons, ne_eq, Option.some.injEq]
    exact fun same => apart (by simp [same])
  obtain ⟨before, pieces⟩ := slackLast slack
  obtain ⟨before', last, pieces', grown⟩ := Text.splitAtEnd absent rest
  obtain ⟨rfl, ends⟩ := List.append_inj' (pieces'.symm.trans pieces) rfl
  have ends := List.cons.inj ends |>.1
  subst ends
  have none : partsOf false before' = [] := Path.noParts.2 fun piece h => slack piece (by simp [pieces, h])
  have plainLast : Plain ((if rest.getLast? = some '.' then ['.'] else []) ++ ending) := by
    refine plainOf ?_ (List.mem_append_right _ member) other
    split <;> simpa using absent
  have split : splitAt '/' (name ++ '/' :: rest ++ ending) =
      name :: (before' ++ [(if rest.getLast? = some '.' then ['.'] else []) ++ ending]) := by
    rw [List.append_assoc, List.cons_append, Text.splitAtAppend, Text.splitAtWhole plain.2.2.2, grown,
      List.singleton_append]
  rw [Path.partsRelative relative, split, partsOf, Path.partOfPlain plain]
  by_cases alone : before' = []
  · simp only [alone, List.nil_append, partsOf, Path.partOfPlain plainLast]
    rfl
  · simp only [Path.partsOfAppend alone, none, partsOf, Path.partOfPlain plainLast]
    rfl

/- The files of a class -/

def stem (s : String) : String := String.ofList (s.toList.takeWhile (· != '/'))

namespace Naming

def directory (n : Naming) : String := stem n.group

/-- The names of a layer's file below the directory of the layer. What stands behind the last separator of
a type name starts the name of the file, and what stands before the first one is a directory. -/
def fileNames (l : Layer) (n : Naming) : List String :=
  if '/' ∈ n.typeName.toList then
    [l.typeName (stem n.typeName), (if n.typeName.toList.getLast? = some '.' then "." else "") ++ ".java"]
  else [l.fileName n.typeName]

def layerNames (l : Layer) (n : Naming) : List String := n.directory :: l.directory :: n.fileNames l

theorem stemFlat {s : String} (absent : '/' ∉ s.toList) : stem s = s := by
  have whole : s.toList.takeWhile (· != '/') = s.toList := by
    rw [List.takeWhile_eq_self_iff]
    intro c member
    simpa using fun same : c = '/' => absent (same ▸ member)
  rw [stem, whole, String.ofList_toList]

theorem stemCut {s : String} {a rest : List Char} (text : s.toList = a ++ '/' :: rest) (apart : '/' ∉ a) :
    stem s = String.ofList a := by
  have head : (a ++ '/' :: rest).takeWhile (· != '/') = a := by
    rw [List.takeWhile_append_of_pos]
    · simp
    · intro c member
      simpa using fun same : c = '/' => apart (same ▸ member)
  rw [stem, text, head]

theorem lastCut {s : String} {a rest : List Char} (text : s.toList = a ++ '/' :: rest) :
    s.toList.getLast? = some '.' ↔ rest.getLast? = some '.' := by
  rw [text, List.getLast?_append_of_ne_nil _ (by simp)]
  cases rest with
  | nil => simp
  | cons c cs => rw [List.getLast?_cons_of_ne_nil (by simp)]

theorem stemLetter (l : Layer) : ∃ c ∈ l.typeStem.toList, c ≠ '.' := by
  cases l <;> exact ⟨_, List.mem_cons_self, by decide⟩

theorem stemNoSlash (l : Layer) : '/' ∉ l.typeStem.toList := by cases l <;> decide

theorem fileParts {n : Naming} (shape : n.IsShaped) (l : Layer) :
    (⟨l.fileName n.typeName⟩ : Path).parts = (n.fileNames l).map .normal := by
  obtain ⟨letter, inStem, other⟩ := stemLetter l
  have apart := stemNoSlash l
  rcases shape with flat | @⟨group, type, rest, cut⟩
  · have plain : Plain (l.fileName n.typeName).toList := by
      refine plainOf ?_ (c := letter) ?_ other
      · simp [Layer.fileName, Layer.typeName, apart, flat.typeName]
      · simp [Layer.fileName, Layer.typeName, inStem]
    rw [Path.ofText (p := ⟨l.fileName n.typeName⟩) rfl, partsPlain plain]
    simp [fileNames, flat.typeName]
  · have member : '/' ∈ n.typeName.toList := by simp [cut.typeText]
    have plain : Plain (l.typeStem.toList ++ type) :=
      plainOf (by simp [apart, cut.type]) (List.mem_append_left _ inStem) other
    have text : (l.fileName n.typeName).toList =
        (l.typeStem.toList ++ type) ++ '/' :: rest ++ ".java".toList := by
      simp [Layer.fileName, Layer.typeName, cut.typeText]
    have absent : '/' ∉ ".java".toList := by decide
    have letter : 'j' ∈ ".java".toList := by decide
    rw [Path.ofText (p := ⟨l.fileName n.typeName⟩) text,
      partsCut plain cut.slack absent letter (by decide)]
    simp only [fileNames, member, if_true, stemCut cut.typeText cut.type, lastCut cut.typeText,
      List.map_cons, List.map_nil, Layer.typeName]
    congr 3
    · simp
    · split <;> simp

theorem groupParts {names : List String} (trimmed : ∀ name ∈ names, Text.IsTrimmed name.toList) {n : Naming}
    (member : n ∈ assign names) {single : String}
    (parts : (⟨Text.trimmed n.group⟩ : Path).parts = [.normal single]) : single = n.directory := by
  have shape := acceptedShape trimmed member parts
  rw [groupTrimmed trimmed member, Path.ofText (p := ⟨n.group⟩) rfl] at parts
  rcases shape with flat | @⟨group, type, rest, cut⟩
  · rw [partsPlain flat.group] at parts
    rw [directory, stemFlat flat.group.2.2.2]
    simpa using parts.symm
  · obtain ⟨first, others, pieces, _, same, _⟩ := Path.singleShape parts
    rw [cut.groupText, Text.splitAtAppend, Text.splitAtWhole cut.group.2.2.2] at pieces
    rw [same, ← (List.cons.inj pieces).1, directory, stemCut cut.groupText cut.group.2.2.2]

/- Classes with the same files -/

/-- The names are cut and agree before their first separators; both end with a dot or none does. -/
structure Clash (a b : Naming) : Prop where
  cuts : '/' ∈ a.group.toList ∧ '/' ∈ b.group.toList
  groups : stem a.group = stem b.group
  types : stem a.typeName = stem b.typeName
  dots : a.group.toList.getLast? = some '.' ↔ b.group.toList.getLast? = some '.'

theorem layerNamesFlat {n : Naming} (flat : n.IsFlat) (l : Layer) :
    n.layerNames l = [n.group, l.directory, l.fileName n.typeName] := by
  simp [layerNames, fileNames, directory, flat.typeName, stemFlat flat.group.2.2.2]

theorem layerNamesCut {n : Naming} {group type rest : List Char} (cut : n.IsCut group type rest)
    (l : Layer) : n.layerNames l = [stem n.group, l.directory, l.typeName (stem n.typeName),
      (if n.group.toList.getLast? = some '.' then "." else "") ++ ".java"] := by
  have member : '/' ∈ n.typeName.toList := by simp [cut.typeText]
  simp [layerNames, fileNames, directory, member, lastCut cut.typeText, lastCut cut.groupText]

theorem layerDirectoryInjective {l l' : Layer} (same : l.directory = l'.directory) : l = l' := by
  cases l <;> cases l' <;> first | rfl | simp [Layer.directory] at same

theorem layerNamesLayer {a b : Naming} {l l' : Layer} (same : a.layerNames l = b.layerNames l') :
    l = l' := by
  simp only [layerNames, List.cons.injEq] at same
  exact layerDirectoryInjective same.2.1

theorem layerNamesClash {a b : Naming} (shapeA : a.IsShaped) (shapeB : b.IsShaped)
    (other : a.group ≠ b.group) (l : Layer) : a.layerNames l = b.layerNames l ↔ Clash a b := by
  rcases shapeA with flatA | cutA
  · have noCut : ¬ Clash a b := fun clash => flatA.group.2.2.2 clash.cuts.1
    simp only [noCut, iff_false]
    rcases shapeB with flatB | cutB
    · simp [layerNamesFlat flatA, layerNamesFlat flatB, other]
    · simp [layerNamesFlat flatA, layerNamesCut cutB]
  · rcases shapeB with flatB | cutB
    · have noCut : ¬ Clash a b := fun clash => flatB.group.2.2.2 clash.cuts.2
      simp [layerNamesCut cutA, layerNamesFlat flatB, noCut]
    · rw [layerNamesCut cutA, layerNamesCut cutB]
      constructor
      · intro same
        simp only [List.cons.injEq, true_and, and_true] at same
        obtain ⟨groups, types, endings⟩ := same
        refine ⟨⟨by simp [cutA.groupText], by simp [cutB.groupText]⟩, groups,
          String.append_right_inj _ |>.1 types, ?_⟩
        have endings := String.append_left_inj _ |>.1 endings
        split at endings <;> split at endings <;> simp_all
      · intro clash
        simp only [clash.groups, clash.types, clash.dots]

end Naming
end ClassScaffold
