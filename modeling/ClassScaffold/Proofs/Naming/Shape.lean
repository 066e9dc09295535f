import ClassScaffold.Layer
import ClassScaffold.Proofs.Naming.Assign
import ClassScaffold.Proofs.Path.Parts
import ClassScaffold.Proofs.Text.Blank
import ClassScaffold.Proofs.Text.Casing
/-! The names that an accepted class has on a disk. Only its group is checked, but a change of case keeps
separators and dots where they are, so the type name has the separators of the group: none, or some with
nothing behind them but dots. Such names lose what is behind the first separator, up to a last dot. -/
namespace ClassScaffold
open Text (splitAt IsTrimmed capitalize capitalized lowerAfter lowerAll lowered trim trimmed)
open ClassScaffold.Path (Plain partOf partsOf)

/- Texts that denote one name -/

def Slack (s : List Char) : Prop := ∀ piece ∈ splitAt '/' s, piece = [] ∨ piece = ['.']

namespace Path

theorem noParts {pieces : List (List Char)} :
    partsOf false pieces = [] ↔ ∀ piece ∈ pieces, piece = [] ∨ piece = ['.'] := by
  induction pieces with
  | nil => simp [partsOf]
  | cons piece rest ih =>
    rw [partsOf, List.append_eq_nil_iff, ih, List.forall_mem_cons]
    refine and_congr_left fun _ => ?_
    unfold partOf
    by_cases none : piece = []
    · simp [none]
    · by_cases dot : piece = ['.']
      · simp [dot]
      · by_cases dots : piece = ['.', '.'] <;> simp [none, dot, dots]

theorem singleShape {s : List Char} {name : String}
    (single : (⟨String.ofList s⟩ : Path).parts = [.normal name]) :
    ∃ first rest, splitAt '/' s = first :: rest ∧ Plain first ∧ name = String.ofList first ∧
      ∀ piece ∈ rest, piece = [] ∨ piece = ['.'] := by
  cases s with
  | nil => contradiction
  | cons c cs =>
    obtain ⟨relative, _⟩ := partsStart single
    have other : c ≠ '/' := by simpa using relative
    obtain ⟨part, rest, _, pieces⟩ := Text.splitAtOther other cs
    have absent : '/' ∉ c :: part := Text.splitAtAbsent (s := c :: cs) (by simp [pieces])
    rw [partsRelative relative, pieces] at single
    refine ⟨c :: part, rest, pieces, ?_⟩
    by_cases dot : c :: part = ['.']
    · simp [partsOf, partOf, dot] at single
    · by_cases dots : c :: part = ['.', '.']
      · simp [partsOf, partOf, dots] at single
      · rw [partsOf, partOf, if_neg (by simp), if_neg dot, if_neg dots] at single
        obtain ⟨same, none⟩ := List.cons.inj single
        exact ⟨⟨by simp, dot, dots, absent⟩, (Part.normal.inj same).symm, noParts.1 none⟩

end Path

theorem slackDotted {s : List Char} (slack : Slack s) : ∀ c ∈ s, c = '/' ∨ c = '.' := by
  intro c within
  rcases Text.splitAtCovers (c := '/') within with same | ⟨piece, member, inside⟩
  · exact .inl same
  · rcases slack piece member with rfl | rfl
    · contradiction
    · exact .inr (List.mem_singleton.1 inside)

theorem slackLast {s : List Char} (slack : Slack s) :
    ∃ before, splitAt '/' s = before ++ [if s.getLast? = some '.' then ['.'] else []] := by
  rcases List.eq_nil_or_concat s with rfl | ⟨init, c, rfl⟩
  · exact ⟨[], rfl⟩
  · rw [List.concat_eq_append] at *
    by_cases same : c = '/'
    · refine ⟨splitAt '/' init, ?_⟩
      rw [same, Text.splitAtAppend]
      simp [splitAt]
    · obtain ⟨before, last, _, pieces⟩ := Text.splitAtEnd (w := [c]) (by simpa using Ne.symm same) init
      have dot : last ++ [c] = ['.'] := (slack (last ++ [c]) (by simp [pieces])).resolve_left (by simp)
      refine ⟨before, ?_⟩
      have ends : c = '.' := by
        have := congrArg List.getLast? dot
        simpa using this
      rw [pieces, dot, ends]
      simp

/- Changes of case -/

theorem lowerFirst {before s : List Char} {c : Char} (head : (lowerAfter before s).head? = some c)
    (plain : Text.within Text.unlettered c = true) : s.head? = some c := by
  cases s with
  | nil => contradiction
  | cons x rest =>
    simp only [lowerAfter] at head
    split at head
    · cases head
      rw [Text.sigmaLettered] at plain
      contradiction
    · obtain ⟨y, ys, image⟩ := List.exists_cons_of_ne_nil (Text.lowerNonempty x)
      rw [image] at head
      cases head
      rw [Text.lowerUnlettered (c := x) (x := c) (by simp [image]) plain]
      rfl

theorem lowerLast {before s : List Char} {c : Char} (last : (lowerAfter before s).getLast? = some c)
    (plain : Text.within Text.unlettered c = true) : s.getLast? = some c := by
  induction s generalizing before with
  | nil => contradiction
  | cons x rest ih =>
    by_cases none : rest = []
    · subst none
      simp only [lowerAfter, List.append_nil] at last
      have member := List.mem_of_getLast? last
      split at member
      · rw [List.mem_singleton.1 member, Text.sigmaLettered] at plain
        contradiction
      · rw [Text.lowerUnlettered member plain]
        rfl
    · have some : lowerAfter (x :: before) rest ≠ [] := Text.lowerAfterNonempty none
      rw [lowerAfter, List.getLast?_append_of_ne_nil _ some] at last
      rw [List.getLast?_cons_of_ne_nil none]
      exact ih last

theorem lowerTrimmed {s : List Char} (trimmed : IsTrimmed s) : IsTrimmed (lowerAll s) := by
  refine ⟨fun c head => ?_, fun c last => ?_⟩
  · cases blank : Text.isBlank c with
    | false => rfl
    | true =>
      rw [trimmed.first c (lowerFirst head (Text.blankUnlettered blank))] at blank
      contradiction
  · cases blank : Text.isBlank c with
    | false => rfl
    | true =>
      rw [trimmed.last c (lowerLast last (Text.blankUnlettered blank))] at blank
      contradiction

theorem capitalizeSlash {s : List Char} (absent : '/' ∉ s) : '/' ∉ capitalize s := by
  cases s with
  | nil => exact absent
  | cons c rest =>
    intro member
    rcases List.mem_append.1 member with head | tail
    · rw [Text.upperUnlettered head (by decide)] at absent
      exact absent List.mem_cons_self
    · exact absent (List.mem_cons_of_mem _ tail)

theorem capitalizeAppend {a : List Char} (some : a ≠ []) (b : List Char) :
    capitalize (a ++ b) = capitalize a ++ b := by
  cases a with
  | nil => contradiction
  | cons c rest => simp [capitalize]

theorem atSlash {s : List Char} (member : '/' ∈ s) : ∃ a b, s = a ++ '/' :: b ∧ '/' ∉ a := by
  cases cut : Text.cutFirst '/' s with
  | none => exact absurd member (Text.cutFirstNone.1 cut)
  | some pieces => exact ⟨pieces.1, pieces.2, Text.cutFirstSource cut⟩

/- Namings -/

namespace Naming

structure IsFlat (n : Naming) : Prop where
  group : Plain n.group.toList
  typeName : '/' ∉ n.typeName.toList

/-- Both names go on with the same separators and dots behind their first separator. -/
structure IsCut (n : Naming) (group type rest : List Char) : Prop where
  groupText : n.group.toList = group ++ '/' :: rest
  typeText : n.typeName.toList = type ++ '/' :: rest
  group : Plain group
  type : '/' ∉ type
  slack : Slack rest

inductive IsShaped (n : Naming) : Prop where
  | flat (flat : n.IsFlat)
  | cut {group type rest} (cut : n.IsCut group type rest)

theorem lowerCut {s w : List Char} {name : String} (member : '/' ∈ s)
    (single : (⟨String.ofList (lowerAll s ++ w)⟩ : Path).parts = [.normal name]) :
    ∃ a y v before, s = a ++ '/' :: v ∧ a ≠ [] ∧ '/' ∉ a ∧
      lowerAll s = y ++ '/' :: lowerAfter before v ∧ Plain y ∧ Slack (lowerAfter before v ++ w) := by
  obtain ⟨first, rest, pieces, plain, _, slack⟩ := Path.singleShape single
  obtain ⟨a, v, rfl, apart⟩ := atSlash member
  obtain ⟨y, lowered, slash, _⟩ := Text.lowerAfterSlash [] a v
  change lowerAll (a ++ '/' :: v) = _ at lowered
  rw [lowered, List.append_assoc, List.cons_append, Text.splitAtAppend,
    Text.splitAtWhole fun h => apart (slash h), List.singleton_append] at pieces
  obtain ⟨rfl, rfl⟩ := List.cons.inj pieces
  refine ⟨a, y, v, _, rfl, fun none => ?_, apart, lowered, plain, slack⟩
  -- a name that starts with a separator starts with it in lower case as well
  subst none
  have kept : Text.lower '/' = ['/'] := by decide
  obtain ⟨c, cs, rfl⟩ := List.exists_cons_of_ne_nil plain.1
  simp only [lowerAll, lowerAfter, List.nil_append, kept] at lowered
  have head : c = '/' := by simpa using (List.cons.inj lowered).1.symm
  exact plain.2.2.2 (by simp [head])

theorem ofNameShape {name : String} {single : String}
    (parts : (⟨lowered name⟩ : Path).parts = [.normal single]) :
    (ofName name).IsShaped := by
  have source : (⟨String.ofList (lowerAll name.toList ++ [])⟩ : Path).parts = [.normal single] := by
    simpa [lowered] using parts
  by_cases member : '/' ∈ name.toList
  · obtain ⟨a, y, v, before, whole, some, apart, lower, plain, slack⟩ := lowerCut member source
    rw [List.append_nil] at slack
    have same : lowerAfter before v = v := Text.lowerAfterDotted (slackDotted slack)
    rw [same] at slack lower
    have groupText : (ofName name).group.toList = y ++ '/' :: v := by simp [ofName, lower]
    have typeText : (ofName name).typeName.toList = capitalize a ++ '/' :: v := by
      simp [ofName, whole, capitalizeAppend some]
    exact .cut ⟨groupText, typeText, plain, capitalizeSlash apart, slack⟩
  · have absent : '/' ∉ lowerAll name.toList := fun h =>
      member (Text.lowerAfterUnlettered h (by decide))
    obtain ⟨first, rest, pieces, plain, _⟩ := Path.singleShape source
    rw [List.append_nil, Text.splitAtWhole absent] at pieces
    obtain ⟨rfl, _⟩ := List.cons.inj pieces
    exact .flat ⟨by simpa [ofName] using plain, by simpa [ofName] using capitalizeSlash member⟩

theorem decimalDigits (n : Nat) : (decimal n).toList ≠ [] ∧ ∀ c ∈ (decimal n).toList, c.isDigit = true := by
  simp only [decimal, String.toList_ofList]
  exact ⟨Nat.toDigits_ne_nil, fun c => Nat.isDigit_of_mem_toDigits (by decide) (by decide)⟩

theorem numberedShape {name single : String} {n : Nat}
    (parts : (⟨((ofName name).numbered n).group⟩ : Path).parts = [.normal single]) :
    ((ofName name).numbered n).IsFlat := by
  obtain ⟨someDigit, digits⟩ := decimalDigits n
  have noSlash : '/' ∉ (decimal n).toList := fun h => by simpa using digits _ h
  have source : (⟨String.ofList (lowerAll name.toList ++ (decimal n).toList)⟩ : Path).parts =
      [.normal single] := by
    simpa [numbered, ofName, lowered] using parts
  by_cases member : '/' ∈ name.toList
  · -- digits stand behind the last separator
    exfalso
    obtain ⟨_, _, v, before, _, _, _, _, _, slack⟩ := lowerCut member source
    obtain ⟨c, cs, split⟩ := List.exists_cons_of_ne_nil someDigit
    have digit := digits c (by simp [split])
    rcases slackDotted slack c (by simp [split]) with rfl | rfl <;> simp at digit
  · have absent : '/' ∉ lowerAll name.toList := fun h =>
      member (Text.lowerAfterUnlettered h (by decide))
    obtain ⟨first, rest, pieces, plain, _⟩ := Path.singleShape source
    rw [Text.splitAtWhole (by simp [absent, noSlash])] at pieces
    obtain ⟨rfl, _⟩ := List.cons.inj pieces
    refine ⟨by simpa [numbered, ofName] using plain, ?_⟩
    simpa [numbered, ofName, noSlash] using capitalizeSlash member

theorem groupTrimmed {names : List String} (trimmed : ∀ name ∈ names, IsTrimmed name.toList) {n : Naming}
    (member : n ∈ assign names) : Text.trimmed n.group = n.group := by
  have fixed {s : String} (h : IsTrimmed s.toList) : Text.trimmed s = s := by
    simp [Text.trimmed, Text.trimFixed h]
  obtain ⟨name, inside, shape⟩ := assignAfterSource member
  have low := lowerTrimmed (trimmed name inside)
  apply fixed
  rcases shape with rfl | ⟨k, rfl⟩
  · simpa [ofName] using low
  · obtain ⟨someDigit, digits⟩ := decimalDigits k
    have blank {c : Char} (h : c ∈ (decimal k).toList) : Text.isBlank c = false := by
      have digit := digits c h
      cases blank : Text.isBlank c with
      | false => rfl
      | true =>
        simp only [Char.isDigit, Bool.and_eq_true, decide_eq_true_eq, Text.isBlank, Bool.or_eq_true,
          beq_iff_eq] at digit blank
        have low : 48 ≤ c.toNat := digit.1
        have high : c.toNat ≤ 57 := digit.2
        omega
    simp only [numbered, ofName, String.toList_append, Text.toListLowered]
    refine ⟨fun c head => ?_, fun c last => ?_⟩
    · rw [List.head?_append] at head
      cases start : (lowerAll name.toList).head? with
      | none =>
        rw [start] at head
        exact blank (List.mem_of_head? (by simpa using head))
      | some first =>
        rw [start] at head
        cases head
        exact low.first c start
    · rw [List.getLast?_append_of_ne_nil _ someDigit] at last
      exact blank (List.mem_of_getLast? last)

theorem acceptedShape {names : List String} (trimmed : ∀ name ∈ names, IsTrimmed name.toList) {n : Naming}
    (member : n ∈ assign names) {single : String}
    (parts : (⟨Text.trimmed n.group⟩ : Path).parts = [.normal single]) :
    n.IsShaped := by
  rw [groupTrimmed trimmed member] at parts
  obtain ⟨name, inside, shape⟩ := assignAfterSource member
  rcases shape with rfl | ⟨k, rfl⟩
  · exact ofNameShape parts
  · exact .flat (numberedShape parts)

end Naming
end ClassScaffold
