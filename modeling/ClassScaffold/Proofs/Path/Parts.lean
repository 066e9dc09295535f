import ClassScaffold.Path
import ClassScaffold.Proofs.Text.Split
/-! The parts of a path: which parts there are, paths put together from parts, and what joining does to
them. A name that is joined adds its own parts and changes none of those that are there. -/
namespace ClassScaffold.Path
open Text (splitAt splitAtNonempty splitAtAppend splitAtAbsent splitAtIntercalate splitAtWhole)

/- Which parts there are -/

def Plain (name : List Char) : Prop :=
  name ≠ [] ∧ name ≠ ['.'] ∧ name ≠ ['.', '.'] ∧ '/' ∉ name

def Part.IsInner : Part → Prop
  | .parent => True
  | .normal name => Plain name.toList
  | _ => False

def IsProper : List Part → Prop
  | [] => True
  | first :: rest => (first = .root ∨ first = .current ∨ first.IsInner) ∧ ∀ part ∈ rest, part.IsInner

theorem partOfPlain {name : List Char} (plain : Plain name) (first : Bool) :
    partOf first name = some (.normal (String.ofList name)) := by
  obtain ⟨some, dot, dots, _⟩ := plain
  simp [partOf, some, dot, dots]

theorem partOfInner {name : List Char} {part : Part} (absent : '/' ∉ name)
    (found : partOf false name = some part) : part.IsInner := by
  unfold partOf at found
  split at found
  · contradiction
  · next some =>
    split at found
    · simp at found
    · next dot =>
      split at found
      · cases found
        exact trivial
      · next dots =>
        cases found
        exact ⟨by simpa using some, by simpa using dot, by simpa using dots, by simpa using absent⟩

theorem partsOfInner {names : List (List Char)} (absent : ∀ name ∈ names, '/' ∉ name) :
    ∀ part ∈ partsOf false names, part.IsInner := by
  induction names with
  | nil => simp [partsOf]
  | cons name rest ih =>
    intro part member
    simp only [partsOf, List.mem_append, Option.mem_toList] at member
    rcases member with head | tail
    · exact partOfInner (absent name List.mem_cons_self) head
    · exact ih (fun n h => absent n (List.mem_cons_of_mem _ h)) part tail

theorem partsProper (p : Path) : IsProper p.parts := by
  have absent : ∀ name ∈ splitAt '/' p.text.toList, '/' ∉ name := fun _ => splitAtAbsent
  unfold parts
  split
  · exact ⟨.inl rfl, partsOfInner absent⟩
  · cases names : splitAt '/' p.text.toList with
    | nil => exact trivial
    | cons name rest =>
      rw [names] at absent
      have inner := partsOfInner fun n h => absent n (List.mem_cons_of_mem _ h)
      by_cases dot : name = ['.']
      · simpa [partsOf, partOf, dot, IsProper] using inner
      · cases found : partOf true name with
        | none =>
          -- an empty name leaves the path to the names after it
          have rest' : partsOf true (name :: rest) = partsOf false rest := by simp [partsOf, found]
          rw [rest']
          cases others : partsOf false rest with
          | nil => exact trivial
          | cons part parts =>
            rw [others] at inner
            exact ⟨.inr (.inr (inner part List.mem_cons_self)),
              fun q h => inner q (List.mem_cons_of_mem _ h)⟩
        | some part =>
          have same : partOf false name = some part := by simpa [partOf, dot] using found
          have first := partOfInner (absent name List.mem_cons_self) same
          simpa [partsOf, found, IsProper] using ⟨.inr (.inr first), inner⟩

theorem properInit {a b : List Part} (proper : IsProper (a ++ b)) : IsProper a := by
  cases a with
  | nil => exact trivial
  | cons first rest => exact ⟨proper.1, fun part h => proper.2 part (List.mem_append_left _ h)⟩

theorem properTake {ps : List Part} (proper : IsProper ps) (n : Nat) : IsProper (ps.take n) :=
  properInit (b := ps.drop n) (by rwa [List.take_append_drop])

theorem properLater {a b : List Part} (some : a ≠ []) (proper : IsProper (a ++ b)) :
    ∀ part ∈ b, part.IsInner := by
  cases a with
  | nil => contradiction
  | cons first rest => exact fun part h => proper.2 part (List.mem_append_right _ h)

theorem innerNames {ps : List Part} (inner : ∀ part ∈ ps, part.IsInner) (descends : .parent ∉ ps) :
    ∃ names : List String, ps = names.map .normal := by
  induction ps with
  | nil => exact ⟨[], rfl⟩
  | cons part rest ih =>
    obtain ⟨names, rfl⟩ := ih (fun q h => inner q (List.mem_cons_of_mem _ h)) fun h =>
      descends (List.mem_cons_of_mem _ h)
    cases part with
    | root => exact (inner _ List.mem_cons_self).elim
    | current => exact (inner _ List.mem_cons_self).elim
    | parent => exact absurd List.mem_cons_self descends
    | normal name => exact ⟨name :: names, rfl⟩

/- Paths put together from parts -/

theorem innerText {part : Part} (inner : part.IsInner) (first : Bool) :
    partOf first part.text.toList = some part ∧ '/' ∉ part.text.toList ∧ part.text.toList ≠ [] := by
  cases part with
  | root => exact inner.elim
  | current => exact inner.elim
  | parent => simp [Part.text, partOf]
  | normal name =>
    refine ⟨?_, inner.2.2.2, inner.1⟩
    simpa [Part.text] using partOfPlain inner first

theorem partsOfTexts {ps : List Part} (inner : ∀ part ∈ ps, part.IsInner) :
    partsOf false (ps.map fun part => part.text.toList) = ps := by
  induction ps with
  | nil => rfl
  | cons part rest ih =>
    have head := (innerText (inner part List.mem_cons_self) false).1
    have tail := ih fun q h => inner q (List.mem_cons_of_mem _ h)
    simp [partsOf, head, tail]

theorem headIntercalate {c : Char} {text : List Char} (some : text ≠ []) (rest : List (List Char)) :
    ([c].intercalate (text :: rest)).head? = text.head? := by
  cases text with
  | nil => contradiction
  | cons x xs => cases rest <;> simp

theorem partsOfParts {ps : List Part} (proper : IsProper ps) : (ofParts ps).parts = ps := by
  cases ps with
  | nil => rfl
  | cons first rest =>
    obtain ⟨start, inner⟩ := proper
    by_cases alone : first :: rest = [.root]
    · rw [alone]
      rfl
    · let texts := rest.map fun part => part.text.toList
      have text : (ofParts (first :: rest)).text.toList =
          ['/'].intercalate (first.text.toList :: texts) := by
        simp [ofParts, alone, String.toList_intercalate, texts, Function.comp_def]
      have absent : ∀ name ∈ texts, '/' ∉ name := by
        intro name member
        obtain ⟨part, inside, rfl⟩ := List.mem_map.1 member
        exact (innerText (inner part inside) false).2.1
      have later := partsOfTexts inner
      rcases start with rfl | rfl | plain
      · have some : rest ≠ [] := fun none => alone (by rw [none])
        obtain ⟨part, others, rfl⟩ := List.exists_cons_of_ne_nil some
        have split : splitAt '/' (['/'].intercalate ([] :: texts)) = [] :: texts :=
          splitAtIntercalate (by simp) (by simpa using absent)
        have head : (['/'].intercalate ([] :: texts)).head? = Option.some '/' := by simp [texts]
        have none : Part.root.text.toList = [] := rfl
        simp only [parts, isAbsolute, text, none, split, head]
        exact congrArg (Part.root :: ·) later
      · have split : splitAt '/' (['/'].intercalate (['.'] :: texts)) = ['.'] :: texts :=
          splitAtIntercalate (by simp) (by simpa using absent)
        have head : (['/'].intercalate (['.'] :: texts)).head? = Option.some '.' :=
          headIntercalate (by simp) texts
        have dot : Part.current.text.toList = ['.'] := rfl
        simp only [parts, isAbsolute, text, dot, split, head]
        simpa [partsOf, partOf] using later
      · obtain ⟨found, apart, some⟩ := innerText plain true
        have split : splitAt '/' (['/'].intercalate (first.text.toList :: texts)) =
            first.text.toList :: texts := splitAtIntercalate (by simp) (by simpa using ⟨apart, absent⟩)
        have relative : (first.text.toList.head? == Option.some '/') = false := by
          cases h : first.text.toList with
          | nil => exact absurd h some
          | cons c cs =>
            rw [h] at apart
            simpa using fun same : c = '/' => apart (by simp [same])
        simp only [parts, isAbsolute, text, split, headIntercalate some, relative]
        simpa [partsOf, found] using later

theorem textParts {p : Path} (some : p.text ≠ "") : p.parts ≠ [] := by
  unfold parts
  split
  · simp
  · next relative =>
    cases text : p.text.toList with
    | nil => exact absurd (String.toList_eq_nil_iff.1 text) some
    | cons c rest =>
      have other : c ≠ '/' := by simpa [isAbsolute, text] using relative
      obtain ⟨piece, pieces, _, split⟩ := Text.splitAtOther other rest
      rw [split]
      simp only [partsOf, partOf]
      split
      · contradiction
      · split
        · simp
        · split <;> simp

theorem ofPartsNames {names : List String} : ofParts (names.map .normal) = ⟨"/".intercalate names⟩ := by
  have other : names.map Part.normal ≠ [.root] := by
    intro same
    have member : Part.root ∈ names.map Part.normal := by simp [same]
    simp at member
  simp [ofParts, other, Function.comp_def, Part.text]

theorem namesParts {names : List String} (plain : ∀ name ∈ names, Plain name.toList) :
    (⟨"/".intercalate names⟩ : Path).parts = names.map .normal := by
  rw [← ofPartsNames]
  refine partsOfParts ?_
  cases names with
  | nil => trivial
  | cons name rest =>
    refine ⟨.inr (.inr (plain name List.mem_cons_self)), fun part member => ?_⟩
    obtain ⟨other, inside, rfl⟩ := List.mem_map.1 member
    exact plain other (List.mem_cons_of_mem _ inside)

theorem parentInit {p : Path} {a : List Part} {last : Part} (ends : p.parts = a ++ [last])
    (other : a ++ [last] ≠ [.root]) : p.parent? = some (ofParts a) := by
  unfold parent?
  split
  · next none => simp [ends] at none
  · next alone => exact absurd (ends.symm.trans alone) other
  · rw [ends, List.dropLast_concat]

theorem parentParts {p : Path} {a : List Part} {name : String} (ends : p.parts = a ++ [.normal name]) :
    p.parent? = some (ofParts a) ∧ (ofParts a).parts = a := by
  have proper := partsProper p
  rw [ends] at proper
  refine ⟨parentInit ends fun alone => ?_, partsOfParts (properInit proper)⟩
  have last := congrArg List.getLast? alone
  simp at last

theorem parentDropLast {p q : Path} (found : p.parent? = some q) : q.parts = p.parts.dropLast := by
  unfold parent? at found
  split at found
  · contradiction
  · contradiction
  · cases found
    have proper := partsProper p
    rw [← List.dropLast_concat_getLast (l := p.parts) (by assumption)] at proper
    exact partsOfParts (properInit proper)

theorem partOfSublist (first : Bool) (name : List Char) :
    ((partOf first name).toList.map fun part => part.text.toList).Sublist [name] := by
  unfold partOf
  split
  · simp
  · split
    · next dot =>
      cases first
      · simp
      · simp [Part.text, dot]
    · split
      · next dots => simp [Part.text, dots]
      · simp [Part.text]

theorem partsOfSublist (first : Bool) (names : List (List Char)) :
    ((partsOf first names).map fun part => part.text.toList).Sublist names := by
  induction names generalizing first with
  | nil => exact .slnil
  | cons name rest ih =>
    rw [partsOf, List.map_append]
    exact (partOfSublist first name).append (ih false)

theorem partsSublist (p : Path) : (p.parts.map fun part => part.text.toList).Sublist (splitAt '/' p.text.toList) := by
  unfold parts
  split
  · next absolute =>
    obtain ⟨rest, text⟩ := List.head?_eq_some_iff.1 (beq_iff_eq.1 absolute)
    have cut : splitAt '/' p.text.toList = [] :: splitAt '/' rest := by
      rw [text]
      rfl
    have inner : partsOf false ([] :: splitAt '/' rest) = partsOf false (splitAt '/' rest) := rfl
    rw [cut, inner]
    exact .cons_cons [] (partsOfSublist false _)
  · exact partsOfSublist true _

/-- The path around another one is spelled with fewer characters. -/
theorem parentSublist {p q : Path} (found : p.parent? = some q) : q.text.toList.Sublist p.text.toList := by
  have whole := partsSublist p
  unfold parent? at found
  split at found
  · contradiction
  · contradiction
  · next other =>
    cases found
    have inside := Text.intercalateSublist '/' whole
    rw [Text.intercalateSplitAt] at inside
    refine .trans ?_ inside
    unfold ofParts
    split
    · next root =>
      obtain ⟨init, last, parts⟩ := (List.eq_nil_or_concat p.parts).resolve_left (by assumption)
      rw [List.concat_eq_append] at parts
      rw [parts, List.dropLast_concat] at root
      rw [parts, List.map_append, Text.intercalateAppend '/' (by simp [root]) (by simp)]
      exact List.singleton_sublist.2 (List.mem_append_right _ List.mem_cons_self)
    · rw [String.toList_intercalate, List.map_map]
      exact Text.intercalateSublist '/' ((List.dropLast_sublist p.parts).map _)

/- Joining -/

theorem partsOfAppend {a : List (List Char)} (some : a ≠ []) (first : Bool) (b : List (List Char)) :
    partsOf first (a ++ b) = partsOf first a ++ partsOf false b := by
  cases a with
  | nil => contradiction
  | cons name rest =>
    have later : ∀ names, partsOf false (names ++ b) = partsOf false names ++ partsOf false b := by
      intro names
      induction names with
      | nil => rfl
      | cons n ns ih => simp [partsOf, ih]
    simp [partsOf, later]

theorem partsRelative {s : List Char} (relative : s.head? ≠ some '/') :
    (⟨String.ofList s⟩ : Path).parts = partsOf true (splitAt '/' s) := by
  have other : (s.head? == some '/') = false := by simpa using relative
  simp only [parts, isAbsolute, String.toList_ofList, other, Bool.false_eq_true, if_false]

theorem slashParts (t x : List Char) : (⟨String.ofList (t ++ '/' :: x)⟩ : Path).parts =
    (⟨String.ofList (t ++ ['/'])⟩ : Path).parts ++ partsOf false (splitAt '/' x) := by
  have head : (t ++ '/' :: x).head? = (t ++ ['/']).head? := by cases t <;> rfl
  have none : partsOf false (splitAt '/' []) = [] := rfl
  simp only [parts, isAbsolute, String.toList_ofList, head, splitAtAppend,
    partsOfAppend (splitAtNonempty '/' t), none, List.append_nil]
  split <;> rfl

theorem slashEnd {t : List Char} (some : t ≠ []) :
    (⟨String.ofList (t ++ ['/'])⟩ : Path).parts = (⟨String.ofList t⟩ : Path).parts := by
  have head : (t ++ ['/']).head? = t.head? := by
    cases t with
    | nil => contradiction
    | cons c cs => rfl
  have none : partsOf false (splitAt '/' []) = [] := rfl
  simp only [parts, isAbsolute, String.toList_ofList, head, splitAtAppend,
    partsOfAppend (splitAtNonempty '/' t), none, List.append_nil]

theorem partsStart {s : List Char} {name : String} {rest : List Part}
    (start : (⟨String.ofList s⟩ : Path).parts = .normal name :: rest) :
    s.head? ≠ some '/' ∧ partsOf false (splitAt '/' s) = .normal name :: rest := by
  unfold parts at start
  split at start
  · simp at start
  · next relative =>
    refine ⟨by simpa [isAbsolute] using relative, ?_⟩
    rw [String.toList_ofList] at start
    cases pieces : splitAt '/' s with
    | nil => exact absurd pieces (splitAtNonempty '/' s)
    | cons piece pieces' =>
      rw [pieces] at start
      by_cases dot : piece = ['.']
      · simp [partsOf, partOf, dot] at start
      · have same : partOf true piece = partOf false piece := by simp [partOf, dot]
        rwa [partsOf, same, ← partsOf] at start

theorem ofText {p : Path} {s : List Char} (same : p.text.toList = s) : p = ⟨String.ofList s⟩ := by
  simp [← same]

theorem joinParts {p : Path} {other : String} {name : String} {rest : List Part}
    (start : (⟨other⟩ : Path).parts = .normal name :: rest) :
    (p.join other).parts = p.parts ++ .normal name :: rest := by
  obtain ⟨relative, same⟩ := partsStart (s := other.toList) (by simpa using start)
  have text (a b : String) : a ++ b = String.ofList (a.toList ++ b.toList) := by simp
  unfold join
  rw [if_neg relative]
  split
  · next closed =>
    rcases List.eq_nil_or_concat p.text.toList with none | ⟨t, c, ends⟩
    · rw [ofText none, String.ofList_nil, String.empty_append]
      exact start
    · have last : c = '/' := by simpa [ends] using closed
      have source : p = ⟨String.ofList (t ++ ['/'])⟩ := ofText (by simp [ends, last])
      rw [text, ends, last, List.concat_eq_append, List.append_assoc, List.singleton_append, slashParts, same,
        ← source]
  · next opened =>
    have some : p.text.toList ≠ [] := by
      intro none
      simp [none] at opened
    have source : p = ⟨String.ofList p.text.toList⟩ := ofText rfl
    rw [text, text, String.toList_ofList, List.append_assoc]
    change (⟨String.ofList (p.text.toList ++ '/' :: other.toList)⟩ : Path).parts = _
    rw [slashParts, slashEnd some, same, ← source]

theorem joinSegmentParts {p q : Path} {segment context : String}
    (ok : p.joinSegment segment context = .ok q) :
    q = p.join (Text.trimmed segment) ∧
      ∃ name, (⟨Text.trimmed segment⟩ : Path).parts = [.normal name] ∧
        q.parts = p.parts ++ [.normal name] := by
  simp only [joinSegment] at ok
  split at ok
  · contradiction
  · next checked =>
    cases ok
    simp only [Bool.or_eq_true, Bool.not_eq_true', not_or, Bool.not_eq_false] at checked
    have single := checked.2
    unfold isSingle at single
    split at single
    · next name shape => exact ⟨rfl, name, shape, joinParts shape⟩
    · contradiction

end ClassScaffold.Path
