import ClassScaffold.Proofs.Disk.Confine
/-! The route that the text of a path describes. Something new can be made at a path only when its last step
goes to a name; joining a name to any path and taking the parent of a path give such paths. -/
namespace ClassScaffold.Disk
open ClassScaffold.Path (Part Plain partOf partsOf IsProper)
open Text (splitAt)
open Text.Utf8 (encode)

def stepsOf (s : List Char) : List Step := (splitAt '/' s).filterMap stepOf

def EndsInName (s : List Char) : Prop := ∃ before name, stepsOf s = before ++ [.down name]

theorem stepsText (s : String) : (Route.ofText s).steps = stepsOf s.toList := rfl

theorem stepsSlash (a b : List Char) : stepsOf (a ++ '/' :: b) = stepsOf a ++ stepsOf b := by
  simp [stepsOf, Text.splitAtAppend]

theorem endsSlash {b : List Char} (ends : EndsInName b) (a : List Char) : EndsInName (a ++ '/' :: b) := by
  obtain ⟨before, name, steps⟩ := ends
  exact ⟨stepsOf a ++ before, name, by rw [stepsSlash, steps, List.append_assoc]⟩

theorem stepOfLetter {s : List Char} {c : Char} (member : c ∈ s) (letter : c ≠ '.') :
    stepOf s = some (.down (encode (String.ofList s))) := by
  unfold stepOf
  split
  · next none => simp [none] at member
  · split
    · next dot => simp [dot, letter] at member
    · split
      · next dots => simp [dots, letter] at member
      · rfl

theorem endsLetter {w : List Char} (absent : '/' ∉ w) {c : Char} (member : c ∈ w) (letter : c ≠ '.')
    (s : List Char) : EndsInName (s ++ w) := by
  obtain ⟨pieces, last, _, split⟩ := Text.splitAtEnd absent s
  have step := stepOfLetter (s := last ++ w) (List.mem_append_right _ member) letter
  refine ⟨pieces.filterMap stepOf, encode (String.ofList (last ++ w)), ?_⟩
  rw [stepsOf, split, List.filterMap_append, List.filterMap_cons_some step, List.filterMap_nil]

theorem endsPlain {name : List Char} (plain : Plain name) : EndsInName name := by
  obtain ⟨some, dot, dots, absent⟩ := plain
  exact ⟨[], encode (String.ofList name), by simp [stepsOf, Text.splitAtWhole absent, stepOf, some, dot, dots]⟩

/-- Without dots in it, a text that stands for one name goes to that name at last. -/
theorem endsSegment {s : List Char} {name : String} (dotless : '.' ∉ s)
    (parts : (⟨String.ofList s⟩ : Path).parts = [.normal name]) : EndsInName s := by
  have moves : ∀ step ∈ stepsOf s, step.isMove = true := by
    intro step member
    obtain ⟨piece, inside, made⟩ := List.mem_filterMap.1 member
    have apart : '.' ∉ piece := fun dot => dotless (Text.splitAtWithin inside dot)
    have noDot : piece ≠ ['.'] := by
      rintro rfl
      simp at apart
    simp only [stepOf, noDot, if_false] at made
    split at made
    · contradiction
    · split at made <;> cases made <;> rfl
  obtain ⟨_, shape⟩ := Path.partsStart parts
  have ways := wayPieces false (splitAt '/' s)
  rw [shape] at ways
  change _ = (stepsOf s).filter Step.isMove at ways
  rw [List.filter_eq_self.2 moves] at ways
  exact ⟨[], encode name, ways.symm⟩

/- Paths at which something can be made -/

structure IsMakeable (p : Path) : Prop where
  named : EndsInName p.text.toList
  clean : '\x00' ∉ p.text.toList

structure IsWritable (p : Path) : Prop extends IsMakeable p where
  opened : p.text.toList.getLast? ≠ some '/'

theorem joinText (p : Path) {other : String} (relative : other.toList.head? ≠ some '/') :
    (p.join other).text.toList = p.text.toList ++ other.toList ∧ (∀ c ∈ p.text.toList.getLast?, c = '/') ∨
      (p.join other).text.toList = p.text.toList ++ '/' :: other.toList := by
  unfold Path.join
  rw [if_neg relative]
  split
  · next closed => exact .inl ⟨by simp, by simpa [Option.all_eq_true] using closed⟩
  · exact .inr (by simp)

theorem joinEnds (p : Path) {other : String} (relative : other.toList.head? ≠ some '/')
    (ends : EndsInName other.toList) : EndsInName (p.join other).text.toList := by
  rcases joinText p relative with ⟨text, closed⟩ | text
  · rw [text]
    rcases List.eq_nil_or_concat p.text.toList with none | ⟨t, c, split⟩
    · rwa [none]
    · obtain rfl : c = '/' := closed c (by simp [split])
      rw [split, List.concat_eq_append, List.append_assoc]
      exact endsSlash ends t
  · rw [text]
    exact endsSlash ends _

theorem joinClean {p : Path} {other : String} (clean : '\x00' ∉ p.text.toList)
    (relative : other.toList.head? ≠ some '/') (cleanOther : '\x00' ∉ other.toList) :
    '\x00' ∉ (p.join other).text.toList := by
  rcases joinText p relative with ⟨text, _⟩ | text
  · simp [text, clean, cleanOther]
  · simp [text, clean, cleanOther]

theorem joinMakeable {p : Path} {other : String} (clean : '\x00' ∉ p.text.toList)
    (relative : other.toList.head? ≠ some '/') (makeable : IsMakeable ⟨other⟩) : IsMakeable (p.join other) :=
  ⟨joinEnds p relative makeable.named, joinClean clean relative makeable.clean⟩

theorem joinWritable {p : Path} {other : String} (clean : '\x00' ∉ p.text.toList)
    (relative : other.toList.head? ≠ some '/') (writable : IsWritable ⟨other⟩) : IsWritable (p.join other) := by
  refine ⟨joinMakeable clean relative writable.toIsMakeable, ?_⟩
  have opened : other.toList.getLast? ≠ some '/' := writable.opened
  have nonempty : other.toList ≠ [] := by
    intro none
    obtain ⟨before, name, steps⟩ := writable.named
    change stepsOf other.toList = _ at steps
    simp [none, stepsOf, splitAt, stepOf] at steps
  rcases joinText p relative with ⟨text, _⟩ | text
  · rwa [text, List.getLast?_append_of_ne_nil _ nonempty]
  · rwa [text, List.getLast?_append_of_ne_nil _ (by simp), List.getLast?_cons_of_ne_nil nonempty]

theorem wordWritable {s : String} {start word : List Char} (text : s.toList = start ++ word) (absent : '/' ∉ word)
    (letter : word.any (· != '.') = true) (clean : '\x00' ∉ s.toList) : IsWritable ⟨s⟩ := by
  obtain ⟨c, member, letter⟩ := List.any_eq_true.1 letter
  refine ⟨⟨?_, clean⟩, ?_⟩
  · rw [text]
    exact endsLetter absent member (bne_iff_ne.1 letter) start
  · rw [text, List.getLast?_append_of_ne_nil _ (List.ne_nil_of_mem member)]
    exact fun last => absent (List.mem_of_getLast? last)

theorem nameWritable {s : String} (absent : '/' ∉ s.toList) (letter : s.toList.any (· != '.') = true)
    (clean : '\x00' ∉ s.toList) : IsWritable ⟨s⟩ :=
  wordWritable (List.nil_append _).symm absent letter clean

theorem sourceWritable {s : String} {start : List Char} (text : s.toList = start ++ ".java".toList)
    (clean : '\x00' ∉ s.toList) : IsWritable ⟨s⟩ :=
  wordWritable text (by decide) (by decide) clean

theorem intercalateConcat (c : Char) (init : List (List Char)) (last : List Char) :
    [c].intercalate (init ++ [last]) = last ∨
      ∃ before, [c].intercalate (init ++ [last]) = before ++ c :: last := by
  by_cases none : init = []
  · exact .inl (by simp [none])
  · exact .inr ⟨_, by rw [Text.intercalateAppend c none (by simp), List.intercalate_singleton]⟩

theorem partsText {ps : List Part} {name : String} : (Path.ofParts (ps ++ [.normal name])).text.toList =
    ['/'].intercalate (ps.map (fun part => part.text.toList) ++ [name.toList]) := by
  have other : ps ++ [.normal name] ≠ [.root] := by
    intro same
    have last := congrArg List.getLast? same
    simp at last
  simp [Path.ofParts, other, String.toList_intercalate, Function.comp_def, Part.text]

theorem ofPartsClean {ps : List Part} {c : Char} (clean : ∀ part ∈ ps, c ∉ part.text.toList) (other : c ≠ '/') :
    c ∉ (Path.ofParts ps).text.toList := by
  unfold Path.ofParts
  split
  · simpa using other
  · rw [String.toList_intercalate]
    refine Text.intercalateAbsent other fun piece member => ?_
    rw [List.map_map] at member
    obtain ⟨part, inside, rfl⟩ := List.mem_map.1 member
    exact clean part inside

theorem partOfClean {first : Bool} {piece : List Char} {c : Char} (absent : c ∉ piece) (dot : c ≠ '.') :
    ∀ part ∈ partOf first piece, c ∉ part.text.toList := by
  intro part member
  unfold partOf at member
  split at member
  · contradiction
  · split at member
    · split at member
      · cases member
        simpa [Part.text] using dot
      · contradiction
    · split at member
      · cases member
        simpa [Part.text] using dot
      · cases member
        simpa [Part.text] using absent

theorem partsOfClean {pieces : List (List Char)} {c : Char} (absent : ∀ piece ∈ pieces, c ∉ piece) (dot : c ≠ '.')
    (first : Bool) : ∀ part ∈ partsOf first pieces, c ∉ part.text.toList := by
  induction pieces generalizing first with
  | nil => simp [partsOf]
  | cons piece rest ih =>
    intro part member
    rcases List.mem_append.1 member with head | tail
    · exact partOfClean (absent piece List.mem_cons_self) dot part (Option.mem_toList.1 head)
    · exact ih (fun q inside => absent q (List.mem_cons_of_mem _ inside)) false part tail

theorem partsClean {p : Path} {c : Char} (absent : c ∉ p.text.toList) (dot : c ≠ '.') :
    ∀ part ∈ p.parts, c ∉ part.text.toList := by
  have each : ∀ piece ∈ splitAt '/' p.text.toList, c ∉ piece := fun piece member inside =>
    absent (Text.splitAtWithin member inside)
  unfold Path.parts
  split
  · intro part member
    rcases List.mem_cons.1 member with rfl | inner
    · simp [Part.text]
    · exact partsOfClean each dot false part inner
  · exact partsOfClean each dot true

theorem parentMakeable {ps : List Part} {name : String} (plain : Plain name.toList)
    (clean : ∀ part ∈ ps ++ [.normal name], '\x00' ∉ part.text.toList) :
    IsMakeable (Path.ofParts (ps ++ [.normal name])) := by
  refine ⟨?_, ofPartsClean clean (by decide)⟩
  rw [partsText]
  rcases intercalateConcat '/' (ps.map fun part => part.text.toList) name.toList with same | ⟨before, same⟩
  · rw [same]
    exact endsPlain plain
  · rw [same]
    exact endsSlash (endsPlain plain) before

theorem parentReady {root p : Path} {outer : List String} {name : String} (within : root.Within (outer ++ [name]) p)
    (clean : '\x00' ∉ p.text.toList) : ∃ q, p.parent? = some q ∧ root.Within outer q ∧ '\x00' ∉ q.text.toList ∧
      (outer ≠ [] → IsMakeable q) := by
  have parts : p.parts = (root.parts ++ outer.map .normal) ++ [.normal name] := by
    rw [within]
    simp
  obtain ⟨above, same⟩ := Path.parentParts parts
  have cleanParts : ∀ part ∈ root.parts ++ outer.map .normal, '\x00' ∉ part.text.toList := fun part member =>
    partsClean clean (by decide) part (parts ▸ List.mem_append_left _ member)
  refine ⟨_, above, same, ofPartsClean cleanParts (by decide), fun some => ?_⟩
  obtain ⟨before, last, rfl⟩ := outer.eq_nil_or_concat'.resolve_left some
  have plain : Plain last.toList := Path.withinPlain within last (by simp)
  rw [List.map_append, ← List.append_assoc] at cleanParts ⊢
  exact parentMakeable plain cleanParts

end ClassScaffold.Disk
