import ClassScaffold.Proofs.Naming.Files
/-! Which texts may be joined to a path as a segment. The documented rule asks for a name and nothing else; the
check goes by the parts of the text, so separators behind the name pass, and dots between them. Such a text is
joined as it is written and denotes the same file as the name alone. -/
namespace ClassScaffold.Path
open Text (splitAt trim trimmed)

/-- The documented rule for the trimmed text. -/
structure IsSegment (text : List Char) : Prop where
  some : text ≠ []
  flat : '/' ∉ text
  clean : '\x00' ∉ text
  inner : text ≠ ['.']
  descends : text ≠ ['.', '.']

/-- The text is the name itself, or goes on with separators and dots that change nothing. -/
inductive Denotes (name : List Char) : List Char → Prop
  | alone (plain : Plain name) : Denotes name name
  | trailed {rest} (plain : Plain name) (slack : Slack rest) : Denotes name (name ++ '/' :: rest)

structure Fits (name text : List Char) : Prop where
  denotes : Denotes name text
  clean : '\x00' ∉ text

theorem denotesParts {name text : List Char} (denotes : Denotes name text) :
    (⟨String.ofList text⟩ : Path).parts = [.normal (String.ofList name)] := by
  cases denotes with
  | alone plain => exact partsPlain plain
  | @trailed rest plain slack =>
    obtain ⟨c, cs, rfl⟩ := List.exists_cons_of_ne_nil plain.1
    have other : c ≠ '/' := fun same => plain.2.2.2 (by simp [same])
    have relative : (c :: cs ++ '/' :: rest).head? ≠ some '/' := by simpa using other
    have nothing : partsOf false (splitAt '/' rest) = [] := noParts.2 slack
    rw [partsRelative relative, Text.splitAtAppend, Text.splitAtWhole plain.2.2.2, List.singleton_append, partsOf,
      partOfPlain plain, nothing]
    rfl

theorem partsDenote {text : List Char} {name : String}
    (single : (⟨String.ofList text⟩ : Path).parts = [.normal name]) : Denotes name.toList text := by
  obtain ⟨first, rest, pieces, plain, rfl, slack⟩ := singleShape single
  rw [String.toList_ofList]
  by_cases member : '/' ∈ text
  · obtain ⟨a, b, rfl, apart⟩ := atSlash member
    rw [Text.splitAtAppend, Text.splitAtWhole apart, List.singleton_append] at pieces
    obtain ⟨rfl, rfl⟩ := List.cons.inj pieces
    exact .trailed plain slack
  · rw [Text.splitAtWhole member] at pieces
    obtain ⟨rfl, _⟩ := List.cons.inj pieces
    exact .alone plain

theorem fitsFlat {name text : List Char} (flat : '/' ∉ text) : Fits name text ↔ name = text ∧ IsSegment text := by
  constructor
  · rintro ⟨denotes, clean⟩
    cases denotes with
    | alone plain => exact ⟨rfl, plain.1, flat, clean, plain.2.1, plain.2.2.1⟩
    | trailed => simp at flat
  · rintro ⟨rfl, segment⟩
    exact ⟨.alone ⟨segment.some, segment.inner, segment.descends, flat⟩, segment.clean⟩

theorem isSingleIff {s : String} : isSingle s = true ↔ ∃ name, (⟨s⟩ : Path).parts = [.normal name] := by
  unfold isSingle
  split
  · next name shape => simp [shape]
  · next other => simpa using other

variable {p q : Path} {segment other context : String}

theorem joinSegmentCases (p : Path) (segment context : String) :
    (p.joinSegment segment context = .ok (p.join (trimmed segment)) ∧ ∃ name, Fits name (trim segment.toList)) ∨
      p.joinSegment segment context = .error ⟨context, segment⟩ ∧ ∀ name, ¬ Fits name (trim segment.toList) := by
  have text : (⟨trimmed segment⟩ : Path) = ⟨String.ofList (trim segment.toList)⟩ := rfl
  simp only [joinSegment]
  split
  · next unfit =>
    refine .inr ⟨rfl, fun name fits => ?_⟩
    have parts := denotesParts fits.denotes
    have single : isSingle (trimmed segment) = true := isSingleIff.2 ⟨_, text ▸ parts⟩
    have some : trimmed segment ≠ "" := fun none => by
      rw [← text, none] at parts
      contradiction
    simp [single, fits.clean, some] at unfit
  · next fit =>
    simp only [Bool.or_eq_true, Bool.not_eq_true', not_or, Bool.not_eq_false, List.contains_iff_mem,
      Text.toListTrimmed] at fit
    obtain ⟨name, parts⟩ := isSingleIff.1 fit.2
    exact .inl ⟨rfl, name.toList, partsDenote (text ▸ parts), fit.1.2⟩

structure Lands (p q : Path) (name : List Char) : Prop where
  parts : q.parts = p.parts ++ [.normal (String.ofList name)]
  last : q.fileName? = some (String.ofList name)
  parent : ∃ parent, q.parent? = some parent ∧ parent.parts = p.parts

theorem joinLands (p : Path) {name : List Char} (fits : Fits name (trim segment.toList)) :
    Lands p (p.join (trimmed segment)) name := by
  have start : (⟨trimmed segment⟩ : Path).parts = [.normal (String.ofList name)] := denotesParts fits.denotes
  have parts := joinParts (p := p) start
  exact ⟨parts, by simp [fileName?, parts], _, parentParts parts⟩

/-- All that joining a segment does: which texts are accepted, where they land, when two of them are one file, and
how far the documented rule reaches. -/
structure JoinsSegment (p : Path) (segment context : String) : Prop where
  accepted : ∀ q, p.joinSegment segment context = .ok q ↔
    q = p.join (trimmed segment) ∧ ∃ name, Fits name (trim segment.toList)
  refused : ∀ e, p.joinSegment segment context = .error e ↔
    e = ⟨context, segment⟩ ∧ ∀ name, ¬ Fits name (trim segment.toList)
  lands : ∀ q name, p.joinSegment segment context = .ok q → Fits name (trim segment.toList) → Lands p q name
  same : ∀ q other label r name name', p.joinSegment segment context = .ok q → p.joinSegment other label = .ok r →
    Fits name (trim segment.toList) → Fits name' (trim other.toList) → (q.parts = r.parts ↔ name = name')
  documented : '/' ∉ trim segment.toList →
    ((∃ q, p.joinSegment segment context = .ok q) ↔ IsSegment (trim segment.toList)) ∧
    ∀ name, Fits name (trim segment.toList) → name = trim segment.toList

theorem acceptedIff : p.joinSegment segment context = .ok q ↔
    q = p.join (trimmed segment) ∧ ∃ name, Fits name (trim segment.toList) := by
  rcases joinSegmentCases p segment context with ⟨ok, fits⟩ | ⟨failed, unfit⟩
  · rw [ok, Except.ok.injEq]
    exact ⟨fun same => ⟨same.symm, fits⟩, fun found => found.1.symm⟩
  · rw [failed]
    exact ⟨fun ok => by contradiction, fun ⟨_, name, fits⟩ => absurd fits (unfit name)⟩

theorem refusedIff {e : InvalidSegment} : p.joinSegment segment context = .error e ↔
    e = ⟨context, segment⟩ ∧ ∀ name, ¬ Fits name (trim segment.toList) := by
  rcases joinSegmentCases p segment context with ⟨ok, name, fits⟩ | ⟨failed, unfit⟩
  · rw [ok]
    exact ⟨fun failed => by contradiction, fun ⟨_, unfit⟩ => absurd fits (unfit name)⟩
  · rw [failed, Except.error.injEq]
    exact ⟨fun same => ⟨same.symm, unfit⟩, fun found => found.1.symm⟩

theorem segmentJoins (p : Path) (segment context : String) : JoinsSegment p segment context where
  accepted _ := acceptedIff
  refused _ := refusedIff
  lands q name ok fits := by
    obtain ⟨rfl, _⟩ := acceptedIff.1 ok
    exact joinLands p fits
  same q other label r name name' ok ok' fits fits' := by
    obtain ⟨rfl, _⟩ := acceptedIff.1 ok
    obtain ⟨rfl, _⟩ := acceptedIff.1 ok'
    rw [(joinLands p fits).parts, (joinLands p fits').parts]
    simp [String.ofList_inj]
  documented flat := by
    refine ⟨⟨fun ⟨q, ok⟩ => ?_, fun segment' => ?_⟩, fun name fits => ((fitsFlat flat).1 fits).1⟩
    · obtain ⟨_, name, fits⟩ := acceptedIff.1 ok
      exact ((fitsFlat flat).1 fits).2
    · exact ⟨_, acceptedIff.2 ⟨rfl, _, (fitsFlat flat).2 ⟨rfl, segment'⟩⟩⟩

theorem separatorPasses : ¬ ∀ (p : Path) (segment context : String),
    ((∃ q, p.joinSegment segment context = .ok q) ↔ IsSegment (trim segment.toList)) ∧
    ∀ q, p.joinSegment segment context = .ok q → q.fileName? = some (trimmed segment) := by
  intro all
  have joined : (⟨"/w"⟩ : Path).joinSegment "a/" "class name" = .ok ⟨"/w/a/"⟩ := by decide +kernel
  have segment := (all ⟨"/w"⟩ "a/" "class name").1.1 ⟨_, joined⟩
  exact segment.flat (by decide +kernel)

end ClassScaffold.Path
