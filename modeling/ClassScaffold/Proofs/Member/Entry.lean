import ClassScaffold.Member
import ClassScaffold.Proofs.Text.Padded
/-! Attribute tokens and parameter lists that are read back. A name has no colon, whatever it was read from, so a
field or a parameter that is written out is cut at the same place again. White space around the entries of a list
and blank entries among them are lost, and nothing else. -/
namespace ClassScaffold
open Member (body typeOr)
open Text (AllBlank IsPadded IsTrimmed Spells cutFirst cutFirstAt cutFirstSource isBlank splitAt trim trimEnd
  trimFixed trimIsTrimmed trimPadded trimStart trimWithin)

/- White space beside a character that stays -/

namespace Text

theorem trimStartFixed {c : Char} (dark : isBlank c = false) (before after : List Char) :
    trimStart (before ++ c :: after) = trimStart before ++ c :: after := by
  unfold trimStart
  rw [List.dropWhile_append]
  split
  · next none => rw [List.isEmpty_iff.1 none, List.dropWhile_cons_of_neg (by simp [dark]), List.nil_append]
  · rfl

theorem trimEndFixed {c : Char} (dark : isBlank c = false) (before after : List Char) :
    trimEnd (before ++ c :: after) = before ++ c :: trimEnd after := by
  have turned := trimStartFixed dark after.reverse before.reverse
  unfold trimStart at turned
  simp [trimEnd, turned]

theorem trimAround {c : Char} (dark : isBlank c = false) (before after : List Char) :
    trim (before ++ c :: after) = trimStart before ++ c :: trimEnd after := by
  rw [trim, trimStartFixed dark, trimEndFixed dark]

theorem trimTrimStart (s : List Char) : trim (trimStart s) = trim s := by
  have padded : IsPadded (trimStart s) s :=
    ⟨s.takeWhile isBlank, [], fun c => List.mem_takeWhile_imp, by simp [AllBlank], by simp [trimStart]⟩
  exact (trimPadded padded).symm

theorem trimTrimEnd (s : List Char) : trim (trimEnd s) = trim s := by
  have whole : s = trimEnd s ++ (s.reverse.takeWhile isBlank).reverse := by
    rw [trimEnd, ← List.reverse_append, List.takeWhile_append_dropWhile, List.reverse_reverse]
  have blank : AllBlank (s.reverse.takeWhile isBlank).reverse := fun c member =>
    List.mem_takeWhile_imp (List.mem_reverse.1 member)
  exact (trimPadded ⟨[], _, by simp [AllBlank], blank, by simpa using whole⟩).symm

end Text

/- Attributes -/

namespace Field

/-- What any attribute token is read as. -/
structure IsRead (f : Field) : Prop where
  name : IsTrimmed f.identifier.toList
  unmarked : ':' ∉ f.identifier.toList
  type : IsTrimmed f.declaredType.toList
  typed : f.declaredType ≠ ""

theorem writtenParts (token : String) : IsTrimmed (written token).1 ∧ ':' ∉ (written token).1 ∧
    IsTrimmed (written token).2 := by
  unfold written
  split
  · next name type cut =>
    exact ⟨trimIsTrimmed _, fun member => (cutFirstSource cut).2 (trimWithin _ member), trimIsTrimmed _⟩
  · next uncut =>
    exact ⟨trimIsTrimmed _, fun member => Text.cutFirstNone.1 uncut (trimWithin _ member), by simp, by simp⟩

theorem ofTokenRead (token : String) : (ofToken token).IsRead := by
  obtain ⟨name, unmarked, type⟩ := writtenParts token
  have default : IsTrimmed "string".toList := ⟨by simp; decide, by simp; decide⟩
  refine ⟨by simpa [ofToken] using name, by simpa [ofToken] using unmarked, ?_, ?_⟩
  · simp only [ofToken, typeOr]
    split
    · exact default
    · simpa using type
  · simp only [ofToken, typeOr]
    split
    · decide
    · next filled => simpa using filled

theorem ofTokenMarked {token : String} {name type : List Char} (text : body token = name ++ ':' :: type)
    (unmarked : ':' ∉ name) :
    ofToken token = ⟨String.ofList (trim name), typeOr .missingAttributeType (trim type)⟩ := by
  simp only [ofToken, written, text, cutFirstAt unmarked]

theorem ofTokenBare {token : String} (unmarked : ':' ∉ body token) :
    ofToken token = ⟨String.ofList (trim (body token)), "string"⟩ := by
  simp only [ofToken, written, Text.cutFirstNone.2 unmarked]
  rfl

theorem tokenReads {f : Field} (read : f.IsRead) : ofToken f.token = f := by
  have text : body f.token = f.identifier.toList ++ ':' :: f.declaredType.toList := by
    simp [body, Member.markerLength, token]
  rw [ofTokenMarked text read.unmarked, trimFixed read.name, trimFixed read.type, typeOr,
    if_neg (by simpa using read.typed)]
  simp

end Field

/- Parameters -/

namespace Parameter

/-- The entry can stand in a list: it ends before a comma, its name before a colon, and some of it is seen. -/
structure IsWritable (p : Parameter) : Prop where
  name : ',' ∉ p.identifier.toList
  unmarked : ':' ∉ p.identifier.toList
  type : ∀ type, p.declaredType = some type → ',' ∉ type.toList
  seen : p.declaredType = none → ¬ AllBlank p.identifier.toList

def trimmed (p : Parameter) : Parameter := ⟨Text.trimmed p.identifier, p.declaredType.map Text.trimmed⟩

/-- The texts between the commas of a list: the entries in order, each with white space around it, and any number
of blank ones. -/
inductive IsSpread : List Parameter → List String → Prop
  | nil : IsSpread [] []
  | blank {gap entries pieces} (blank : AllBlank gap.toList) (rest : IsSpread entries pieces) :
    IsSpread entries (gap :: pieces)
  | entry {p before after entries pieces} (start : AllBlank before.toList) (stop : AllBlank after.toList)
    (rest : IsSpread entries pieces) : IsSpread (p :: entries) ((before ++ entry p ++ after) :: pieces)

variable {p : Parameter} {entries : List Parameter} {pieces : List String}

theorem entrySeen (writable : p.IsWritable) : ¬ AllBlank p.entry.toList := by
  obtain ⟨name, type⟩ := p
  cases type with
  | none => exact writable.seen rfl
  | some type =>
    intro blank
    have colon := blank ':' (by simp [entry])
    contradiction

theorem entryUncut (writable : p.IsWritable) : ',' ∉ p.entry.toList := by
  obtain ⟨name, type⟩ := p
  cases type with
  | none => exact writable.name
  | some type => simpa [entry] using ⟨writable.name, writable.type type rfl⟩

theorem entryReads (writable : p.IsWritable) : ofEntry (trim p.entry.toList) = p.trimmed := by
  obtain ⟨name, type⟩ := p
  cases type with
  | none =>
    have unmarked : ':' ∉ trim name.toList := fun member => writable.unmarked (trimWithin _ member)
    simp only [ofEntry, entry, Text.cutFirstNone.2 unmarked]
    rfl
  | some type =>
    have text : (entry ⟨name, some type⟩).toList = name.toList ++ ':' :: type.toList := by simp [entry]
    have unmarked : ':' ∉ trimStart name.toList := fun member => writable.unmarked (List.dropWhile_subset _ member)
    rw [text, Text.trimAround (by decide)]
    simp only [ofEntry, cutFirstAt unmarked, Text.trimTrimStart, Text.trimTrimEnd]
    rfl

theorem spreadSpells (spread : IsSpread entries pieces) (writable : ∀ p ∈ entries, p.IsWritable) :
    Spells (entries.map fun p => p.entry.toList) (pieces.map String.toList) := by
  induction spread with
  | nil => exact .nil
  | blank blank _ ih => exact .blank blank (ih writable)
  | @entry p before after _ _ start stop _ ih =>
    have padded : IsPadded p.entry.toList (before ++ p.entry ++ after).toList :=
      ⟨before.toList, after.toList, start, stop, by simp⟩
    exact .core (entrySeen (writable p List.mem_cons_self)) padded
      (ih fun q member => writable q (List.mem_cons_of_mem _ member))

theorem spreadUncut (spread : IsSpread entries pieces) (writable : ∀ p ∈ entries, p.IsWritable) :
    ∀ piece ∈ pieces, ',' ∉ piece.toList := by
  have apart {s : List Char} (blank : AllBlank s) : ',' ∉ s := fun member => absurd (blank _ member) (by decide)
  induction spread with
  | nil => simp
  | blank blank _ ih =>
    intro piece member
    rcases List.mem_cons.1 member with rfl | later
    · exact apart blank
    · exact ih writable piece later
  | @entry p before after _ _ start stop _ ih =>
    intro piece member
    rcases List.mem_cons.1 member with rfl | later
    · simpa using ⟨apart start, entryUncut (writable p List.mem_cons_self), apart stop⟩
    · exact ih (fun q member => writable q (List.mem_cons_of_mem _ member)) piece later

theorem ofListSpread (spread : IsSpread entries pieces) (writable : ∀ p ∈ entries, p.IsWritable) :
    ofList (",".intercalate pieces) = entries.map trimmed := by
  have kept := Text.spelledTrim (spreadSpells spread writable)
  have uncut := spreadUncut spread writable
  have split : ((splitAt ',' (",".intercalate pieces).toList).map trim).filter (fun entry => !entry.isEmpty) =
      ((pieces.map String.toList).map trim).filter fun entry => !entry.isEmpty := by
    cases pieces with
    | nil => rfl
    | cons piece rest =>
      rw [String.toList_intercalate]
      congr 2
      exact Text.splitAtIntercalate (by simp) (by simpa using uncut)
  rw [ofList, split, kept, List.map_map, List.map_map]
  exact List.map_congr_left fun p member => entryReads (writable p member)

/- What is read from any list -/

theorem ofEntryWritable {s : List Char} (uncut : ',' ∉ s) (seen : s ≠ []) (ends : IsTrimmed s) :
    (ofEntry s).IsWritable ∧ (ofEntry s).trimmed = ofEntry s := by
  have again (t : List Char) : Text.trimmed (String.ofList (trim t)) = String.ofList (trim t) := by
    simp [Text.trimmed, trimFixed (trimIsTrimmed t)]
  unfold ofEntry
  split
  · next name type cut =>
    obtain ⟨rfl, unmarked⟩ := cutFirstSource cut
    have within {c : Char} {t : List Char} (absent : c ∉ t) : c ∉ (String.ofList (trim t)).toList := by
      simpa using fun member => absent (trimWithin _ member)
    refine ⟨⟨within fun member => uncut (by simp [member]), within unmarked, ?_, by simp⟩, by simp [trimmed, again]⟩
    rintro _ ⟨⟩
    exact within fun member => uncut (by simp [member])
  · next whole =>
    refine ⟨⟨by simpa using uncut, by simpa using Text.cutFirstNone.1 whole, by simp, fun _ blank => seen ?_⟩, ?_⟩
    · rw [String.toList_ofList] at blank
      rw [← trimFixed ends]
      exact Text.trimNothing.2 blank
    · simp [trimmed, Text.trimmed, trimFixed ends]

theorem ofListWritable {list : String} (member : p ∈ ofList list) : p.IsWritable ∧ p.trimmed = p := by
  obtain ⟨s, kept, rfl⟩ := List.mem_map.1 member
  obtain ⟨inside, seen⟩ := List.mem_filter.1 kept
  obtain ⟨piece, split, rfl⟩ := List.mem_map.1 inside
  refine ofEntryWritable (fun comma => ?_) (by simpa using seen) (trimIsTrimmed piece)
  exact Text.splitAtAbsent split (trimWithin _ comma)

theorem entrySome {piece : String} (uncut : ',' ∉ piece.toList) (seen : ¬ AllBlank piece.toList) :
    ∃ p, entry p = piece ∧ p.IsWritable := by
  cases cut : cutFirst ':' piece.toList with
  | none => exact ⟨⟨piece, none⟩, rfl, uncut, Text.cutFirstNone.1 cut, by simp, fun _ => seen⟩
  | some parts =>
    obtain ⟨name, type⟩ := parts
    obtain ⟨whole, unmarked⟩ := cutFirstSource cut
    rw [whole] at uncut
    refine ⟨⟨String.ofList name, some (String.ofList type)⟩, ?_, ?_, by simpa using unmarked, ?_, by simp⟩
    · rw [← String.toList_inj, whole]
      simp [entry]
    · simpa using fun member => uncut (by simp [member])
    · rintro _ ⟨⟩
      simpa using fun member => uncut (by simp [member])

theorem spreadBare (spread : IsSpread entries pieces) : IsSpread (p :: entries) (entry p :: pieces) := by
  have nothing : AllBlank "".toList := by simp [AllBlank]
  have first := IsSpread.entry (p := p) nothing nothing spread
  rwa [String.empty_append, String.append_empty] at first

theorem spreadUncutSome (uncut : ∀ piece ∈ pieces, ',' ∉ piece.toList) :
    ∃ entries, IsSpread entries pieces ∧ ∀ p ∈ entries, p.IsWritable := by
  induction pieces with
  | nil => exact ⟨[], .nil, by simp⟩
  | cons piece rest ih =>
    obtain ⟨entries, spread, writable⟩ := ih fun other member => uncut other (List.mem_cons_of_mem _ member)
    by_cases blank : AllBlank piece.toList
    · exact ⟨entries, .blank blank spread, writable⟩
    · obtain ⟨p, rfl, first⟩ := entrySome (uncut piece List.mem_cons_self) blank
      exact ⟨p :: entries, spreadBare spread, List.forall_mem_cons.2 ⟨first, writable⟩⟩

/-- Every text is a list in this way. -/
theorem spreadSome (list : String) :
    ∃ entries pieces, list = ",".intercalate pieces ∧ IsSpread entries pieces ∧ ∀ p ∈ entries, p.IsWritable := by
  have uncut : ∀ piece ∈ (splitAt ',' list.toList).map String.ofList, ',' ∉ piece.toList := by
    simpa using fun piece => Text.splitAtAbsent
  have same : String.toList ∘ String.ofList = id := funext fun s => String.toList_ofList
  obtain ⟨entries, spread, writable⟩ := spreadUncutSome uncut
  refine ⟨entries, _, ?_, spread, writable⟩
  rw [← String.toList_inj, String.toList_intercalate, List.map_map, same, List.map_id]
  exact (Text.intercalateSplitAt ',' list.toList).symm

theorem spreadPlain (entries : List Parameter) : IsSpread entries (entries.map entry) := by
  induction entries with
  | nil => exact .nil
  | cons p rest ih => exact spreadBare ih

theorem entriesRead (fixed : ∀ p ∈ entries, p.IsWritable ∧ p.trimmed = p) :
    ofList (",".intercalate (entries.map entry)) = entries := by
  rw [ofListSpread (spreadPlain entries) fun p member => (fixed p member).1]
  conv => rhs; rw [← List.map_id entries]
  exact List.map_congr_left fun p member => (fixed p member).2

theorem listReads (list : String) : ofList (",".intercalate ((ofList list).map entry)) = ofList list :=
  entriesRead fun _ => ofListWritable

end Parameter

/-- Tokens and lists that are written out are read as they are written, up to white space, and what was read from
any of them can be written out and read again. -/
theorem entriesReadBack :
    (∀ marker name type : String, marker.length = 2 → ':' ∉ name.toList →
      Field.ofToken (marker ++ name ++ ":" ++ type) =
        ⟨Text.trimmed name, if Text.trimmed type = "" then "string" else Text.trimmed type⟩ ∧
      Field.ofToken (marker ++ name) = ⟨Text.trimmed name, "string"⟩) ∧
    (∀ token, (Field.ofToken token).IsRead ∧ Field.ofToken (Field.ofToken token).token = Field.ofToken token) ∧
    (∀ entries pieces, (∀ p ∈ entries, Parameter.IsWritable p) → Parameter.IsSpread entries pieces →
      Parameter.ofList (",".intercalate pieces) = entries.map Parameter.trimmed) ∧
    ∀ list, Parameter.ofList (",".intercalate ((Parameter.ofList list).map Parameter.entry)) =
      Parameter.ofList list := by
  refine ⟨fun marker name type two unmarked => ?_, fun token => ?_, fun entries pieces writable spread =>
    Parameter.ofListSpread spread writable, Parameter.listReads⟩
  · have cut (rest : String) : body (marker ++ rest) = rest.toList := by
      have dropped : (marker.toList ++ rest.toList).drop 2 = rest.toList :=
        List.drop_left' (String.length_toList.trans two)
      simpa [body, Member.markerLength] using dropped
    have text : body (marker ++ name ++ ":" ++ type) = name.toList ++ ':' :: type.toList := by
      simp [String.append_assoc, cut]
    refine ⟨?_, ?_⟩
    · have blank : Text.trimmed type = "" ↔ trim type.toList = [] := by simp [Text.trimmed]
      rw [Field.ofTokenMarked text unmarked]
      simp only [typeOr, List.isEmpty_iff, blank]
      rfl
    · rw [Field.ofTokenBare (by rwa [cut]), cut]
      rfl
  · exact ⟨Field.ofTokenRead token, Field.tokenReads (Field.ofTokenRead token)⟩

theorem entriesReadBackSpaced :
    Field.ofToken ("- " ++ " when " ++ ":" ++ "date:time ") = ⟨"when", "date:time"⟩ ∧
    Field.ofToken ("••" ++ "name") = ⟨"name", "string"⟩ ∧
    Parameter.ofList (",".intercalate [" ", " qty:int\t", "", "a note\u3000", ":b:c"]) =
      [⟨"qty", some "int"⟩, ⟨"a note", none⟩, ⟨"", some "b:c"⟩] := by
  have spread : Parameter.IsSpread [⟨"qty", some "int"⟩, ⟨"a note", none⟩, ⟨"", some "b:c"⟩]
      [" ", " qty:int\t", "", "a note\u3000", ":b:c"] := by
    have blank {s : String} (all : s.toList.all isBlank = true) : AllBlank s.toList := List.all_eq_true.1 all
    have last : Parameter.IsSpread [⟨"", some "b:c"⟩] [":b:c"] := Parameter.spreadBare .nil
    have note : AllBlank "".toList ∧ AllBlank "\u3000".toList := ⟨blank (by decide), blank (by decide)⟩
    have number : AllBlank " ".toList ∧ AllBlank "\t".toList := ⟨blank (by decide), blank (by decide)⟩
    exact .blank number.1 (.entry number.1 number.2 (.blank note.1 (.entry note.1 note.2 last)))
  have writable : ∀ p ∈ [⟨"qty", some "int"⟩, ⟨"a note", none⟩, ⟨"", some "b:c"⟩], Parameter.IsWritable p := by
    have typed {name type : String} (plain : ',' ∉ name.toList ∧ ':' ∉ name.toList ∧ ',' ∉ type.toList) :
        Parameter.IsWritable ⟨name, some type⟩ := ⟨plain.1, plain.2.1, by rintro _ ⟨⟩; exact plain.2.2, by simp⟩
    have bare : Parameter.IsWritable ⟨"a note", none⟩ := ⟨by decide, by decide, by simp, fun _ blank =>
      absurd (blank 'a' (by decide)) (by decide)⟩
    simp only [List.mem_cons, List.not_mem_nil, or_false]
    rintro p (rfl | rfl | rfl)
    · exact typed (by decide)
    · exact bare
    · exact typed (by decide)
  have when := (entriesReadBack.1 "- " " when " "date:time " (by decide) (by decide)).1
  have name := (entriesReadBack.1 "••" "name" "" (by decide) (by decide)).2
  exact ⟨when.trans (by decide +kernel), name.trans (by decide +kernel),
    (entriesReadBack.2.2.1 _ _ writable spread).trans (by decide +kernel)⟩

end ClassScaffold
