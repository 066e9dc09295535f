import ClassScaffold.Proofs.Template.Source
import ClassScaffold.Proofs.Text.Split
/-! A template cut at a character of its texts, such as into lines. Slots stay whole, so what a filled template
is put together from can be listed before anything is known of the values. -/
namespace ClassScaffold

namespace Text

/-- The last part of a text that was cut goes on with the first part of the text behind it. -/
def glue {α : Type} : List (List α) → List (List α) → List (List α)
  | [], parts => parts
  | [last], [] => [last]
  | [last], next :: parts => (last ++ next) :: parts
  | part :: other :: rest, parts => part :: glue (other :: rest) parts

theorem glueSome {α : Type} {before : List (List α)} (some : before ≠ []) (after : List (List α)) :
    glue before after ≠ [] := by
  fun_cases glue before after <;> simp_all

theorem glueMember {α : Type} {before after : List (List α)} {part : List α} (member : part ∈ glue before after)
    {x : α} (inside : x ∈ part) : (∃ old ∈ before, x ∈ old) ∨ ∃ old ∈ after, x ∈ old := by
  fun_induction glue before after with
  | case1 after => exact .inr ⟨part, member, inside⟩
  | case2 last => exact .inl ⟨part, member, inside⟩
  | case3 last next parts =>
    rcases List.mem_cons.1 member with rfl | later
    · rcases List.mem_append.1 inside with first | second
      · exact .inl ⟨last, List.mem_cons_self, first⟩
      · exact .inr ⟨next, List.mem_cons_self, second⟩
    · exact .inr ⟨part, List.mem_cons_of_mem _ later, inside⟩
  | case4 head other rest parts ih =>
    rcases List.mem_cons.1 member with rfl | later
    · exact .inl ⟨part, List.mem_cons_self, inside⟩
    · exact (ih later).imp_left fun ⟨old, old', within⟩ => ⟨old, List.mem_cons_of_mem _ old', within⟩

theorem intercalateGlue {α β : Type} (c : β) (f : List α → List β) (join : ∀ a b, f (a ++ b) = f a ++ f b)
    {before after : List (List α)} (first : before ≠ []) (second : after ≠ []) :
    [c].intercalate ((glue before after).map f) =
      [c].intercalate (before.map f) ++ [c].intercalate (after.map f) := by
  fun_induction glue before after with
  | case1 => contradiction
  | case2 => contradiction
  | case3 last next parts =>
    cases parts with
    | nil => simp [join]
    | cons more parts => simp [join, List.intercalate_cons_cons]
  | case4 head other rest parts ih =>
    have some : glue (other :: rest) parts ≠ [] := glueSome (by simp) parts
    obtain ⟨next, others, same⟩ := List.exists_cons_of_ne_nil some
    have tail := ih (by simp) second
    rw [same] at tail ⊢
    simp only [List.map_cons, List.intercalate_cons_cons] at tail ⊢
    simp only [tail, List.append_assoc]

end Text

namespace Template
open Text (glue splitAt)

def textOf (part : List Char) : Template := if part.isEmpty then [] else [.text (String.ofList part)]

def cutPiece (c : Char) : Piece → List Template
  | .text content => (splitAt c content.toList).map textOf
  | .slot lead name trail => [[.slot lead name trail]]

def cut (c : Char) : Template → List Template
  | [] => [[]]
  | p :: rest => glue (cutPiece c p) (cut c rest)

def filled (b : Bindings) (t : Template) : List Char := (t.fill b).toList

theorem filledAppend (b : Bindings) (s t : Template) : filled b (s ++ t) = filled b s ++ filled b t := by
  simp [filled, fill]

theorem filledText (b : Bindings) (part : List Char) : filled b (textOf part) = part := by
  unfold textOf
  split
  · next none => simp_all [filled, fill]
  · simp [filled, fill, Piece.fill]

theorem cutPieceSome (c : Char) (p : Piece) : cutPiece c p ≠ [] := by
  cases p with
  | text content => simpa [cutPiece] using Text.splitAtNonempty c content.toList
  | slot => simp [cutPiece]

theorem cutSome (c : Char) (t : Template) : t.cut c ≠ [] := by
  cases t with
  | nil => simp [cut]
  | cons p rest => exact Text.glueSome (cutPieceSome c p) _

theorem cutPieceJoins (c : Char) (b : Bindings) (p : Piece) :
    [c].intercalate ((cutPiece c p).map (filled b)) = (p.fill b).toList := by
  cases p with
  | text content =>
    have texts : filled b ∘ textOf = id := funext (filledText b)
    rw [cutPiece, List.map_map, texts, List.map_id, Text.intercalateSplitAt]
    rfl
  | slot => simp [cutPiece, filled, fill]

theorem cutJoins (c : Char) (t : Template) (b : Bindings) :
    filled b t = [c].intercalate ((t.cut c).map (filled b)) := by
  induction t with
  | nil => simp [filled, fill, cut]
  | cons p rest ih =>
    rw [cut, Text.intercalateGlue c (filled b) (filledAppend b) (cutPieceSome c p) (cutSome c rest), ← ih,
      cutPieceJoins]
    simp [filled, fill]

theorem cutFill (c : Char) (t : Template) (b : Bindings) :
    t.fill b = (String.singleton c).intercalate ((t.cut c).map (·.fill b)) := by
  rw [← String.toList_inj, String.toList_intercalate, String.toList_singleton, List.map_map]
  exact cutJoins c t b

theorem cutPieces {c : Char} {t part : Template} (member : part ∈ t.cut c) {p : Piece} (inside : p ∈ part) :
    (∃ content, p = .text content ∧ c ∉ content.toList) ∨ p ∈ t ∧ p.name?.isSome := by
  induction t generalizing part with
  | nil =>
    obtain rfl : part = [] := by simpa [cut] using member
    simp at inside
  | cons q rest ih =>
    rcases Text.glueMember member inside with ⟨old, here, within⟩ | ⟨old, later, within⟩
    · cases q with
      | slot lead name trail =>
        obtain rfl : old = [.slot lead name trail] := by simpa [cutPiece] using here
        obtain rfl := List.mem_singleton.1 within
        exact .inr ⟨List.mem_cons_self, rfl⟩
      | text content =>
        obtain ⟨s, split, rfl⟩ := List.mem_map.1 here
        unfold textOf at within
        split at within
        · simp at within
        · obtain rfl := List.mem_singleton.1 within
          exact .inl ⟨_, rfl, by simpa using Text.splitAtAbsent split⟩
    · exact (ih later within).imp_right fun ⟨old, slot⟩ => ⟨List.mem_cons_of_mem _ old, slot⟩

/-- What a slot of the template is filled with does not hold the character. -/
def Spares (t : Template) (b : Bindings) (c : Char) : Prop :=
  ∀ p ∈ t, p.name?.isSome → c ∉ (p.fill b).toList

theorem sparesWithin {c d : Char} {t part : Template} {b : Bindings} (spares : t.Spares b d)
    (member : part ∈ t.cut c) : part.Spares b d := by
  intro p inside slot
  rcases cutPieces member inside with ⟨content, rfl, _⟩ | ⟨inTemplate, _⟩
  · simp [Piece.name?] at slot
  · exact spares p inTemplate slot

theorem filledSource (t : Template) : filled .empty t = t.source.toList := by
  have each : Piece.fill .empty = Piece.source := by
    funext p
    cases p <;> rfl
  rw [filled, fill, source, each]

theorem sourceSpares {t : Template} (readable : t.IsReadable) {c : Char}
    (other : Text.isBlank c = false ∧ isNameChar c = false ∧ c ≠ '\x7b' ∧ c ≠ '\x7d') : t.Spares .empty c := by
  intro p member slot
  have each := readable p member
  cases p with
  | text => contradiction
  | slot lead name trail =>
    simp only [isReadable, Bool.and_eq_true, List.all_eq_true] at each
    obtain ⟨⟨⟨blanks, _⟩, named⟩, trailing⟩ := each
    obtain ⟨unblank, unnamed, opening, closing⟩ := other
    have apart {p : Char → Bool} {s : List Char} (all : ∀ d ∈ s, p d = true) (not : p c = false) : c ∉ s :=
      fun within => by simp [all c within] at not
    have none : Piece.fill .empty (.slot lead name trail) = (Piece.slot lead name trail).source := rfl
    simp [none, Piece.source, opening, closing, apart blanks unblank, apart named unnamed, apart trailing unblank]

theorem memFilled {b : Bindings} {t : Template} {c : Char} :
    c ∈ filled b t ↔ ∃ p ∈ t, c ∈ (p.fill b).toList := by
  induction t with
  | nil => simp [filled, fill]
  | cons p rest ih =>
    have whole : filled b (p :: rest) = (p.fill b).toList ++ filled b rest := by simp [filled, fill]
    rw [whole, List.mem_append, ih]
    simp

theorem partSpares {c : Char} {t part : Template} {b : Bindings} (spares : t.Spares b c)
    (member : part ∈ t.cut c) : c ∉ filled b part := by
  intro within
  obtain ⟨p, inside, held⟩ := memFilled.1 within
  rcases cutPieces member inside with ⟨content, rfl, absent⟩ | ⟨inTemplate, slot⟩
  · exact absent held
  · exact spares p inTemplate slot held

theorem splitAtFilled {c : Char} {t : Template} {b : Bindings} (spares : t.Spares b c) :
    splitAt c (filled b t) = (t.cut c).map (filled b) := by
  rw [cutJoins c]
  refine Text.splitAtIntercalate (by simpa using cutSome c t) fun part member => ?_
  obtain ⟨template, inside, rfl⟩ := List.mem_map.1 member
  exact partSpares spares inside

end Template
end ClassScaffold
