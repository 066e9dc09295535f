import ClassScaffold.Proofs.Text.Blank
import ClassScaffold.Template
import Mathlib.Data.List.TakeWhile
/-! The source of a template and its pieces. Reading a source gives back the pieces that it was put together
from, texts side by side being joined, so filling a template is one pass over its source. -/
namespace ClassScaffold
open Text (isBlank)

namespace Template

/-- No slot starts in the text, whatever stands behind it: no two braces, and none at the end. -/
def holdsNoSlot : List Char → Bool
  | [] => true
  | c :: rest => (c != '\x7b' || rest.head?.any (· != '\x7b')) && holdsNoSlot rest

def isReadable : Piece → Bool
  | .text content => holdsNoSlot content.toList
  | .slot lead name trail =>
    lead.toList.all isBlank && name.toList.head?.any isNameStart && name.toList.all isNameChar
      && trail.toList.all isBlank

def IsReadable (t : Template) : Prop := ∀ p ∈ t, isReadable p = true
instance (t : Template) : Decidable t.IsReadable := List.decidableBAll _ _

def merged : Template → Template
  | [] => []
  | .text content :: rest => content.toList.foldr consText (merged rest)
  | .slot lead name trail :: rest => .slot lead name trail :: merged rest

/- Characters -/

theorem blankUnnamed {c : Char} (blank : isBlank c = true) : isNameChar c = false := by
  simp only [isBlank, Bool.or_eq_true, Bool.and_eq_true, decide_eq_true_eq, beq_iff_eq] at blank
  simp only [isNameChar, isNameStart, Bool.or_eq_false_iff, Bool.and_eq_false_iff, decide_eq_false_iff_not,
    beq_eq_false_iff_ne, Char.le_def, UInt32.le_iff_toNat_le, ne_eq, ← Char.toNat_inj]
  have value (d : Char) : d.val.toNat = d.toNat := rfl
  simp only [value]
  have letters : 'A'.toNat = 65 ∧ 'Z'.toNat = 90 ∧ 'a'.toNat = 97 ∧ 'z'.toNat = 122 ∧ '_'.toNat = 95 ∧
      '0'.toNat = 48 ∧ '9'.toNat = 57 := by decide
  omega

theorem startUnblank {c : Char} (start : isNameStart c = true) : isBlank c = false := by
  cases blank : isBlank c with
  | false => rfl
  | true => simpa [isNameChar, start] using blankUnnamed blank

/- Scanning -/

theorem slotAtText {c : Char} {s : List Char} (plain : holdsNoSlot (c :: s) = true) (after : List Char) :
    slotAt (c :: s ++ after) = none := by
  simp only [holdsNoSlot, Bool.and_eq_true, Bool.or_eq_true, bne_iff_ne] at plain
  unfold slotAt
  split
  · next inner same =>
    obtain ⟨rfl, rest⟩ := List.cons.inj same
    rcases plain.1 with other | next
    · contradiction
    · cases s with
      | nil => simp at next
      | cons d s =>
        obtain ⟨rfl, _⟩ := List.cons.inj rest
        simp at next
  · rfl

theorem piecesFree {s after : List Char}
    (free : ∀ before rest, s = before ++ rest → rest ≠ [] → slotAt (rest ++ after) = none) :
    piecesFrom 0 (s ++ after) = s.foldr consText (piecesFrom 0 after) := by
  induction s with
  | nil => rfl
  | cons c rest ih =>
    have here := free [] (c :: rest) rfl (by simp)
    rw [List.cons_append] at here
    rw [List.cons_append, piecesFrom, here, List.foldr_cons,
      ih fun before last whole => free (c :: before) last (by simp [whole])]

theorem plainEnd {before rest : List Char} (plain : holdsNoSlot (before ++ rest) = true) : holdsNoSlot rest = true := by
  induction before with
  | nil => exact plain
  | cons c before ih =>
    rw [List.cons_append, holdsNoSlot, Bool.and_eq_true] at plain
    exact ih plain.2

theorem piecesText {s : List Char} (plain : holdsNoSlot s = true) (after : List Char) :
    piecesFrom 0 (s ++ after) = s.foldr consText (piecesFrom 0 after) := by
  refine piecesFree fun before rest whole some => ?_
  obtain ⟨c, last, rfl⟩ := List.exists_cons_of_ne_nil some
  exact slotAtText (plainEnd (whole ▸ plain)) after

theorem piecesPassed (s after : List Char) : piecesFrom s.length (s ++ after) = piecesFrom 0 after := by
  induction s with
  | nil => rfl
  | cons c rest ih => simpa [piecesFrom] using ih

theorem slotAtSlot {lead name trail : List Char} (blanks : ∀ c ∈ lead, isBlank c = true)
    (start : name.head?.any isNameStart = true) (named : ∀ c ∈ name, isNameChar c = true)
    (trailing : ∀ c ∈ trail, isBlank c = true) (after : List Char) :
    slotAt ('\x7b' :: '\x7b' :: (lead ++ (name ++ (trail ++ '\x7d' :: '\x7d' :: after)))) =
      some (lead, name, trail) := by
  cases name with
  | nil => simp at start
  | cons c rest =>
    have start : isNameStart c = true := by simpa using start
    have first := Text.spanStops blanks (c :: rest ++ (trail ++ '\x7d' :: '\x7d' :: after))
      fun d head => by
        obtain rfl : c = d := by simpa using head
        exact startUnblank start
    have second := Text.spanStops named (trail ++ '\x7d' :: '\x7d' :: after) fun d head => by
      cases trail with
      | nil =>
        obtain rfl : '\x7d' = d := by simpa using head
        decide
      | cons b _ =>
        obtain rfl : b = d := by simpa using head
        exact blankUnnamed (trailing b List.mem_cons_self)
    have third := Text.spanStops trailing ('\x7d' :: '\x7d' :: after) fun d head => by
      obtain rfl : '\x7d' = d := by simpa using head
      decide
    simp only [slotAt, first, second, third, start, if_true]

theorem ofSourceSlot {lead name trail : String} (readable : isReadable (.slot lead name trail) = true)
    (after : List Char) : piecesFrom 0 ((Piece.slot lead name trail).source.toList ++ after) =
      .slot lead name trail :: piecesFrom 0 after := by
  simp only [isReadable, Bool.and_eq_true, List.all_eq_true] at readable
  obtain ⟨⟨⟨blanks, start⟩, named⟩, trailing⟩ := readable
  have whole : (Piece.slot lead name trail).source.toList ++ after = '\x7b' :: '\x7b' ::
      (lead.toList ++ (name.toList ++ (trail.toList ++ '\x7d' :: '\x7d' :: after))) := by
    simp [Piece.source]
  have found := slotAtSlot blanks start named trailing after
  have passed := piecesPassed ('\x7b' :: (lead.toList ++ (name.toList ++ (trail.toList ++ ['\x7d', '\x7d'])))) after
  have count : ('\x7b' :: (lead.toList ++ (name.toList ++ (trail.toList ++ ['\x7d', '\x7d'])))).length =
      lead.toList.length + name.toList.length + trail.toList.length + 3 := by
    simp only [List.length_cons, List.length_append, List.length_nil]
    omega
  rw [count] at passed
  simp only [List.cons_append, List.append_assoc, List.nil_append] at passed
  rw [whole, piecesFrom, found]
  simp only [passed, String.ofList_toList]

theorem piecesSource {t : Template} (readable : t.IsReadable) :
    piecesFrom 0 (t.source.toList) = t.merged := by
  induction t with
  | nil => rfl
  | cons p rest ih =>
    have tail := ih fun q member => readable q (List.mem_cons_of_mem _ member)
    have head := readable p List.mem_cons_self
    have whole : source (p :: rest) = p.source ++ source rest := by simp [source]
    rw [whole, String.toList_append]
    cases p with
    | text content => rw [Piece.source, piecesText head, tail, merged]
    | slot lead name trail => rw [ofSourceSlot head, tail, merged]

/- Merging -/

theorem fillConsText (c : Char) (t : Template) (b : Bindings) :
    (consText c t).fill b = String.singleton c ++ t.fill b := by
  unfold consText
  split <;> simp [fill, Piece.fill, String.append_assoc]

theorem foldConsText (s : List Char) (t : Template) (b : Bindings) :
    fill (s.foldr consText t) b = String.ofList s ++ t.fill b := by
  induction s with
  | nil => simp
  | cons c rest ih =>
    have first : String.singleton c ++ String.ofList rest = String.ofList (c :: rest) := by
      rw [← String.toList_inj]
      simp
    rw [List.foldr_cons, fillConsText, ih, ← String.append_assoc, first]

theorem fillMerged (t : Template) (b : Bindings) : t.merged.fill b = t.fill b := by
  induction t with
  | nil => rfl
  | cons p rest ih =>
    cases p with
    | slot lead name trail => simpa [merged, fill] using ih
    | text content =>
      rw [merged, foldConsText, ih, String.ofList_toList]
      simp [fill, Piece.fill]

theorem slotsConsText (c : Char) (t : Template) : (consText c t).filterMap Piece.name? = t.filterMap Piece.name? := by
  unfold consText
  split <;> rfl

theorem namesMerged (t : Template) : t.merged.names = t.names := by
  have slots : t.merged.filterMap Piece.name? = t.filterMap Piece.name? := by
    induction t with
    | nil => rfl
    | cons p rest ih =>
      cases p with
      | slot lead name trail => simpa [merged, Piece.name?] using ih
      | text content =>
        have kept (s : List Char) (t : Template) :
            (s.foldr consText t).filterMap Piece.name? = t.filterMap Piece.name? := by
          induction s with
          | nil => rfl
          | cons c s more => rw [List.foldr_cons, slotsConsText, more]
        rw [merged, kept, ih, List.filterMap_cons_none (by rfl)]
  rw [names, slots, names]

/-- Filling a template is one pass over its source: what is put in is not looked at again. -/
theorem fillSource {t : Template} (readable : t.IsReadable) (b : Bindings) :
    (ofSource t.source).fill b = t.fill b := by
  rw [ofSource, piecesSource readable, fillMerged]

theorem namesSource {t : Template} (readable : t.IsReadable) : (ofSource t.source).names = t.names := by
  rw [ofSource, piecesSource readable, namesMerged]

/- Values -/

/-- The texts of a template and a value for each slot, side by side. -/
def put (value : String → String) (t : Template) : String :=
  String.join (t.map fun
    | .text content => content
    | .slot _ name _ => value name)

def valueIn (b : Bindings) (name : String) : String := (b.get? name).getD ""

def IsBound (t : Template) (b : Bindings) (value : String → String) : Prop :=
  ∀ name ∈ t.names, b.get? name = some (value name)

theorem fillBound {t : Template} {b : Bindings} {value : String → String} (bound : t.IsBound b value) :
    t.fill b = t.put value := by
  unfold fill put
  congr 1
  refine List.map_congr_left fun p member => ?_
  cases p with
  | text content => rfl
  | slot lead name trail =>
    have named : name ∈ t.names := List.mem_eraseDups.2 (List.mem_filterMap.2 ⟨_, member, rfl⟩)
    simp [Piece.fill, bound name named]

theorem boundListed {t : Template} {b : Bindings} (listed : ∀ name ∈ t.names, name ∈ b.entries.map Prod.fst) :
    t.IsBound b (valueIn b) := by
  intro name member
  obtain ⟨entry, inside, rfl⟩ := List.mem_map.1 (listed name member)
  have some : (b.get? entry.1).isSome := List.lookup_isSome_iff.2 ⟨entry, inside, by simp⟩
  obtain ⟨value, bound⟩ := Option.isSome_iff_exists.1 some
  simp [valueIn, bound]

end Template
end ClassScaffold
