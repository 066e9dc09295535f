import ClassScaffold.Proofs.Json.Skip
import ClassScaffold.Proofs.Request.Written
import ClassScaffold.Request.Json
/-! Reading a text that writes a request gives the request. Each reader takes the white space before a value and
the value, and leaves what is behind; over the members of an object a draft is filled, in whatever order they come. -/
namespace ClassScaffold.Request.Json
open ClassScaffold.Json

/-- The reader takes the text for the value, wherever it stands. -/
def Reads {α : Type} (read : Reader α) (x : α) (text : List Char) : Prop :=
  ∀ spaces rest, IsSpaces spaces → IsEnd rest → read (spaces ++ (text ++ rest)) = .ok (x, rest)

/- Strings -/

theorem textRead {s : String} {written : List Char} (writes : WritesText s.toList written) (rest : List Char) :
    Text.read (written ++ '"' :: rest) = .ok (s, rest) := by
  rw [Text.read, Text.textRead writes]
  exact congrArg (fun s => Except.ok (s, rest)) String.ofList_toList

theorem stringReads {s : String} {text : List Char} (writes : WritesString s text) : Reads readString s text := by
  obtain ⟨written, writes, rfl⟩ := writes
  intro spaces rest lead _
  rw [readString, List.cons_append, spacesSkipped lead (by decide), List.append_assoc]
  exact textRead writes rest

theorem nameReads {name : Option String} {text : List Char} (writes : WritesName name text) :
    Reads readOptional name text := by
  intro spaces rest lead stop
  cases name with
  | none =>
    obtain rfl : text = ['n', 'u', 'l', 'l'] := writes
    rw [readOptional, List.cons_append, spacesSkipped lead (by decide)]
    exact congrArg (Except.map _) (wordRead ['u', 'l', 'l'] rest)
  | some s =>
    have read := stringReads writes [] rest (by simp [IsSpaces]) stop
    obtain ⟨written, _, rfl⟩ := writes
    rw [readOptional, List.cons_append, spacesSkipped lead (by decide)]
    exact congrArg (Except.map _) read

/- Lists -/

/-- What the first character of an item cannot be, lest it end the list before it. -/
def Starts (stop : Char) (text : List Char) : Prop := ∃ c more, text = c :: more ∧ isSpace c = false ∧ c ≠ stop

theorem elementFirst {before text : List Char} (lead : IsSpaces before) (start : Starts ']' text) (rest : List Char) :
    nextElement true (before ++ (text ++ rest)) = .ok (some (text ++ rest)) := by
  obtain ⟨c, more, rfl, unspaced, other⟩ := start
  rw [nextElement, List.cons_append, spacesSkipped lead unspaced]
  split <;> simp_all

theorem elementNext {after before text : List Char} (trail : IsSpaces after) (lead : IsSpaces before)
    (start : Starts ']' text) (rest : List Char) :
    nextElement false (after ++ ',' :: (before ++ (text ++ rest))) = .ok (some (text ++ rest)) := by
  obtain ⟨c, more, rfl, unspaced, other⟩ := start
  have next : skipSpace (before ++ (c :: more ++ rest)) = c :: (more ++ rest) := spacesSkipped lead unspaced _
  rw [nextElement, spacesSkipped trail (by decide)]
  split
  · next same => cases same
  · next same => exact absurd (List.cons.inj same).1 (by decide)
  · next same =>
    obtain ⟨rfl, rfl⟩ := List.cons.inj same
    rw [if_neg Bool.false_ne_true, if_pos rfl, next]
    split <;> simp_all

variable {α : Type} {item : α → List Char → Prop} {element : Reader α}

theorem elementsEnd (element : Reader α) (count : Nat) (first : Bool) {after : List Char}
    (trail : IsSpaces after) (rest : List Char) :
    elements element count first (after ++ ']' :: rest) = .ok ([], rest) := by
  have ends : endArray (after ++ ']' :: rest) = .ok rest := by
    rw [endArray, spacesSkipped trail (by decide)]
    rfl
  cases count with
  | zero => rw [elements, ends]; rfl
  | succ count =>
    have none : nextElement first (after ++ ']' :: rest) = .ok none := by
      rw [nextElement, spacesSkipped trail (by decide)]
      rfl
    rw [elements, none]
    simp only [bind, Except.bind, ends]
    rfl

theorem elementsMore {first : Bool} {s text after : List Char} {x : α} {xs : List α} {count : Nat} {rest : List Char}
    (next : nextElement first s = .ok (some (text ++ after))) (read : element (text ++ after) = .ok (x, after))
    (tail : elements element count false after = .ok (xs, rest)) :
    elements element (count + 1) first s = .ok (x :: xs, rest) := by
  rw [elements, next]
  simp only [bind, Except.bind, read, tail]

theorem itemsRead (start : ∀ x text, item x text → Starts ']' text)
    (reads : ∀ x text, item x text → Reads element x text) {xs : List α} {s : List Char}
    (written : WritesItems item xs s) {count : Nat} (enough : xs.length ≤ count) (rest : List Char) :
    elements element count true (s ++ ']' :: rest) = .ok (xs, rest) ∧ ∀ {after : List Char}, IsSpaces after →
      elements element count false (after ++ ',' :: (s ++ ']' :: rest)) = .ok (xs, rest) := by
  induction written generalizing count with
  | @last x before text after lead first trail =>
    obtain ⟨count, rfl⟩ : ∃ n, count = n + 1 := ⟨count - 1, by simp at enough; omega⟩
    have read := reads _ _ first [] (after ++ ']' :: rest) (by simp [IsSpaces]) (endSpaces trail (by decide) rest)
    have tail := elementsEnd element count false trail rest
    simp only [List.append_assoc]
    exact ⟨elementsMore (elementFirst lead (start _ _ first) _) read tail, fun spaces =>
      elementsMore (elementNext spaces lead (start _ _ first) _) read tail⟩
  | @more x xs before text after others lead first trail _ ih =>
    obtain ⟨count, rfl⟩ : ∃ n, count = n + 1 := ⟨count - 1, by simp at enough; omega⟩
    have read := reads _ _ first [] (after ++ ',' :: (others ++ ']' :: rest)) (by simp [IsSpaces])
      (endSpaces trail (by decide) _)
    have tail := (ih (by simpa using enough)).2 trail
    simp only [List.append_assoc, List.cons_append]
    exact ⟨elementsMore (elementFirst lead (start _ _ first) _) read tail, fun spaces =>
      elementsMore (elementNext spaces lead (start _ _ first) _) read tail⟩

theorem listReads (start : ∀ x text, item x text → Starts ']' text)
    (reads : ∀ x text, item x text → Reads element x text) {xs : List α} {text : List Char}
    (written : WritesList .list item xs text) : Reads (readList element) xs text := by
  intro spaces rest lead _
  cases written with
  | @empty s blank =>
    have whole : opening .list :: (s ++ [closing .list]) ++ rest = '[' :: (s ++ ']' :: rest) := by
      simp [opening, closing]
    rw [readList, whole, spacesSkipped lead (by decide)]
    exact elementsEnd element _ true blank rest
  | @filled _ s items =>
    have enough : xs.length ≤ (s ++ ']' :: rest).length := by
      have short := itemsShort items
      simp only [List.length_append, List.length_cons]
      omega
    have read := (itemsRead start reads items enough rest).1
    have whole : opening .list :: (s ++ [closing .list]) ++ rest = '[' :: (s ++ ']' :: rest) := by
      simp [opening, closing]
    rw [readList, whole, spacesSkipped lead (by decide)]
    exact read

/- Objects -/

theorem memberStarts {m : String × List Char} {text : List Char} (writes : WritesMember m text) :
    ∃ written before after, WritesText m.1.toList written ∧ IsSpaces before ∧ IsSpaces after ∧
      text = '"' :: (written ++ '"' :: (before ++ ':' :: (after ++ m.2))) := by
  obtain ⟨_, before, after, ⟨written, writes, rfl⟩, lead, trail, rfl⟩ := writes
  exact ⟨written, before, after, writes, lead, trail, by simp⟩

theorem memberFirst {before : List Char} (lead : IsSpaces before) (rest : List Char) :
    nextMember true (before ++ '"' :: rest) = .ok (some rest) := by
  rw [nextMember, spacesSkipped lead (by decide)]
  rfl

theorem memberNext {after before : List Char} (trail : IsSpaces after) (lead : IsSpaces before) (rest : List Char) :
    nextMember false (after ++ ',' :: (before ++ '"' :: rest)) = .ok (some rest) := by
  have next : skipSpace (before ++ '"' :: rest) = '"' :: rest := spacesSkipped lead (by decide) _
  rw [nextMember, spacesSkipped trail (by decide)]
  split
  · next same => cases same
  · next same => exact absurd (List.cons.inj same).1 (by decide)
  · next same =>
    obtain ⟨rfl, rfl⟩ := List.cons.inj same
    rw [if_neg Bool.false_ne_true, if_pos rfl, next]
    rfl

/-- The member turns the draft into the next one, by its value. -/
def Turns {δ : Type} (member : δ → String → Except Fault (Reader δ)) (draft : δ) (m : String × List Char) (next : δ) :
    Prop :=
  ∃ read, member draft m.1 = .ok read ∧ Reads read next m.2

inductive Fills {δ : Type} (member : δ → String → Except Fault (Reader δ)) : δ → List (String × List Char) → δ → Prop
  | nil (draft : δ) : Fills member draft [] draft
  | cons {draft next last : δ} {m : String × List Char} {ms : List (String × List Char)}
    (turns : Turns member draft m next) (later : Fills member next ms last) : Fills member draft (m :: ms) last

variable {δ : Type} {member : δ → String → Except Fault (Reader δ)}

/-- What one member keeps, whatever has been read, the members of a whole object keep. -/
theorem fillsKept {P : δ → List (String × List Char) → Prop}
    (step : ∀ {draft m ms}, P draft (m :: ms) → ∃ next, Turns member draft m next ∧ P next ms)
    {draft : δ} {ms : List (String × List Char)} (start : P draft ms) :
    ∃ last, Fills member draft ms last ∧ P last [] := by
  induction ms generalizing draft with
  | nil => exact ⟨draft, .nil draft, start⟩
  | cons m ms ih =>
    obtain ⟨next, turns, kept⟩ := step start
    obtain ⟨last, fills, ends⟩ := ih kept
    exact ⟨last, .cons turns fills, ends⟩

theorem membersEnd (member : δ → String → Except Fault (Reader δ)) (count : Nat) (first : Bool) (draft : δ)
    {after : List Char} (trail : IsSpaces after) (rest : List Char) :
    members member (count + 1) first draft (after ++ '\x7d' :: rest) = .ok (draft, '\x7d' :: rest) := by
  have skipped : skipSpace (after ++ '\x7d' :: rest) = '\x7d' :: rest := spacesSkipped trail (by decide) rest
  have none : nextMember first (after ++ '\x7d' :: rest) = .ok none := by
    rw [nextMember, skipped]
    rfl
  rw [members, none, skipped]
  rfl

theorem membersMore {first : Bool} {draft next : δ} {s written before after text behind : List Char} {name : String}
    {read : Reader δ} {count : Nat} {result : Except Fault (δ × List Char)}
    (found : nextMember first s = .ok (some (written ++ '"' :: (before ++ ':' :: (after ++ (text ++ behind))))))
    (writes : WritesText name.toList written) (lead : IsSpaces before) (trail : IsSpaces after)
    (known : member draft name = .ok read) (reads : Reads read next text) (stop : IsEnd behind)
    (tail : members member count false next behind = result) :
    members member (count + 1) first draft s = result := by
  have colon : readColon (before ++ ':' :: (after ++ (text ++ behind))) = .ok (after ++ (text ++ behind)) := by
    rw [readColon, spacesSkipped lead (by decide)]
    rfl
  rw [members, found]
  simp only [bind, Except.bind, textRead writes, known, colon, reads after behind trail stop, tail]

theorem membersRead {ms : List (String × List Char)} {s : List Char} (written : WritesItems WritesMember ms s)
    {draft last : δ} (fills : Fills member draft ms last) {count : Nat} (enough : ms.length < count)
    (rest : List Char) :
    members member count true draft (s ++ '\x7d' :: rest) = .ok (last, '\x7d' :: rest) ∧
      ∀ {after : List Char}, IsSpaces after →
        members member count false draft (after ++ ',' :: (s ++ '\x7d' :: rest)) = .ok (last, '\x7d' :: rest) := by
  induction written generalizing draft count with
  | @last m before text after lead first trail =>
    obtain ⟨count, rfl⟩ : ∃ n, count = n + 2 := ⟨count - 2, by simp at enough; omega⟩
    cases fills with
    | @cons _ next _ _ _ turns later =>
      obtain ⟨read, known, reads⟩ := turns
      cases later
      obtain ⟨name, blank, space, writes, blanks, spaces, rfl⟩ := memberStarts first
      have stop : IsEnd (after ++ '\x7d' :: rest) := endSpaces trail (by decide) rest
      have tail := membersEnd member count false last trail rest
      simp only [List.append_assoc, List.cons_append]
      exact ⟨membersMore (memberFirst lead _) writes blanks spaces known reads stop tail, fun behind =>
        membersMore (memberNext behind lead _) writes blanks spaces known reads stop tail⟩
  | @more m ms before text after others lead first trail _ ih =>
    obtain ⟨count, rfl⟩ : ∃ n, count = n + 1 := ⟨count - 1, by simp at enough; omega⟩
    cases fills with
    | @cons _ next _ _ _ turns later =>
      obtain ⟨read, known, reads⟩ := turns
      obtain ⟨name, blank, space, writes, blanks, spaces, rfl⟩ := memberStarts first
      have stop : IsEnd (after ++ ',' :: (others ++ '\x7d' :: rest)) := endSpaces trail (by decide) _
      have tail := (ih later (by simpa using enough)).2 trail
      simp only [List.append_assoc, List.cons_append]
      exact ⟨membersMore (memberFirst lead _) writes blanks spaces known reads stop tail, fun behind =>
        membersMore (memberNext behind lead _) writes blanks spaces known reads stop tail⟩

end ClassScaffold.Request.Json
