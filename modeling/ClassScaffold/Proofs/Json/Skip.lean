import ClassScaffold.Proofs.Json.Text
import ClassScaffold.Proofs.Text.Blank
/-! A value that nobody wants is passed over as a whole. The brackets that are open are on a stack, so what is
gone over is the same at every depth, and each part of a value gives the stack back as it was. -/
namespace ClassScaffold.Json

namespace Number

/- What can stand behind the digits of a number -/

def StopsDigits (s : List Char) : Prop := ∀ c ∈ s.head?, isDigit c = false

theorem endStops {rest : List Char} (stop : IsEnd rest) :
    ∀ c ∈ rest.head?, isDigit c = false ∧ c ≠ '.' ∧ isExponentMark c = false := by
  intro c head
  have each : ∀ c ∈ [' ', '\t', '\n', '\r', ',', ']', '\x7d'],
      isDigit c = false ∧ c ≠ '.' ∧ isExponentMark c = false := by simp [isDigit, isExponentMark]
  refine each c ?_
  simpa [isSpace, or_assoc] using stop c head

theorem digitsSpan {digits rest : List Char} (all : IsDigits digits) (stop : StopsDigits rest) :
    (digits ++ rest).head?.any isDigit = true ∧ (digits ++ rest).dropWhile isDigit = rest := by
  obtain ⟨some, all⟩ := all
  obtain ⟨c, more, rfl⟩ := List.exists_cons_of_ne_nil some
  exact ⟨by simpa using all c List.mem_cons_self, (ClassScaffold.Text.spanStops all rest stop).2⟩

def skipMark : List Char → Except Fault (List Char)
  | c :: rest => if isExponentMark c then skipExponent rest else .ok (c :: rest)
  | [] => .ok []

theorem exponentSkipped {sign digits rest : List Char} (signed : sign ∈ [[], ['+'], ['-']])
    (all : IsDigits digits) (stop : StopsDigits rest) : skipExponent (sign ++ (digits ++ rest)) = .ok rest := by
  obtain ⟨head, drop⟩ := digitsSpan all stop
  simp only [List.mem_cons, List.not_mem_nil, or_false] at signed
  rcases signed with rfl | rfl | rfl
  · unfold skipExponent
    split
    · next same =>
      rw [show digits ++ rest = _ from same] at head
      simp [isDigit] at head
    · next same =>
      rw [show digits ++ rest = _ from same] at head
      simp [isDigit] at head
    · exact (if_pos head).trans (congrArg Except.ok drop)
  · exact (if_pos head).trans (congrArg Except.ok drop)
  · exact (if_pos head).trans (congrArg Except.ok drop)

theorem markSkipped {exponent rest : List Char} (is : IsExponent exponent) (stop : IsEnd rest) :
    skipMark (exponent ++ rest) = .ok rest := by
  rcases is with rfl | ⟨mark, marks, sign, signed, digits, all, rfl⟩
  · cases rest with
    | nil => rfl
    | cons c more => simp [skipMark, (endStops stop c rfl).2.2]
  · have each : ∀ mark ∈ ['e', 'E'], isExponentMark mark = true := by simp [isExponentMark]
    rw [List.cons_append, skipMark, if_pos (each mark marks), List.append_assoc]
    exact exponentSkipped signed all fun c head => (endStops stop c head).1

theorem exponentStops {exponent rest : List Char} (is : IsExponent exponent) (stop : IsEnd rest) :
    ∀ c ∈ (exponent ++ rest).head?, isDigit c = false ∧ c ≠ '.' := by
  rcases is with rfl | ⟨mark, marks, sign, signed, digits, all, rfl⟩
  · exact fun c head => ⟨(endStops stop c head).1, (endStops stop c head).2.1⟩
  · intro c head
    obtain rfl : mark = c := by simpa using head
    have each : ∀ mark ∈ ['e', 'E'], isDigit mark = false ∧ mark ≠ '.' := by simp [isDigit]
    exact each mark marks

theorem restSkipped {fraction exponent rest : List Char} (fractional : IsFraction fraction)
    (exponential : IsExponent exponent) (stop : IsEnd rest) :
    skipRest (fraction ++ (exponent ++ rest)) = .ok rest := by
  have marked := markSkipped exponential stop
  have stops := exponentStops exponential stop
  rcases fractional with rfl | ⟨digits, all, rfl⟩
  · rw [List.nil_append, ← marked]
    unfold skipRest
    split
    · next same => exact absurd rfl (stops '.' (by simp [same])).2
    · next same => rw [same]; rfl
    · next same => rw [same]; rfl
  · obtain ⟨head, drop⟩ := digitsSpan all fun c member => (stops c member).1
    rw [List.cons_append, skipRest, skipFraction, if_pos head, drop, ← marked]
    cases exponent ++ rest <;> rfl

theorem digitsSkipped {whole fraction exponent rest : List Char} (integral : IsInteger whole)
    (fractional : IsFraction fraction) (exponential : IsExponent exponent) (stop : IsEnd rest) :
    skipDigits (whole ++ (fraction ++ (exponent ++ rest))) = .ok rest := by
  have skipped := restSkipped fractional exponential stop
  have stops : StopsDigits (fraction ++ (exponent ++ rest)) := by
    rcases fractional with rfl | ⟨digits, _, rfl⟩
    · exact fun c head => (exponentStops exponential stop c head).1
    · intro c head
      obtain rfl : '.' = c := by simpa using head
      decide
  rcases integral with rfl | ⟨all, nonzero⟩
  · have undigited : (fraction ++ (exponent ++ rest)).head?.any isDigit = false := by
      cases head : (fraction ++ (exponent ++ rest)).head? with
      | none => rfl
      | some c => exact stops c head
    rw [List.singleton_append, skipDigits, undigited]
    exact skipped
  · obtain ⟨head, drop⟩ := digitsSpan all stops
    unfold skipDigits
    split
    · next same =>
      obtain ⟨some, _⟩ := all
      obtain ⟨c, more, rfl⟩ := List.exists_cons_of_ne_nil some
      obtain ⟨rfl, _⟩ := List.cons.inj same
      exact absurd rfl nonzero
    · rw [if_pos head, drop, skipped]

theorem integerStarts {whole : List Char} (integral : IsInteger whole) :
    ∃ c more, whole = c :: more ∧ isDigit c = true := by
  rcases integral with rfl | ⟨⟨some, all⟩, _⟩
  · exact ⟨'0', [], rfl, by decide⟩
  · obtain ⟨c, more, rfl⟩ := List.exists_cons_of_ne_nil some
    exact ⟨c, more, rfl, all c List.mem_cons_self⟩

theorem numberStarts {s : List Char} (number : IsNumber s) :
    ∃ c more, s = c :: more ∧ (c = '-' ∨ isDigit c = true) := by
  obtain ⟨sign, signed, whole, fraction, exponent, integral, _, _, rfl⟩ := number
  obtain ⟨c, more, rfl, digit⟩ := integerStarts integral
  simp only [List.mem_cons, List.not_mem_nil, or_false] at signed
  rcases signed with rfl | rfl
  · exact ⟨c, _, rfl, .inr digit⟩
  · exact ⟨'-', _, rfl, .inl rfl⟩

theorem numberSkipped {s rest : List Char} (number : IsNumber s) (stop : IsEnd rest) :
    skip (s ++ rest) = .ok rest := by
  obtain ⟨sign, signed, whole, fraction, exponent, integral, fractional, exponential, rfl⟩ := number
  have skipped := digitsSkipped integral fractional exponential stop
  simp only [List.mem_cons, List.not_mem_nil, or_false] at signed
  simp only [List.append_assoc]
  rcases signed with rfl | rfl
  · unfold skip
    split
    · next same =>
      obtain ⟨c, more, rfl, digit⟩ := integerStarts integral
      obtain ⟨rfl, _⟩ := List.cons.inj same
      exact absurd digit (by decide)
    · exact skipped
  · exact skipped

end Number

/- Scalars -/

theorem wordRead (word rest : List Char) : readWord word (word ++ rest) = .ok rest := by
  induction word with
  | nil => cases rest <;> rfl
  | cons c more ih => rw [List.cons_append, readWord, if_pos rfl, ih]

theorem scalarSkipped {s : List Char} (scalar : IsScalar s) {rest : List Char} (stop : IsEnd rest) :
    ∃ c more, s = c :: more ∧ skipScalar c (more ++ rest) = .ok rest ∧ isSpace c = false ∧
      c ∉ ['[', '\x7b', ']'] := by
  rcases scalar with word | ⟨written, text, rfl⟩ | number
  · simp only [List.mem_cons, List.not_mem_nil, or_false] at word
    rcases word with rfl | rfl | rfl
    · exact ⟨'n', ['u', 'l', 'l'], rfl, wordRead _ rest, by decide, by decide⟩
    · exact ⟨'t', ['r', 'u', 'e'], rfl, wordRead _ rest, by decide, by decide⟩
    · exact ⟨'f', ['a', 'l', 's', 'e'], rfl, wordRead _ rest, by decide, by decide⟩
  · refine ⟨'"', written ++ ['"'], rfl, ?_, by decide, by decide⟩
    rw [List.append_assoc]
    exact Text.textSkipped text rest
  · have skipped := Number.numberSkipped number stop
    obtain ⟨c, more, rfl, first⟩ := Number.numberStarts number
    have each : ∀ d ∈ [' ', '\t', '\n', '\r', 'n', 't', 'f', '"', '[', '\x7b', ']'], d ≠ '-' ∧ isDigit d = false := by
      simp [isDigit]
    have other : c ∉ [' ', '\t', '\n', '\r', 'n', 't', 'f', '"', '[', '\x7b', ']'] := fun member => by
      simp [(each c member).1, (each c member).2] at first
    simp only [List.mem_cons, List.not_mem_nil, or_false, not_or] at other
    refine ⟨c, more, rfl, ?_, by simp [isSpace, other], by simp [other]⟩
    simpa [skipScalar, other, first] using skipped

/- One step -/

theorem passedOver (s after : List Char) (brackets : List Bracket) (expect : Expect) :
    skipFrom s.length brackets expect (s ++ after) = skipFrom 0 brackets expect after := by
  induction s with
  | nil => rfl
  | cons c rest ih => exact ih

theorem scalarOver {s after text : List Char} (brackets : List Bracket) (expect : Expect) (whole : text = s ++ after) :
    skipFrom (text.length - after.length) brackets expect text = skipFrom 0 brackets expect after := by
  subst whole
  rw [List.length_append, Nat.add_sub_cancel, passedOver]

theorem spaceStep {brackets : List Bracket} {expect : Expect} (inside : brackets ≠ [] ∨ expect ≠ .more) {c : Char}
    (space : isSpace c = true) (rest : List Char) :
    skipFrom 0 brackets expect (c :: rest) = skipFrom 0 brackets expect rest := by
  cases brackets with
  | nil => cases expect <;> simp at inside <;> exact if_pos space
  | cons bracket outer => cases bracket <;> cases expect <;> exact if_pos space

theorem spacesOver {brackets : List Bracket} {expect : Expect} (inside : brackets ≠ [] ∨ expect ≠ .more)
    {s : List Char} (spaces : IsSpaces s) (rest : List Char) :
    skipFrom 0 brackets expect (s ++ rest) = skipFrom 0 brackets expect rest := by
  induction s with
  | nil => rfl
  | cons c more ih =>
    rw [List.cons_append, spaceStep inside (spaces c List.mem_cons_self),
      ih fun d member => spaces d (List.mem_cons_of_mem _ member)]

theorem commaStep (bracket : Bracket) (outer : List Bracket) (rest : List Char) :
    skipFrom 0 (bracket :: outer) .more (',' :: rest) = skipFrom 0 (bracket :: outer) (entry bracket) rest := by
  cases bracket <;> rfl

theorem closeStep (bracket : Bracket) {expect : Expect} (stops : expect = .more ∨ expect = .first)
    (outer : List Bracket) (rest : List Char) :
    skipFrom 0 (bracket :: outer) expect (closing bracket :: rest) = skipFrom 0 outer .more rest := by
  rcases stops with rfl | rfl <;> cases bracket <;> rfl

theorem colonStep (brackets : List Bracket) (rest : List Char) :
    skipFrom 0 brackets .colon (':' :: rest) = skipFrom 0 brackets .value rest := by
  cases brackets with
  | nil => rfl
  | cons bracket _ => cases bracket <;> rfl

theorem keyStep {expect : Expect} (takes : expect = .first ∨ expect = .key) {outer : List Bracket}
    {rest after : List Char} (skipped : Text.skip rest = .ok after) :
    skipFrom 0 (.object :: outer) expect ('"' :: rest) =
      skipFrom (rest.length - after.length) (.object :: outer) .colon rest := by
  have step : skipFrom 0 (.object :: outer) expect ('"' :: rest) =
      (Text.skip rest).bind fun after => skipFrom (rest.length - after.length) (.object :: outer) .colon rest := by
    rcases takes with rfl | rfl <;> rfl
  rw [step, skipped]
  rfl

/-- A value can start here: where one is due, or else right behind the bracket of a list. -/
def TakesValue (brackets : List Bracket) (expect : Expect) : Prop :=
  expect = .value ∨ expect = .first ∧ brackets.head? = some .list

theorem valueStep {brackets : List Bracket} {expect : Expect} (takes : TakesValue brackets expect) (c : Char)
    (rest : List Char) : skipFrom 0 brackets expect (c :: rest) =
      if isSpace c then skipFrom 0 brackets expect rest
      else if c = '[' then skipFrom 0 (.list :: brackets) .first rest
      else if c = '\x7b' then skipFrom 0 (.object :: brackets) .first rest
      else if c = ']' && expect = .first then skipFrom 0 brackets.tail .more rest
      else (skipScalar c rest).bind fun after => skipFrom (rest.length - after.length) brackets .more rest := by
  rcases takes with rfl | ⟨rfl, list⟩
  · rcases brackets with _ | ⟨inner, outer⟩
    · rfl
    · cases inner <;> rfl
  · rcases brackets with _ | ⟨inner, outer⟩
    · cases list
    · obtain rfl := Option.some.inj list
      rfl

theorem openStep {brackets : List Bracket} {expect : Expect} (takes : TakesValue brackets expect) (bracket : Bracket)
    (rest : List Char) :
    skipFrom 0 brackets expect (opening bracket :: rest) = skipFrom 0 (bracket :: brackets) .first rest := by
  rw [valueStep takes]
  cases bracket <;> rfl

theorem scalarStep {brackets : List Bracket} {expect : Expect} (takes : TakesValue brackets expect) {c : Char}
    (unspaced : isSpace c = false) (plain : c ∉ ['[', '\x7b', ']']) {rest after : List Char}
    (skipped : skipScalar c rest = .ok after) :
    skipFrom 0 brackets expect (c :: rest) = skipFrom (rest.length - after.length) brackets .more rest := by
  simp only [List.mem_cons, List.not_mem_nil, or_false, not_or] at plain
  obtain ⟨list, object, ends⟩ := plain
  rw [valueStep takes, skipped]
  simp [unspaced, list, object, ends, Except.bind]

/- Values -/

theorem labelOver {bracket : Bracket} {label : List Char} (labelled : IsLabel bracket label) {expect : Expect}
    (takes : expect = .first ∨ expect = entry bracket) (outer : List Bracket) :
    ∃ next, TakesValue (bracket :: outer) next ∧ ∀ rest,
      skipFrom 0 (bracket :: outer) expect (label ++ rest) = skipFrom 0 (bracket :: outer) next rest := by
  cases bracket with
  | list =>
    obtain rfl : label = [] := labelled
    exact ⟨expect, takes.symm.imp_right (⟨·, rfl⟩), fun _ => rfl⟩
  | object =>
    obtain ⟨_, before, after, ⟨written, text, rfl⟩, lead, trail, rfl⟩ := labelled
    refine ⟨.value, .inl rfl, fun rest => ?_⟩
    have name := Text.textSkipped text (before ++ ':' :: (after ++ rest))
    simp only [List.cons_append, List.append_assoc, List.nil_append]
    rw [keyStep takes name, scalarOver _ _ (List.append_cons _ _ _), spacesOver (.inl (by simp)) lead, colonStep,
      spacesOver (.inl (by simp)) trail]

def Over : Part → List Char → Prop
  | .value, s => ∀ brackets expect rest, TakesValue brackets expect → IsEnd rest →
    skipFrom 0 brackets expect (s ++ rest) = skipFrom 0 brackets .more rest
  | .items bracket, s => ∀ outer expect rest, expect = .first ∨ expect = entry bracket →
    skipFrom 0 (bracket :: outer) expect (s ++ closing bracket :: rest) = skipFrom 0 outer .more rest

theorem writtenOver {part : Part} {s : List Char} (written : IsWritten part s) : Over part s := by
  -- the brackets around a value are any, so what holds inside of it is known at every depth
  induction written with
  | scalar plain =>
    intro brackets expect rest takes stop
    obtain ⟨c, more, rfl, skipped, unspaced, other⟩ := scalarSkipped plain stop
    rw [List.cons_append, scalarStep takes unspaced other skipped, scalarOver _ _ rfl]
  | empty spaces =>
    intro brackets expect rest takes stop
    rw [List.cons_append, openStep takes, List.append_assoc, spacesOver (.inl (by simp)) spaces, List.singleton_append,
      closeStep _ (.inr rfl)]
  | filled _ ih =>
    intro brackets expect rest takes stop
    rw [List.cons_append, openStep takes, List.append_assoc, List.singleton_append]
    exact ih _ _ _ (.inl rfl)
  | @last bracket before label value after lead labelled _ trail ih =>
    intro outer expect rest takes
    obtain ⟨next, ready, passed⟩ := labelOver labelled takes outer
    simp only [List.append_assoc]
    rw [spacesOver (.inl (by simp)) lead, passed, ih _ _ _ ready (endSpaces trail (by cases bracket <;> decide) _),
      spacesOver (.inl (by simp)) trail, closeStep _ (.inl rfl)]
  | @more bracket before label value after others lead labelled _ trail _ ih later =>
    intro outer expect rest takes
    obtain ⟨next, ready, passed⟩ := labelOver labelled takes outer
    simp only [List.append_assoc, List.cons_append]
    rw [spacesOver (.inl (by simp)) lead, passed, ih _ _ _ ready (endSpaces trail (by decide) _),
      spacesOver (.inl (by simp)) trail, commaStep]
    exact later _ _ _ (.inr rfl)

theorem valueSkipped {s : List Char} (written : IsWritten .value s) {rest : List Char} (stop : IsEnd rest) :
    skipValue (s ++ rest) = .ok rest := by
  rw [skipValue, writtenOver written [] .value rest (.inl rfl) stop]
  cases rest <;> rfl

end ClassScaffold.Json
