import ClassScaffold.Proofs.Text.Blank
import ClassScaffold.Proofs.Text.Split
import Mathlib.Data.List.Basic
import Mathlib.Data.List.TakeWhile
/-! What a Java source declares: its package in the first line, and its type behind the first line start that
has a word for one. A name of a package ends at a dot, the name of a type at white space. -/
namespace ClassScaffold.Java
open Text (isBlank splitAt trimStart)

def packageWord : List Char := "package ".toList

def firstLine (s : List Char) : List Char := s.takeWhile (· != '\n')

def packageOf (text : String) : Option (List String) :=
  ((packageWord.isPrefixOf? (firstLine text.toList)).bind [';'].isSuffixOf?).map fun name =>
    (splitAt '.' name).map String.ofList

def typeWords : List (List Char) := ["public class ".toList, "public interface ".toList, "class ".toList]

/-- What follows the first of the words that starts a line. -/
def declaration (lineStart : Bool) : List Char → Option (List Char)
  | [] => none
  | c :: rest =>
    match if lineStart then typeWords.findSome? (·.isPrefixOf? (c :: rest)) else none with
    | some behind => some behind
    | none => declaration (c == '\n') rest

def typeOf (text : String) : Option String :=
  (declaration true text.toList).map fun behind =>
    String.ofList ((trimStart behind).takeWhile fun c => !isBlank c)

/- The package -/

def IsPlainName (name : String) : Prop := '.' ∉ name.toList ∧ '\n' ∉ name.toList
instance (name) : Decidable (IsPlainName name) := by unfold IsPlainName; infer_instance

theorem packageOfPlain {text : String} {names : List String} (read : packageOf text = some names) :
    ∀ name ∈ names, IsPlainName name := by
  obtain ⟨whole, read, same⟩ := Option.map_eq_some_iff.1 read
  obtain ⟨line, start, stop⟩ := Option.bind_eq_some_iff.1 read
  rw [List.isPrefixOf?_eq_some_iff_append_eq] at start
  rw [List.isSuffixOf?_eq_some_iff_append_eq] at stop
  subst same
  intro name member
  obtain ⟨piece, inside, rfl⟩ := List.mem_map.1 member
  refine ⟨by simpa using Text.splitAtAbsent inside, fun newline => ?_⟩
  have inWhole : '\n' ∈ whole := Text.splitAtWithin inside (by simpa using newline)
  have inLine : '\n' ∈ firstLine text.toList := by simp [← start, ← stop, inWhole]
  simpa using List.mem_takeWhile_imp inLine

theorem dottedText (names : List String) :
    (".".intercalate names).toList = ['.'].intercalate (names.map String.toList) := String.toList_intercalate

theorem dottedLine {names : List String} (plain : ∀ name ∈ names, IsPlainName name) :
    '\n' ∉ (".".intercalate names).toList := by
  rw [dottedText]
  refine Text.intercalateAbsent (by decide) fun part member => ?_
  obtain ⟨name, inside, rfl⟩ := List.mem_map.1 member
  exact (plain name inside).2

theorem packageOfRead {text : String} {names : List String} (some : names ≠ [])
    (plain : ∀ name ∈ names, IsPlainName name) (rest : List Char)
    (head : text.toList = packageWord ++ (".".intercalate names).toList ++ ";\n".toList ++ rest) :
    packageOf text = Option.some names := by
  have line : firstLine text.toList = packageWord ++ ((".".intercalate names).toList ++ [';']) := by
    have cut : text.toList = (packageWord ++ ((".".intercalate names).toList ++ [';'])) ++ '\n' :: rest := by
      simp [head]
    have whole : ∀ c ∈ packageWord ++ ((".".intercalate names).toList ++ [';']), (c != '\n') = true := by
      have word : '\n' ∉ packageWord := by decide
      have absent : '\n' ∉ packageWord ++ ((".".intercalate names).toList ++ [';']) := by
        simp only [List.mem_append, word, dottedLine plain, false_or]
        decide
      intro c member
      simpa using fun same : c = '\n' => absent (same ▸ member)
    rw [firstLine, cut, List.takeWhile_append_of_pos whole]
    simp
  have split : splitAt '.' (".".intercalate names).toList = names.map String.toList := by
    rw [dottedText]
    refine Text.splitAtIntercalate (by simpa using some) fun part member => ?_
    obtain ⟨name, inside, rfl⟩ := List.mem_map.1 member
    exact (plain name inside).1
  rw [packageOf, line, List.isPrefixOf?_eq_some_iff_append_eq.2 rfl, Option.bind_some,
    List.isSuffixOf?_eq_some_iff_append_eq.2 rfl, Option.map_some, split]
  simp

/- The type -/

/-- White space at the start of a type does not count, as it stands behind the word for the type. -/
def IsPlainType (type : String) : Prop := ∀ c ∈ trimStart type.toList, isBlank c = false
instance (type) : Decidable (IsPlainType type) := List.decidableBAll _ _

theorem typeOfPlain {text type : String} (read : typeOf text = some type) :
    ∀ c ∈ type.toList, isBlank c = false := by
  obtain ⟨behind, _, rfl⟩ := Option.map_eq_some_iff.1 read
  intro c member
  rw [String.toList_ofList] at member
  simpa using List.mem_takeWhile_imp member

/-- Reading goes on behind the text and has met no type in it. -/
def Passes (start : Bool) (s : List Char) (stop : Bool) : Prop :=
  ∀ rest, declaration start (s ++ rest) = declaration stop rest

theorem passesTrans {a b c : Bool} {s t : List Char} (first : Passes a s b) (next : Passes b t c) :
    Passes a (s ++ t) c := by
  intro rest
  rw [List.append_assoc, first, next]

theorem passesInLine {s : List Char} (absent : '\n' ∉ s) : Passes false s false := by
  intro rest
  induction s with
  | nil => rfl
  | cons c cs ih =>
    have other : (c == '\n') = false := by simpa using fun same : c = '\n' => absent (by simp [same])
    have tail := ih fun h => absent (List.mem_cons_of_mem _ h)
    simpa [declaration, other] using tail

/-- Where reading stands behind a text, as long as no line of it starts like one of the words. -/
def scan (start : Bool) : List Char → Option Bool
  | [] => some start
  | c :: rest => if start && (c == 'p' || c == 'c') then none else scan (c == '\n') rest

theorem noWord {c : Char} {s : List Char} (p : c ≠ 'p') (l : c ≠ 'c') :
    typeWords.findSome? (·.isPrefixOf? (c :: s)) = none := by
  have p : ('p' == c) = false := by simpa using Ne.symm p
  have l : ('c' == c) = false := by simpa using Ne.symm l
  simp [typeWords, List.isPrefixOf?, p, l]

theorem scanPasses {start stop : Bool} {s : List Char} (ok : scan start s = some stop) :
    Passes start s stop := by
  intro rest
  induction s generalizing start with
  | nil =>
    cases ok
    rfl
  | cons c cs ih =>
    simp only [scan] at ok
    split at ok
    · contradiction
    · next quiet =>
      have none : (if start then typeWords.findSome? (·.isPrefixOf? (c :: (cs ++ rest))) else none) =
          Option.none := by
        cases start with
        | false => rfl
        | true =>
          have letters : c ≠ 'p' ∧ c ≠ 'c' := by simpa using quiet
          exact noWord letters.1 letters.2
      rw [List.cons_append, declaration, none]
      exact ih ok

theorem passesPackage {s : List Char} (absent : '\n' ∉ s) :
    Passes true (packageWord ++ s ++ ";\n".toList) true := by
  have word : Passes true packageWord false := fun _ => rfl
  have last : Passes false ";\n".toList true := scanPasses (by decide)
  exact passesTrans (passesTrans word (passesInLine absent)) last

theorem declarationWord {word : List Char} (member : word ∈ typeWords) (rest : List Char) :
    declaration true (word ++ rest) = some rest := by
  simp only [typeWords, List.mem_cons, List.not_mem_nil, or_false] at member
  rcases member with rfl | rfl | rfl <;> rfl

theorem typeOfRead {text type : String} {before word : List Char} (member : word ∈ typeWords)
    (passes : Passes true before true) (some : trimStart type.toList ≠ [])
    (plain : IsPlainType type) (rest : List Char)
    (whole : text.toList = before ++ word ++ type.toList ++ ' ' :: rest) :
    typeOf text = Option.some (String.ofList (trimStart type.toList)) := by
  have found : declaration true text.toList = Option.some (type.toList ++ ' ' :: rest) := by
    rw [whole, List.append_assoc, List.append_assoc, passes, declarationWord member]
  have start : trimStart (type.toList ++ ' ' :: rest) = trimStart type.toList ++ ' ' :: rest := by
    unfold trimStart at some ⊢
    rw [List.dropWhile_append, if_neg (by simpa using some)]
  have cut : (trimStart type.toList ++ ' ' :: rest).takeWhile (fun c => !isBlank c) =
      trimStart type.toList := by
    rw [List.takeWhile_append_of_pos fun c inside => by simp [plain c inside]]
    have blank : isBlank ' ' = true := by decide
    simp [blank]
  rw [typeOf, found, Option.map_some, start, cut]

end ClassScaffold.Java
