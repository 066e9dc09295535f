import ClassScaffold.Proofs.Request.Draft
import ClassScaffold.Request.Printer
import ClassScaffold.Request.Text
import Mathlib.Data.List.Forall2
/-! A printed request is one of the texts that write it. The printer escapes what it has to and puts in no white
space, so every part of what it prints is written in one of the ways that are read. -/
namespace ClassScaffold.Json.Printer

theorem noSpaces : IsSpaces [] := by simp [IsSpaces]

theorem escapeWrites (c : Char) : WritesChar c (escape c) := by
  unfold escape
  split
  · exact .short (by decide)
  · exact .short (by decide)
  · exact .short (by decide)
  · exact .short (by decide)
  · exact .short (by decide)
  · exact .short (by decide)
  · exact .short (by decide)
  · next quote backslash _ _ _ _ _ =>
    split
    · next control =>
      have digits : ∀ n < 0x20, WritesUnit n ['0', '0', Nat.digitChar (n / 16), Nat.digitChar (n % 16)] := by
        unfold WritesUnit
        decide
      exact .unit (digits _ control)
    · next printed => exact .plain (by omega) quote backslash

theorem stringWrites (s : String) : WritesString s (string s).toList := by
  refine ⟨s.toList.flatMap escape, ?_, by simp [string]⟩
  induction s.toList with
  | nil => exact .nil
  | cons c rest ih => exact .cons (escapeWrites c) ih

variable {α : Type} {item : α → List Char → Prop}

theorem itemsWrite {xs : List α} {texts : List (List Char)} (each : List.Forall₂ item xs texts) (some : xs ≠ []) :
    WritesItems item xs ([','].intercalate texts) := by
  induction each with
  | nil => contradiction
  | @cons x text xs texts first rest ih =>
    cases rest with
    | nil => simpa using WritesItems.last noSpaces first noSpaces
    | cons second others =>
      rw [List.intercalate_cons_cons]
      simpa using WritesItems.more noSpaces first noSpaces (ih (by simp))

theorem listWrites (bracket : Bracket) {xs : List α} {texts : List (List Char)} (each : List.Forall₂ item xs texts) :
    WritesList bracket item xs (opening bracket :: ([','].intercalate texts ++ [closing bracket])) := by
  cases each with
  | nil => exact .empty noSpaces
  | cons first rest => exact .filled (itemsWrite (.cons first rest) (by simp))

theorem arrayWrites (text : α → String) {xs : List α} (each : ∀ x ∈ xs, item x (text x).toList) :
    WritesList .list item xs (array (xs.map text)).toList := by
  have pairs : List.Forall₂ item xs (xs.map fun x => (text x).toList) :=
    List.forall₂_map_right_iff.2 (List.forall₂_same.2 each)
  have written := listWrites .list pairs
  simpa [array, opening, closing, String.toList_intercalate, Function.comp_def] using written

theorem objectWrites (members : List (String × String)) :
    WritesList .object WritesMember (members.map (Prod.map id String.toList)) (object members).toList := by
  have each : ∀ m ∈ members, WritesMember (Prod.map id String.toList m) (member m).toList := fun m _ =>
    ⟨_, [], [], stringWrites m.1, noSpaces, noSpaces, by simp [member]⟩
  have pairs : List.Forall₂ WritesMember (members.map (Prod.map id String.toList))
      (members.map fun m => (member m).toList) :=
    List.forall₂_map_left_iff.2 (List.forall₂_map_right_iff.2 (List.forall₂_same.2 each))
  have written := listWrites .object pairs
  simpa [object, opening, closing, String.toList_intercalate, Function.comp_def] using written

end ClassScaffold.Json.Printer

namespace ClassScaffold.Request
open Json.Printer
open ClassScaffold.Json (IsDigits IsNumber IsSpaces IsWritten WritesMember WritesUnit isDigit)

theorem stringsWrite (xs : List String) : WritesStrings xs (strings xs).toList :=
  arrayWrites string fun s _ => stringWrites s

theorem classWrites (c : ClassModel) : WritesClass c c.toJson.toList := by
  refine ⟨_, ⟨?_, ?_, ?_, ?_⟩, objectWrites _⟩
  · exact stringsWrite c.name
  · exact stringsWrite c.attributes
  · exact stringsWrite c.methods
  · simp

theorem nameWrites (name : Option String) : WritesName name (nameToJson name).toList := by
  cases name with
  | none => rfl
  | some s => exact stringWrites s

theorem jsonWrites (r : Request) : r.IsWrittenAs r.toJson.toList := by
  have printed := objectWrites [("projectName", nameToJson r.projectName), ("packageName", nameToJson r.packageName),
    ("classes", array (r.classes.map ClassModel.toJson))]
  refine ⟨[], _, _, [], noSpaces, ⟨?_, ?_, ?_, ?_⟩, printed, noSpaces, by simp [toJson]⟩
  · exact nameWrites r.projectName
  · exact nameWrites r.packageName
  · exact arrayWrites ClassModel.toJson fun c _ => classWrites c
  · simp

/-- Every text that writes a request as an object is read as that request, and so is the text that it is printed
as. -/
theorem jsonReads (r : Request) :
    (∀ text : String, r.IsWrittenAs text.toList → ofText .json text = .ok r) ∧ ofText .json r.toJson = .ok r := by
  have reads (text : String) (written : r.IsWrittenAs text.toList) : ofText .json text = .ok r := by
    rw [ofText, Json.readWritten written]
    rfl
  exact ⟨reads, reads _ (jsonWrites r)⟩

/-- A name that is escaped, behind a member that tells nothing. -/
def escapedText : String := "\x7b\"id\":[-1.5e+2], \"projectName\":\"\\u0041\"\x7d"

theorem escapedWrites : IsWrittenAs ⟨some "A", none, []⟩ escapedText.toList := by
  have digit {c : Char} (is : isDigit c = true) : IsDigits [c] := by simp [IsDigits, is]
  have number : IsNumber "-1.5e+2".toList :=
    ⟨['-'], by decide, ['1'], ['.', '5'], ['e', '+', '2'], .inr ⟨digit rfl, by decide⟩, .inr ⟨['5'], digit rfl, rfl⟩,
      .inr ⟨'e', by decide, ['+'], by decide, ['2'], digit rfl, rfl⟩, rfl⟩
  have list : IsWritten .value "[-1.5e+2]".toList :=
    @IsWritten.filled .list _ (.last noSpaces rfl (.scalar (.inr (.inr number))) noSpaces)
  have letter : WritesUnit 'A'.toNat "0041".toList := ⟨by decide, by decide⟩
  have name : WritesName (some "A") "\"\\u0041\"".toList := ⟨_, .cons (.unit letter) .nil, rfl⟩
  have first : WritesMember ("id", "[-1.5e+2]".toList) "\"id\":[-1.5e+2]".toList :=
    ⟨_, [], [], stringWrites "id", noSpaces, noSpaces, rfl⟩
  have second : WritesMember ("projectName", "\"\\u0041\"".toList) "\"projectName\":\"\\u0041\"".toList :=
    ⟨_, [], [], stringWrites "projectName", noSpaces, noSpaces, rfl⟩
  have space : IsSpaces [' '] := by simp [IsSpaces, Json.isSpace]
  exact ⟨[], [("id", "[-1.5e+2]".toList), ("projectName", "\"\\u0041\"".toList)], _, [], noSpaces,
    ⟨name, rfl, rfl, by simpa using list⟩, .filled (.more noSpaces first noSpaces (.last space second noSpaces)),
    noSpaces, rfl⟩

theorem jsonReadsEscaped : IsWrittenAs ⟨some "A", none, []⟩ escapedText.toList ∧
    ofText .json escapedText = .ok ⟨some "A", none, []⟩ :=
  ⟨escapedWrites, (jsonReads _).1 _ escapedWrites⟩

end ClassScaffold.Request
