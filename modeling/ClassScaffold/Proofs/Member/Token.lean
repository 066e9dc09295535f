import ClassScaffold.Member
import ClassScaffold.Proofs.Text.Blank
/-! Method tokens that are read back. Whatever way a token was read, the name has no opening parenthesis and the
return type no closing one, so the method written as a token is cut at the same places and reads as itself. -/
namespace ClassScaffold.Method
open Text (IsTrimmed cutFirstAt cutFirstSource cutLastAt cutLastSource trim trimFixed trimIsTrimmed trimStart
  trimWithin trimmed)
open Member (body typeOr)

/- Tokens with both parentheses and a colon -/

theorem splitReturnMarked (before : List Char) {type : List Char} (closes : ')' ∉ type) :
    splitReturn (before ++ ')' :: ':' :: type) = (before ++ [')'], trim type) := by
  have absent : ')' ∉ ':' :: type := by simpa using closes
  have start : trimStart (':' :: type) = ':' :: type := List.dropWhile_cons_of_neg (by decide)
  simp [splitReturn, cutLastAt absent, start]

theorem splitSignatureListed {name : List Char} (opens : '(' ∉ name) (list : List Char) :
    splitSignature (name ++ '(' :: (list ++ [')'])) = (trim name, trim list) := by
  have last : Text.cutLast ')' (list ++ [')']) = some (list, []) := cutLastAt List.not_mem_nil list
  simp [splitSignature, cutFirstAt opens, last]

theorem ofTokenListed {token : String} {name list type : List Char}
    (text : body token = name ++ '(' :: (list ++ ')' :: ':' :: type)) (opens : '(' ∉ name) (closes : ')' ∉ type) :
    ofToken token = if trim name = [] then none else
      some ⟨String.ofList (trim name), String.ofList (trim list), typeOr .missingReturnType (trim type)⟩ := by
  have cut := splitReturnMarked (name ++ '(' :: list) closes
  have source : body token = name ++ '(' :: list ++ ')' :: ':' :: type := by simp [text]
  have signature : name ++ '(' :: list ++ [')'] = name ++ '(' :: (list ++ [')']) := by simp
  simp only [ofToken, source, cut, signature, splitSignatureListed opens, List.isEmpty_iff]

/- What is read from any token -/

theorem splitReturnType (s : List Char) : IsTrimmed (splitReturn s).2 ∧ ')' ∉ (splitReturn s).2 := by
  unfold splitReturn
  split
  · next before after cut =>
    refine ⟨trimIsTrimmed _, fun member => ?_⟩
    have rest : ')' ∈ trimStart after := by
      have inside := trimWithin _ member
      split at inside
      · exact List.mem_of_mem_tail inside
      · exact inside
    exact (cutLastSource cut).2 (List.dropWhile_subset _ rest)
  · next open' =>
    have absent := Text.cutLastNone.1 open'
    split
    · next signature type cut =>
      refine ⟨trimIsTrimmed _, fun member => absent ?_⟩
      rw [(cutFirstSource cut).1]
      exact List.mem_append_right _ (List.mem_cons_of_mem _ (trimWithin _ member))
    · exact ⟨⟨by simp, by simp⟩, by simp⟩

theorem splitSignatureParts (s : List Char) : IsTrimmed (splitSignature s).1 ∧ '(' ∉ (splitSignature s).1 ∧
    IsTrimmed (splitSignature s).2 := by
  unfold splitSignature
  split
  · next name rest cut =>
    have absent : '(' ∉ trim name := fun member => (cutFirstSource cut).2 (trimWithin _ member)
    split <;> exact ⟨trimIsTrimmed _, absent, trimIsTrimmed _⟩
  · next uncut =>
    exact ⟨trimIsTrimmed _, fun member => Text.cutFirstNone.1 uncut (trimWithin _ member), by simp, by simp⟩

structure IsRead (m : Method) : Prop where
  name : IsTrimmed m.identifier.toList
  named : m.identifier.toList ≠ []
  opens : '(' ∉ m.identifier.toList
  list : IsTrimmed m.parameterList.toList
  type : IsTrimmed m.returnType.toList
  typed : m.returnType.toList ≠ []
  closes : ')' ∉ m.returnType.toList

theorem typeOrRead {type : List Char} (trimmed : IsTrimmed type) (closes : ')' ∉ type) :
    IsTrimmed (typeOr .missingReturnType type).toList ∧ (typeOr .missingReturnType type).toList ≠ [] ∧
      ')' ∉ (typeOr .missingReturnType type).toList := by
  unfold typeOr
  split
  · have void : Anomaly.missingReturnType.substitute.toList = ['v', 'o', 'i', 'd'] := by decide
    rw [void]
    exact ⟨⟨by simp; decide, by simp; decide⟩, by simp, by simp⟩
  · next filled => simpa using ⟨trimmed, by simpa using filled, closes⟩

theorem ofTokenRead {token : String} {m : Method} (read : ofToken token = some m) : m.IsRead := by
  obtain ⟨type, closes⟩ := splitReturnType (body token)
  obtain ⟨name, opens, list⟩ := splitSignatureParts (splitReturn (body token)).1
  obtain ⟨typeKept, typed, closesKept⟩ := typeOrRead type closes
  simp only [ofToken] at read
  split at read
  · contradiction
  · next named =>
    cases read
    have named : (splitSignature (splitReturn (body token)).1).1 ≠ [] := by simpa using named
    exact ⟨by simpa using name, by simpa using named, by simpa using opens, by simpa using list, typeKept, typed,
      closesKept⟩

theorem tokenReads {m : Method} (read : m.IsRead) : ofToken m.token = some m := by
  have text : body m.token =
      m.identifier.toList ++ '(' :: (m.parameterList.toList ++ ')' :: ':' :: m.returnType.toList) := by
    simp [body, Member.markerLength, token]
  rw [ofTokenListed text read.opens read.closes, trimFixed read.name, trimFixed read.list, trimFixed read.type,
    if_neg read.named, typeOr, if_neg (by simpa using read.typed)]
  simp

/-- Tokens that are written out in full are read as they are written, and what was read from any token can be
written out and read again. -/
theorem tokensReadBack :
    (∀ marker name list type : String, marker.length = 2 → '(' ∉ name.toList → ')' ∉ type.toList →
      ofToken (marker ++ name ++ "(" ++ list ++ "):" ++ type) =
        if trimmed name = "" then none
        else some ⟨trimmed name, trimmed list, if trimmed type = "" then "void" else trimmed type⟩) ∧
    ∀ token m, ofToken token = some m → ofToken m.token = some m := by
  refine ⟨fun marker name list type two opens closes => ?_, fun token m read => tokenReads (ofTokenRead read)⟩
  have text : body (marker ++ name ++ "(" ++ list ++ "):" ++ type) =
      name.toList ++ '(' :: (list.toList ++ ')' :: ':' :: type.toList) := by
    have cut : (marker.toList ++ (name ++ "(" ++ list ++ "):" ++ type).toList).drop 2 =
        (name ++ "(" ++ list ++ "):" ++ type).toList := List.drop_left' (String.length_toList.trans two)
    simpa [body, Member.markerLength] using cut
  have blank (s : String) : trimmed s = "" ↔ trim s.toList = [] := by simp [trimmed]
  rw [ofTokenListed text opens closes]
  simp only [typeOr, List.isEmpty_iff, blank]
  rfl

theorem tokensReadBackNested :
    ofToken ("- " ++ " place " ++ "(" ++ "f(a:int):b, c" ++ "):" ++ " ") = some ⟨"place", "f(a:int):b, c", "void"⟩ ∧
    ofToken "- a):b" = some ⟨"a)", "", "b"⟩ ∧ ofToken (token ⟨"a)", "", "b"⟩) = some ⟨"a)", "", "b"⟩ := by
  have listed := tokensReadBack.1 "- " " place " "f(a:int):b, c" " " (by decide) (by decide) (by decide)
  have read : ofToken "- a):b" = some ⟨"a)", "", "b"⟩ := by decide +kernel
  exact ⟨listed.trans (by decide +kernel), read, tokensReadBack.2 _ _ read⟩

end ClassScaffold.Method
