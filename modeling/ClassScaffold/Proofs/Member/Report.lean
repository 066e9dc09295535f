import ClassScaffold.Command.Validate
import ClassScaffold.Layer.Model
import ClassScaffold.Proofs.Java.Type
/-! What is reported of the tokens of a class is what became of them: a token is reported just when it is dropped,
when a type of it is replaced by a default, or when a type that is written stands in no table. A type that is
blank counts as not written. -/
namespace ClassScaffold
open Member (body)
open Text (AllBlank cutFirst cutFirstAt cutLastAt trim trimStart trimPadded)

/- What is written -/

inductive Member.BehindColon : List Char → List Char → Prop
  | marked {before type} (first : ':' ∉ before) : BehindColon (before ++ ':' :: type) type
  | bare {s} (absent : ':' ∉ s) : BehindColon s []

/-- The text for the return type: behind the last closing parenthesis, less a colon that it starts with; without
such a parenthesis, behind the first colon. -/
inductive Method.Returns : List Char → List Char → Prop
  | marked {before gap type} (last : ')' ∉ type) (blank : AllBlank gap) :
    Returns (before ++ ')' :: (gap ++ ':' :: type)) type
  | bare {before type} (last : ')' ∉ type) (unmarked : ∀ gap rest, AllBlank gap → type ≠ gap ++ ':' :: rest) :
    Returns (before ++ ')' :: type) type
  | unclosed {s type} (absent : ')' ∉ s) (behind : Member.BehindColon s type) : Returns s type

/-- The types that are written for a method, as its stub shows them. -/
inductive Method.Writes (token : String) (m : Method) : String → Prop
  | returned {type} (returns : Returns (body token) type) (filled : ¬ AllBlank type) :
    Writes token m (String.ofList (trim type))
  | parameter {p type} (member : p ∈ m.parameters) (declared : p.declaredType = some type)
    (filled : ¬ AllBlank type.toList) : Writes token m type

inductive ClassModel.Writes (c : ClassModel) : String → Prop
  | field {token type} (member : token ∈ c.attributes) (behind : Member.BehindColon (body token) type)
    (filled : ¬ AllBlank type) : Writes c (String.ofList (trim type))
  | method {token m type} (member : token ∈ c.methods) (read : Method.ofToken token = some m)
    (writes : m.Writes token type) : Writes c type

theorem Text.trimBlank {s : List Char} : AllBlank (trim s) ↔ AllBlank s := by
  rw [← Text.trimNothing, ← Text.trimNothing, Text.trimFixed (Text.trimIsTrimmed s)]

/- What is reported -/

theorem Anomaly.silentIff {a b : Anomaly} {reported : List Anomaly} (only : ∀ x ∈ reported, x = a ∨ x = b) :
    reported = [] ↔ a ∉ reported ∧ b ∉ reported := by
  rw [List.eq_nil_iff_forall_not_mem]
  exact ⟨fun none => ⟨none a, none b⟩, fun absent x member => by
    rcases only x member with rfl | rfl
    · exact absent.1 member
    · exact absent.2 member⟩

theorem Anomaly.flagged {missing other : Anomaly} (apart : missing ≠ other) (absent unknown : Bool)
    {reported : List Anomaly}
    (list : reported = (if absent then [missing] else []) ++ if unknown then [other] else []) :
    reported.Nodup ∧ (∀ a ∈ reported, a = missing ∨ a = other) ∧ (missing ∈ reported ↔ absent = true) ∧
      (other ∈ reported ↔ unknown = true) := by
  subst list
  cases absent <;> cases unknown <;> simp [apart, apart.symm]

/- Types in the place of a missing one -/

namespace Member

variable {missing : Anomaly} {type : List Char}

theorem bareIff : (trim type).isEmpty = true ↔ AllBlank type := List.isEmpty_iff.trans Text.trimNothing

theorem typeOrBlank (blank : AllBlank type) : typeOr missing (trim type) = missing.substitute := by
  rw [Text.trimNothing.2 blank]
  rfl

theorem typeOrFilled (filled : ¬ AllBlank type) : typeOr missing (trim type) = String.ofList (trim type) :=
  if_neg (bareIff.not.2 filled)

theorem unknownWritten :
    (!(trim type).isEmpty && !JavaType.isKnown (typeOr missing (trim type))) = true ↔
      ¬ AllBlank type ∧ JavaType.listed? (String.ofList (trim type)) = none := by
  rw [Bool.and_eq_true, Bool.not_eq_true', Bool.not_eq_true', ← Bool.not_eq_true, bareIff]
  refine and_congr_right fun filled => ?_
  rw [typeOrFilled filled, JavaType.unknownIff, String.toList_ofList, Text.trimBlank]
  exact and_iff_right filled

end Member

/- Attributes -/

theorem Member.behindSome (s : List Char) : ∃ type, BehindColon s type := by
  cases cut : cutFirst ':' s with
  | none => exact ⟨[], .bare (Text.cutFirstNone.1 cut)⟩
  | some pieces =>
    obtain ⟨whole, first⟩ := Text.cutFirstSource cut
    exact ⟨pieces.2, whole ▸ .marked first⟩

namespace Field
open Member (BehindColon typeOr)

theorem writtenBehind {token : String} {type : List Char} (behind : BehindColon (body token) type) :
    (written token).2 = trim type := by
  unfold written
  generalize body token = s at behind
  cases behind with
  | marked first => rw [cutFirstAt first]
  | bare absent => rw [Text.cutFirstNone.2 absent]; rfl

structure Reported (token : String) (type : List Char) : Prop where
  once : (anomalies token).Nodup
  only : ∀ a ∈ anomalies token, a = .missingAttributeType ∨ a = .unknownType
  missing : .missingAttributeType ∈ anomalies token ↔ AllBlank type
  unknown : .unknownType ∈ anomalies token ↔
    ¬ AllBlank type ∧ JavaType.listed? (ofToken token).declaredType = none
  substituted : AllBlank type → (ofToken token).declaredType = "string"
  written : ¬ AllBlank type → (ofToken token).declaredType = String.ofList (trim type)
  kept : .unknownType ∈ anomalies token → (ofToken token).javaType = (ofToken token).declaredType

theorem declaredBehind {token : String} {type : List Char} (behind : BehindColon (body token) type) :
    (ofToken token).declaredType = typeOr .missingAttributeType (trim type) := by
  rw [← writtenBehind behind]
  rfl

theorem anomaliesBehind {token : String} {type : List Char} (behind : BehindColon (body token) type) :
    anomalies token = (if (trim type).isEmpty then [.missingAttributeType] else []) ++
      if !(trim type).isEmpty && !JavaType.isKnown (typeOr .missingAttributeType (trim type)) then [.unknownType]
      else [] := by
  simp only [anomalies, writtenBehind behind]
  by_cases blank : AllBlank type
  · simp [Text.trimNothing.2 blank]
  · have filled : (trim type).isEmpty = false := by simpa only [Bool.not_eq_true] using Member.bareIff.not.2 blank
    rw [Member.typeOrFilled blank, filled]
    generalize JavaType.isKnown (String.ofList (trim type)) = known
    cases known <;> simp

theorem fieldReported {token : String} {type : List Char} (behind : BehindColon (body token) type) :
    Reported token type := by
  obtain ⟨once, only, missing, unknown⟩ := Anomaly.flagged (by decide) _ _ (anomaliesBehind behind)
  have unlisted := unknown.trans Member.unknownWritten
  have declared := declaredBehind behind
  have written (filled : ¬ AllBlank type) : (ofToken token).declaredType = String.ofList (trim type) :=
    declared.trans (Member.typeOrFilled filled)
  refine ⟨once, only, missing.trans Member.bareIff, unlisted.trans (and_congr_right fun filled => ?_),
    fun blank => declared.trans (Member.typeOrBlank blank), written, fun reported => ?_⟩
  · rw [written filled]
  · obtain ⟨filled, other⟩ := unlisted.1 reported
    rw [javaType, written filled]
    exact JavaType.unlistedKept (by simpa using Text.trimBlank.not.2 filled) other

theorem fieldSilent {token : String} {type : List Char} (behind : BehindColon (body token) type) :
    anomalies token = [] ↔ ¬ AllBlank type ∧ JavaType.listed? (String.ofList (trim type)) ≠ none := by
  have reported := fieldReported behind
  rw [Anomaly.silentIff reported.only, reported.missing, reported.unknown]
  refine and_congr_right fun filled => ?_
  rw [reported.written filled]
  simp [filled]

end Field

/- Methods -/

namespace Method
open Member (typeOr)

theorem splitReturns {s type : List Char} (returns : Returns s type) : (splitReturn s).2 = trim type := by
  cases returns with
  | @marked before gap type last blank =>
    have absent : ')' ∉ gap ++ ':' :: type := by
      have apart : ')' ∉ gap := fun member => absurd (blank _ member) (by decide)
      simp [apart, last]
    have start : trimStart (gap ++ ':' :: type) = ':' :: type := by
      rw [Text.trimStartPadded blank]
      exact List.dropWhile_cons_of_neg (by decide)
    simp [splitReturn, cutLastAt absent, start]
  | @bare before type last unmarked =>
    let gap := type.takeWhile Text.isBlank
    have blank : AllBlank gap := fun c => List.mem_takeWhile_imp
    have whole : gap ++ trimStart type = type := List.takeWhile_append_dropWhile
    have unmarked : (trimStart type).head? ≠ some ':' := fun head => by
      obtain ⟨rest, same⟩ := List.head?_eq_some_iff.1 head
      exact unmarked gap rest blank (same ▸ whole.symm)
    have padded : Text.IsPadded (trimStart type) type := ⟨gap, [], blank, by simp [AllBlank], by simp [whole]⟩
    simp [splitReturn, cutLastAt last, unmarked, trimPadded padded]
  | unclosed absent behind =>
    rw [splitReturn, Text.cutLastNone.2 absent]
    cases behind with
    | marked first => simp [cutFirstAt first]
    | bare none => simp only [Text.cutFirstNone.2 none]; rfl

theorem returnsSome (s : List Char) : ∃ type, Returns s type := by
  cases cut : Text.cutLast ')' s with
  | none =>
    obtain ⟨type, behind⟩ := Member.behindSome s
    exact ⟨type, .unclosed (Text.cutLastNone.1 cut) behind⟩
  | some pieces =>
    obtain ⟨before, after⟩ := pieces
    obtain ⟨rfl, last⟩ := Text.cutLastSource cut
    by_cases marked : ∃ gap rest, AllBlank gap ∧ after = gap ++ ':' :: rest
    · obtain ⟨gap, rest, blank, rfl⟩ := marked
      exact ⟨rest, .marked (fun member => last (by simp [member])) blank⟩
    · exact ⟨after, .bare last fun gap rest blank same => marked ⟨gap, rest, blank, same⟩⟩

variable {token : String} {m : Method} {type : List Char}

theorem returnTypeRead (read : ofToken token = some m) (returns : Returns (body token) type) :
    m.returnType = typeOr .missingReturnType (trim type) := by
  rw [← splitReturns returns]
  simp only [ofToken] at read
  split at read
  · contradiction
  · cases read
    rfl

theorem unknownParameter : m.hasUnknownParameter = true ↔
    ∃ p ∈ m.parameters, ∃ type, p.declaredType = some type ∧ ¬ AllBlank type.toList ∧
      JavaType.listed? type = none := by
  simp [hasUnknownParameter, Option.any_eq_true, JavaType.unknownIff]

theorem writesUnlisted (returns : Returns (body token) type) :
    (∃ t, m.Writes token t ∧ JavaType.listed? t = none) ↔
      (¬ AllBlank type ∧ JavaType.listed? (String.ofList (trim type)) = none) ∨ m.hasUnknownParameter = true := by
  rw [unknownParameter]
  constructor
  · rintro ⟨t, writes, unlisted⟩
    cases writes with
    | @returned other returns' filled =>
      have same : trim other = trim type := (splitReturns returns').symm.trans (splitReturns returns)
      rw [← Text.trimBlank, same, Text.trimBlank] at filled
      exact .inl ⟨filled, same ▸ unlisted⟩
    | parameter member declared filled => exact .inr ⟨_, member, t, declared, filled, unlisted⟩
  · rintro (⟨filled, unlisted⟩ | ⟨p, member, t, declared, filled, unlisted⟩)
    · exact ⟨_, .returned returns filled, unlisted⟩
    · exact ⟨t, .parameter member declared filled, unlisted⟩

structure Reported (token : String) (m : Method) (type : List Char) : Prop where
  once : (anomalies token).Nodup
  only : ∀ a ∈ anomalies token, a = .missingReturnType ∨ a = .unknownType
  missing : .missingReturnType ∈ anomalies token ↔ AllBlank type
  unknown : .unknownType ∈ anomalies token ↔ ∃ t, m.Writes token t ∧ JavaType.listed? t = none
  substituted : AllBlank type → m.returnType = "void"
  written : ¬ AllBlank type → m.returnType = String.ofList (trim type)
  shown : ∀ t, m.Writes token t → ∃ before after, Layer.Model.stub m = before ++ JavaType.ofName t ++ " " ++ after
  kept : ∀ t, m.Writes token t → JavaType.listed? t = none → JavaType.ofName t = t

theorem writesFilled {t : String} (writes : m.Writes token t) : ¬ AllBlank t.toList := by
  cases writes with
  | returned _ filled => simpa using Text.trimBlank.not.2 filled
  | parameter _ _ filled => exact filled

theorem memberShown {texts : List String} {text : String} (member : text ∈ texts) (separator : String) :
    ∃ before after, separator.intercalate texts = before ++ text ++ after := by
  induction texts with
  | nil => contradiction
  | cons first rest ih =>
    rcases List.mem_cons.1 member with rfl | later
    · cases rest with
      | nil => exact ⟨"", "", by simp⟩
      | cons next others => exact ⟨"", _, by rw [String.intercalate_cons_cons, String.append_assoc, String.empty_append]⟩
    · obtain ⟨before, after, list⟩ := ih later
      obtain ⟨next, others, rfl⟩ := List.exists_cons_of_ne_nil (List.ne_nil_of_mem later)
      refine ⟨first ++ separator ++ before, after, ?_⟩
      rw [String.intercalate_cons_cons, list]
      simp only [String.append_assoc]

theorem writesShown {t : String} (read : ofToken token = some m) (writes : m.Writes token t) :
    ∃ before after, Layer.Model.stub m = before ++ JavaType.ofName t ++ " " ++ after := by
  cases writes with
  | @returned type returns filled =>
    refine ⟨"    public ", m.identifier ++ ("(" ++ (", ".intercalate (m.parameters.map Layer.Model.parameter) ++
      (") \x7b\n        " ++ (Layer.Model.stubMarker ++ (" " ++ (m.identifier ++ "\n    \x7d")))))), ?_⟩
    unfold Layer.Model.stub
    rw [returnTypeRead read returns, Member.typeOrFilled filled]
    simp only [String.append_assoc]
  | @parameter p _ member declared filled =>
    have text : Layer.Model.parameter p = JavaType.ofName t ++ " " ++ p.identifier := by
      simp [Layer.Model.parameter, declared]
    obtain ⟨before, after, list⟩ := memberShown (List.mem_map_of_mem (f := Layer.Model.parameter) member) ", "
    refine ⟨"    public " ++ JavaType.ofName m.returnType ++ " " ++ m.identifier ++ "(" ++ before,
      p.identifier ++ (after ++ (") \x7b\n        " ++ (Layer.Model.stubMarker ++ (" " ++ (m.identifier ++
        "\n    \x7d"))))), ?_⟩
    unfold Layer.Model.stub
    rw [list, text]
    simp only [String.append_assoc]

theorem methodReported (read : ofToken token = some m) (returns : Returns (body token) type) :
    Reported token m type := by
  have declared := returnTypeRead read returns
  have reported : anomalies token = (if (trim type).isEmpty then [.missingReturnType] else []) ++
      if (!(trim type).isEmpty && !JavaType.isKnown m.returnType) || m.hasUnknownParameter then [.unknownType]
      else [] := by
    simp only [anomalies, read, splitReturns returns]
  obtain ⟨once, only, missing, unknown⟩ := Anomaly.flagged (by decide) _ _ reported
  refine ⟨once, only, missing.trans Member.bareIff, unknown.trans ?_,
    fun blank => declared.trans (Member.typeOrBlank blank), fun filled => declared.trans (Member.typeOrFilled filled),
    fun t => writesShown read, fun t writes => JavaType.unlistedKept (writesFilled writes)⟩
  rw [writesUnlisted returns, Bool.or_eq_true, declared, Member.unknownWritten]

end Method

/- Classes -/

/-- Nothing of the class is dropped or replaced, and every type that is written for it is a listed one. -/
structure ClassModel.IsClean (c : ClassModel) : Prop where
  kept : ∀ token ∈ c.methods, Method.ofToken token ≠ none
  typed : ∀ token ∈ c.attributes, ∀ type, Member.BehindColon (body token) type → ¬ AllBlank type
  returns : ∀ token ∈ c.methods, ∀ type, Method.Returns (body token) type → ¬ AllBlank type
  listed : ∀ type, c.Writes type → JavaType.listed? type ≠ none

theorem Method.droppedIff {token : String} : anomalies token = [.emptyMethodSignature] ↔ ofToken token = none := by
  constructor
  · intro reported
    cases read : ofToken token with
    | none => rfl
    | some m =>
      obtain ⟨type, returns⟩ := returnsSome (body token)
      have only := (methodReported read returns).only .emptyMethodSignature (by simp [reported])
      simp at only
  · intro dropped
    simp only [anomalies, dropped]

theorem Method.methodSilent {token : String} {type : List Char} (returns : Returns (body token) type) :
    anomalies token = [] ↔ ∃ m, ofToken token = some m ∧ ¬ AllBlank type ∧
      ∀ t, m.Writes token t → JavaType.listed? t ≠ none := by
  cases read : ofToken token with
  | none => simp [anomalies, read]
  | some m =>
    have reported := methodReported read returns
    rw [Anomaly.silentIff reported.only, reported.missing, reported.unknown]
    simp

theorem cleanIff (c : ClassModel) : Command.Report.anomalies c = [] ↔ c.IsClean := by
  have silent : Command.Report.anomalies c = [] ↔
      (∀ token ∈ c.attributes, Field.anomalies token = []) ∧ ∀ token ∈ c.methods, Method.anomalies token = [] := by
    simp [Command.Report.anomalies]
  rw [silent]
  constructor
  · rintro ⟨attributes, methods⟩
    have kept {token type} (member : token ∈ c.methods) (returns : Method.Returns (body token) type) :=
      (Method.methodSilent returns).1 (methods token member)
    refine ⟨fun token member dropped => ?_, fun token member type behind => ?_, fun token member type returns => ?_,
      fun type writes => ?_⟩
    · obtain ⟨type, returns⟩ := Method.returnsSome (body token)
      obtain ⟨m, read, _⟩ := kept member returns
      rw [dropped] at read
      contradiction
    · exact ((Field.fieldSilent behind).1 (attributes token member)).1
    · obtain ⟨m, _, filled, _⟩ := kept member returns
      exact filled
    · cases writes with
      | field member behind filled => exact ((Field.fieldSilent behind).1 (attributes _ member)).2
      | @method token m _ member read writes =>
        obtain ⟨type, returns⟩ := Method.returnsSome (body token)
        obtain ⟨other, same, _, listed⟩ := kept member returns
        obtain rfl : m = other := Option.some.inj (read.symm.trans same)
        exact listed _ writes
  · intro clean
    refine ⟨fun token member => ?_, fun token member => ?_⟩
    · obtain ⟨type, behind⟩ := Member.behindSome (body token)
      have filled := clean.typed token member type behind
      exact (Field.fieldSilent behind).2 ⟨filled, clean.listed _ (.field member behind filled)⟩
    · obtain ⟨type, returns⟩ := Method.returnsSome (body token)
      obtain ⟨m, read⟩ := Option.ne_none_iff_exists'.1 (clean.kept token member)
      exact (Method.methodSilent returns).2 ⟨m, read, clean.returns token member type returns,
        fun t writes => clean.listed t (.method member read writes)⟩

theorem tokensReported :
    (∀ token, (∃ type, Member.BehindColon (body token) type) ∧
      ∀ type, Member.BehindColon (body token) type → Field.Reported token type) ∧
    (∀ token, (Method.anomalies token = [.emptyMethodSignature] ↔ Method.ofToken token = none) ∧
      (∃ type, Method.Returns (body token) type) ∧
      ∀ m type, Method.ofToken token = some m → Method.Returns (body token) type → Method.Reported token m type) ∧
    ∀ c : ClassModel, Command.Report.anomalies c = [] ↔ c.IsClean :=
  ⟨fun _ => ⟨Member.behindSome _, fun _ => Field.fieldReported⟩,
    fun _ => ⟨Method.droppedIff, Method.returnsSome _, fun _ _ => Method.methodReported⟩, cleanIff⟩

theorem tokensReportedMixed : Method.Reported "- go(c:Customer)" ⟨"go", "c:Customer", "void"⟩ [] ∧
    Method.anomalies "- go(c:Customer)" = [.missingReturnType, .unknownType] := by
  have read : Method.ofToken "- go(c:Customer)" = some ⟨"go", "c:Customer", "void"⟩ := by decide +kernel
  have text : body "- go(c:Customer)" = "go(c:Customer".toList ++ ')' :: [] := by decide +kernel
  have returns : Method.Returns (body "- go(c:Customer)") [] := text ▸ .bare (by simp) (by simp)
  exact ⟨(tokensReported.2.1 _).2.2 _ _ read returns, by decide +kernel⟩

end ClassScaffold
