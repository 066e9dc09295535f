import ClassScaffold.Proofs.Layer.Agree
import ClassScaffold.Proofs.Layer.Imports
import ClassScaffold.Proofs.Member.Entry
import ClassScaffold.Proofs.Member.Token
/-! A class whose type names are spelled in another way. Its tokens read as the same members with the other names, and
its files are the same when the names stand for the same types. The types themselves are such a spelling: none of them
is mapped a second time to something else, wherever it is shown. -/
namespace ClassScaffold
open Text (IsTrimmed lowered trimmed)

/- Other type names for the same members -/

variable (spell : String → String)

def Field.retyped (f : Field) : Field := ⟨f.identifier, spell f.declaredType⟩

def Parameter.retyped (p : Parameter) : Parameter := ⟨p.identifier, p.declaredType.map spell⟩

def Method.retyped (m : Method) : Method :=
  ⟨m.identifier, ",".intercalate ((m.parameters.map (Parameter.retyped spell)).map Parameter.entry), spell m.returnType⟩

def Entity.retyped (e : Entity) : Entity :=
  ⟨e.naming, e.package, e.fields.map (Field.retyped spell), e.methods.map (Method.retyped spell)⟩

/-- Every token is written out in full, less the ones that are dropped. -/
def ClassModel.retyped (c : ClassModel) : ClassModel :=
  ⟨c.name, c.attributes.map fun token => ((Field.ofToken token).retyped spell).token,
    c.methods.filterMap fun token => (Method.ofToken token).map fun m => (m.retyped spell).token⟩

namespace JavaType

/-- The names stand for the same types, and can stand in a token wherever the names before them could. -/
structure IsSpelling : Prop where
  same : ∀ name, ofName (spell name) = ofName name
  ends : ∀ name, IsTrimmed name.toList → IsTrimmed (spell name).toList
  filled : ∀ name, name ≠ "" → spell name ≠ ""
  comma : ∀ name, ',' ∉ name.toList → ',' ∉ (spell name).toList
  closes : ∀ name, ')' ∉ name.toList → ')' ∉ (spell name).toList

theorem typesSpelling : IsSpelling ofName := by
  have without {c : Char} (types : ∀ type ∈ table.map Prod.snd, c ∉ type.toList) (name : String)
      (absent : c ∉ name.toList) : c ∉ (ofName name).toList :=
    mappedKeeps (P := fun type => c ∉ type.toList) types absent
  refine ⟨mappedAgain, fun name => mappedKeeps (P := fun type => IsTrimmed type.toList) fun type listed => ?_,
    fun name => mappedKeeps (P := (· ≠ "")) (by decide), without (by decide), without (by decide)⟩
  have each : ∀ type ∈ table.map Prod.snd, Text.trim type.toList = type.toList := by decide +kernel
  exact each type listed ▸ Text.trimIsTrimmed _

end JavaType
open JavaType (IsSpelling)

variable {spell}

/- Tokens that are read back -/

theorem Text.trimmedAround {before after : List Char} {c : Char} (start : IsTrimmed before) (dark : isBlank c = false)
    (stop : IsTrimmed after) : IsTrimmed (before ++ c :: after) := by
  have whole : trim (before ++ c :: after) = before ++ c :: after := by
    have first : trimStart before = before := dropWhileFixed start.first
    have last : trimEnd after = after := by
      rw [trimEnd, dropWhileFixed (by simpa using stop.last), List.reverse_reverse]
    rw [trimAround dark, first, last]
  exact whole ▸ trimIsTrimmed _

theorem Field.retypedReads (spelling : IsSpelling spell) (token : String) :
    ofToken ((ofToken token).retyped spell).token = (ofToken token).retyped spell := by
  have read := ofTokenRead token
  exact tokenReads ⟨read.name, read.unmarked, spelling.ends _ read.type, spelling.filled _ read.typed⟩

namespace Parameter

/-- What any entry of a list is read as. -/
structure IsRead (p : Parameter) : Prop where
  writable : p.IsWritable
  name : IsTrimmed p.identifier.toList
  type : ∀ type, p.declaredType = some type → IsTrimmed type.toList

variable {p : Parameter} {entries : List Parameter}

theorem ofListRead {list : String} (member : p ∈ ofList list) : p.IsRead := by
  obtain ⟨writable, fixed⟩ := ofListWritable member
  have ends (s : String) : IsTrimmed (Text.trimmed s).toList := by
    rw [Text.toListTrimmed]
    exact Text.trimIsTrimmed _
  refine ⟨writable, ?_, fun type typed => ?_⟩
  · rw [← fixed]
    exact ends p.identifier
  · rw [← fixed] at typed
    obtain ⟨written, _, rfl⟩ := Option.map_eq_some_iff.1 typed
    exact ends written

theorem readTrimmed (read : p.IsRead) : p.trimmed = p := by
  have fixed {s : String} (ends : IsTrimmed s.toList) : Text.trimmed s = s := by
    rw [Text.trimmed, Text.trimFixed ends, String.ofList_toList]
  obtain ⟨name, type⟩ := p
  have first : Text.trimmed name = name := fixed read.name
  cases type with
  | none => rw [trimmed, first, Option.map_none]
  | some type => rw [trimmed, first, Option.map_some, fixed (read.type type rfl)]

theorem retypedRead (spelling : IsSpelling spell) (read : p.IsRead) : (p.retyped spell).IsRead := by
  refine ⟨⟨read.writable.name, read.writable.unmarked, ?_, ?_⟩, read.name, ?_⟩
  · intro type typed
    obtain ⟨name, written, rfl⟩ := Option.map_eq_some_iff.1 typed
    exact spelling.comma name (read.writable.type name written)
  · intro bare
    exact read.writable.seen (Option.map_eq_none_iff.1 bare)
  · intro type typed
    obtain ⟨name, written, rfl⟩ := Option.map_eq_some_iff.1 typed
    exact spelling.ends name (read.type name written)

theorem entryTrimmed (read : p.IsRead) : IsTrimmed p.entry.toList := by
  obtain ⟨name, type⟩ := p
  cases type with
  | none => exact read.name
  | some type =>
    have text : (entry ⟨name, some type⟩).toList = name.toList ++ ':' :: type.toList := by simp [entry]
    rw [text]
    exact Text.trimmedAround read.name (by decide) (read.type type rfl)

theorem listTrimmed (read : ∀ p ∈ entries, p.IsRead) : IsTrimmed (",".intercalate (entries.map entry)).toList := by
  induction entries with
  | nil => exact ⟨by simp, by simp⟩
  | cons p rest ih =>
    have first := entryTrimmed (read p List.mem_cons_self)
    have others := ih fun q member => read q (List.mem_cons_of_mem _ member)
    cases rest with
    | nil => simpa using first
    | cons q more => simpa [String.intercalate_cons_cons] using Text.trimmedAround first (by decide) others

theorem listRead (read : ∀ p ∈ entries, p.IsRead) : ofList (",".intercalate (entries.map entry)) = entries :=
  entriesRead fun p member => ⟨(read p member).writable, readTrimmed (read p member)⟩

end Parameter

namespace Method

theorem parametersRead (spelling : IsSpelling spell) (m : Method) :
    ∀ p ∈ m.parameters.map (Parameter.retyped spell), p.IsRead := by
  intro p member
  obtain ⟨q, listed, rfl⟩ := List.mem_map.1 member
  exact Parameter.retypedRead spelling (Parameter.ofListRead listed)

theorem retypedParameters (spelling : IsSpelling spell) (m : Method) :
    (m.retyped spell).parameters = m.parameters.map (Parameter.retyped spell) :=
  Parameter.listRead (m.parametersRead spelling)

theorem retypedReads (spelling : IsSpelling spell) (token : String) :
    ((ofToken token).map fun m => (m.retyped spell).token).bind ofToken = (ofToken token).map (retyped spell) := by
  cases found : ofToken token with
  | none => rfl
  | some m =>
    have read := ofTokenRead found
    have typed : (spell m.returnType).toList ≠ [] := by simpa using spelling.filled _ (by simpa using read.typed)
    have again : ofToken (m.retyped spell).token = some (m.retyped spell) :=
      tokenReads ⟨read.name, read.named, read.opens, Parameter.listTrimmed (m.parametersRead spelling),
        spelling.ends _ read.type, typed, spelling.closes _ read.closes⟩
    rw [Option.map_some, Option.bind_some, again, Option.map_some]

end Method

theorem Entity.ofClassRetyped (spelling : IsSpelling spell) (c : ClassModel) (n : Naming) (package : String) :
    ofClass (c.retyped spell) n package = (ofClass c n package).retyped spell := by
  have fields : (c.retyped spell).attributes.map Field.ofToken =
      (c.attributes.map Field.ofToken).map (Field.retyped spell) := by
    simp only [ClassModel.retyped, List.map_map, Function.comp_def, Field.retypedReads spelling]
  have methods : (c.retyped spell).methods.filterMap Method.ofToken =
      (c.methods.filterMap Method.ofToken).map (Method.retyped spell) := by
    simp only [ClassModel.retyped, List.filterMap_filterMap, List.map_filterMap, Method.retypedReads spelling]
  rw [ofClass, fields, methods, ofClass, retyped]

/- Files -/

theorem Field.retypedName (f : Field) : (f.retyped spell).identifier = f.identifier := rfl

theorem Field.retypedType (spelling : IsSpelling spell) (f : Field) : (f.retyped spell).javaType = f.javaType :=
  spelling.same f.declaredType

namespace Entity

variable (spelling : IsSpelling spell) (e : Entity)

include spelling

theorem retypedKey : (e.retyped spell).key = e.key := by
  have found : (e.retyped spell).fields.find? (·.identifier == keyField) =
      (e.fields.find? (·.identifier == keyField)).map (Field.retyped spell) := List.find?_map
  unfold key
  rw [found]
  cases e.fields.find? (·.identifier == keyField) with
  | none => rfl
  | some f => simp only [Option.map_some, f.retypedType spelling]

theorem retypedBindings : (e.retyped spell).bindings = e.bindings := by
  unfold bindings keyImport
  rw [retypedKey spelling]
  rfl

end Entity

namespace Layer.Model

variable (spelling : IsSpelling spell) (e : Entity)

include spelling

theorem storedRetyped : storedFields (e.retyped spell) = storedFields e := by
  have fields : (e.fields.map (Field.retyped spell)).map (fun f => StoredField.mk f.identifier f.javaType) =
      e.fields.map fun f => StoredField.mk f.identifier f.javaType := by
    simp only [List.map_map, Function.comp_def, Field.retypedName, Field.retypedType spelling]
  rw [storedFields, e.retypedKey spelling, Entity.retyped, fields, storedFields]

theorem parameterRetyped (p : Parameter) : parameter (p.retyped spell) = parameter p := by
  obtain ⟨name, type⟩ := p
  cases type with
  | none => rfl
  | some type => simp [parameter, Parameter.retyped, spelling.same]

theorem parameterTypesRetyped (m : Method) : parameterTypes (m.retyped spell) = parameterTypes m := by
  have each (p : Parameter) :
      (p.retyped spell).declaredType.map JavaType.ofName = p.declaredType.map JavaType.ofName := by
    simp only [Parameter.retyped, Option.map_map, Function.comp_def, spelling.same]
  simp only [parameterTypes, m.retypedParameters spelling, List.filterMap_map, Function.comp_def, each]

theorem mentionedRetyped : mentionedTypes (e.retyped spell) = mentionedTypes e := by
  have fields : (e.fields.map (Field.retyped spell)).map Field.javaType = e.fields.map Field.javaType := by
    simp only [List.map_map, Function.comp_def, Field.retypedType spelling]
  have method (m : Method) : JavaType.ofName (m.retyped spell).returnType :: parameterTypes (m.retyped spell) =
      JavaType.ofName m.returnType :: parameterTypes m := by
    rw [parameterTypesRetyped spelling, Method.retyped, spelling.same]
  rw [mentionedTypes, Entity.retyped, fields, List.flatMap_map, mentionedTypes]
  simp only [method]

theorem stubRetyped (m : Method) : stub (m.retyped spell) = stub m := by
  have list : (m.retyped spell).parameters.map parameter = m.parameters.map parameter := by
    simp only [m.retypedParameters spelling, List.map_map, Function.comp_def, parameterRetyped spelling]
  have type : JavaType.ofName (m.retyped spell).returnType = JavaType.ofName m.returnType := spelling.same _
  unfold stub
  rw [list, type]
  rfl

theorem methodsRetyped : methods (e.retyped spell) = methods e := by
  have stubs : (e.methods.map (Method.retyped spell)).map stub = e.methods.map stub := by
    simp only [List.map_map, Function.comp_def, stubRetyped spelling]
  unfold methods Entity.retyped
  rw [stubs, List.isEmpty_map]

theorem bindingsRetyped : bindings (e.retyped spell) = bindings e := by
  unfold bindings imports neededImports fields accessors
  rw [mentionedRetyped spelling, storedRetyped spelling, methodsRetyped spelling, e.retypedKey spelling,
    e.retypedBindings spelling]

end Layer.Model

theorem Layer.textRetyped (spelling : IsSpelling spell) (e : Entity) (l : Layer) :
    l.text (e.retyped spell) = l.text e := by
  have bound : Java.bindings (e.retyped spell) l = Java.bindings e l := by
    cases l with
    | model => exact Model.bindingsRetyped spelling e
    | repository | service | controller => exact e.retypedBindings spelling
  rw [layerText, layerText, bound]

/- Types that are shown -/

theorem Field.typeAgain (f : Field) : JavaType.ofName f.javaType = f.javaType := JavaType.mappedAgain f.declaredType

theorem Entity.keyAgain (e : Entity) : JavaType.ofName e.key.javaType = e.key.javaType := by
  have added : JavaType.ofName defaultKeyType = defaultKeyType := by decide +kernel
  unfold key
  cases e.fields.find? (·.identifier == keyField) with
  | none => simp only [added]
  | some f => simp only [f.typeAgain]

namespace Layer.Model

theorem storedAgain {e : Entity} {f : StoredField} (member : f ∈ storedFields e) :
    JavaType.ofName f.javaType = f.javaType := by
  unfold storedFields at member
  rcases List.mem_append.1 member with key | field
  · split at key
    · contradiction
    · obtain rfl := List.mem_singleton.1 key
      exact e.keyAgain
  · obtain ⟨g, _, rfl⟩ := List.mem_map.1 field
    simp only [g.typeAgain]

theorem shownAgain {e : Entity} {type : String} (shown : type ∈ shownTypes e) : JavaType.ofName type = type := by
  rcases memShown.1 shown with ⟨f, member, rfl⟩ | ⟨m, _, rfl | ⟨p, _, name, _, rfl⟩⟩
  · exact storedAgain member
  · exact JavaType.mappedAgain m.returnType
  · exact JavaType.mappedAgain name

theorem mentionedAgain {e : Entity} {type : String} (mentioned : type ∈ mentionedTypes e) :
    JavaType.ofName type = type := by
  rcases memMentioned.1 mentioned with ⟨f, _, rfl⟩ | ⟨m, _, rfl | ⟨p, _, name, _, rfl⟩⟩
  · exact f.typeAgain
  · exact JavaType.mappedAgain m.returnType
  · exact JavaType.mappedAgain name

end Layer.Model

namespace Layer

/-- Every type of an entity stands for itself: that of the key, those its file shows, those its imports are taken from. -/
structure KeepsTypes (e : Entity) : Prop where
  key : JavaType.ofName e.key.javaType = e.key.javaType
  shown : ∀ type ∈ Model.shownTypes e, JavaType.ofName type = type
  imported : ∀ type ∈ Model.mentionedTypes e, JavaType.ofName type = type

/-- A name is mapped by the table alone, and mapping what it was mapped to changes nothing, in no file of a class. -/
theorem typesMappedOnce :
    (∀ name, JavaType.IsMapped name) ∧
    ∀ (c : ClassModel) (n : Naming) (package : String), KeepsTypes (Entity.ofClass c n package) ∧
      ∀ l : Layer, l.text (Entity.ofClass (c.retyped JavaType.ofName) n package) =
        l.text (Entity.ofClass c n package) := by
  refine ⟨JavaType.nameMapped, fun c n package => ⟨⟨Entity.keyAgain _, fun _ => Model.shownAgain,
    fun _ => Model.mentionedAgain⟩, fun l => ?_⟩⟩
  rw [Entity.ofClassRetyped JavaType.typesSpelling, textRetyped JavaType.typesSpelling]

theorem typesMappedOnceSpaced :
    (lowered (trimmed "DATE") = lowered (trimmed "\tDate\u3000") ∧ JavaType.isKnown "\tDate\u3000" = true) ∧
    JavaType.ofName "DATE" = JavaType.ofName "\tDate\u3000" ∧ JavaType.ofName " date " = "LocalDate" ∧
    JavaType.isKnown " LocalDate" = false ∧ JavaType.ofName " LocalDate" = " LocalDate" ∧
    ∀ l : Layer, l.text (Entity.ofClass ⟨["order"], ["- when:LocalDate", "- id:Integer"],
        ["- place(qty:Double,:x,note):Customer"]⟩ ⟨"Order", "order"⟩ "p") =
      l.text (Entity.ofClass ⟨["order"], ["- when : DATE", "- id:INT"],
        ["- place( qty : Number, :x,, note): Customer"]⟩ ⟨"Order", "order"⟩ "p") := by
  have same : lowered (trimmed "DATE") = lowered (trimmed "\tDate\u3000") := by decide +kernel
  have known : JavaType.isKnown "\tDate\u3000" = true := by decide +kernel
  have listed : JavaType.Denotes " date " "LocalDate" true := .listed (by decide +kernel)
  have other : JavaType.Denotes " LocalDate" " LocalDate" false := by
    exact .other (JavaType.blankIff.not.1 (by decide +kernel)) (JavaType.unlistedIff.1 (by decide +kernel))
  have kept := ((typesMappedOnce.1 " LocalDate").stands _ _).1 other
  have rewritten : ClassModel.retyped JavaType.ofName ⟨["order"], ["- when : DATE", "- id:INT"],
      ["- place( qty : Number, :x,, note): Customer"]⟩ =
      ⟨["order"], ["- when:LocalDate", "- id:Integer"], ["- place(qty:Double,:x,note):Customer"]⟩ := by decide +kernel
  exact ⟨⟨same, known⟩, ((typesMappedOnce.1 _).alike "DATE" same known).2,
    (((typesMappedOnce.1 " date ").stands _ _).1 listed).1, kept.2, kept.1,
    rewritten ▸ (typesMappedOnce.2 _ ⟨"Order", "order"⟩ "p").2⟩

end Layer
end ClassScaffold
