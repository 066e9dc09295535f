import ClassScaffold.Proofs.Request.Read
import Mathlib.Data.List.TakeWhile
/-! A draft over the members of an object. Whatever has been read, each field of the draft either has its value,
and no member of its name is left, or is as the members that are left tell. -/
namespace ClassScaffold.Request.Json
open ClassScaffold.Json

/- One field -/

/-- What is to become of a field of which `seen` has been read, given the members that are left. -/
def Awaits {α : Type} (seen : Option α) (name : String) (value : α → List Char → Prop) (absent : α → Prop)
    (x : α) (members : List (String × List Char)) : Prop :=
  match seen with
  | none => Tells members name (value x) (absent x)
  | some y => y = x ∧ ∀ m ∈ members, m.1 ≠ name

section
variable {α : Type} {seen : Option α} {name : String} {value : α → List Char → Prop} {absent : α → Prop} {x : α}
  {m : String × List Char} {ms : List (String × List Char)}

theorem awaitsOther (other : m.1 ≠ name) (awaits : Awaits seen name value absent x (m :: ms)) :
    Awaits seen name value absent x ms := by
  cases seen with
  | none => simpa [Awaits, Tells, other] using awaits
  | some y => exact ⟨awaits.1, fun n member => awaits.2 n (List.mem_cons_of_mem _ member)⟩

theorem awaitsSame (same : m.1 = name) (awaits : Awaits seen name value absent x (m :: ms)) :
    seen = none ∧ value x m.2 ∧ Awaits (some x) name value absent x ms := by
  cases seen with
  | none =>
    simp only [Awaits, Tells, List.filter_cons, same, decide_true, if_true] at awaits
    split at awaits
    · contradiction
    · next only =>
      obtain ⟨rfl, none⟩ := List.cons.inj only
      exact ⟨rfl, awaits, rfl, fun n member => by simpa using List.filter_eq_nil_iff.1 none n member⟩
    · contradiction
  | some y => exact absurd same (awaits.2 m List.mem_cons_self)

theorem awaitsEnd (awaits : Awaits seen name value absent x []) : seen = some x ∨ seen = none ∧ absent x := by
  cases seen with
  | none => exact .inr ⟨rfl, awaits⟩
  | some y => exact .inl (congrArg some awaits.1)

theorem awaitsDefault {default : α} (awaits : Awaits seen name value (· = default) x []) :
    seen.getD default = x := by
  rcases awaitsEnd awaits with rfl | ⟨rfl, rfl⟩ <;> rfl

end

section
variable {δ : Type} {member : δ → String → Except Fault (Reader δ)} {draft : δ} {m : String × List Char}

theorem onceTurns {α : Type} {name : String} {seen : Option α} {read : Reader α} {put : α → δ} {x : α}
    (known : member draft m.1 = once name seen read put) (unseen : seen = none) (reads : Reads read x m.2) :
    Turns member draft m (put x) := by
  subst unseen
  refine ⟨_, known, fun spaces rest lead stop => ?_⟩
  rw [reads spaces rest lead stop]
  rfl

theorem passTurns (known : member draft m.1 = .ok (pass draft)) (written : IsWritten .value m.2) :
    Turns member draft m draft := by
  refine ⟨_, known, fun spaces rest lead stop => ?_⟩
  have spaced : skipValue (spaces ++ (m.2 ++ rest)) = skipValue (m.2 ++ rest) :=
    spacesOver (.inr (by decide)) lead _
  rw [pass, spaced, valueSkipped written stop]
  rfl

end

/- Classes -/

theorem stringsReads {xs : List String} {text : List Char} (written : WritesStrings xs text) :
    Reads (readList readString) xs text := by
  refine listReads (fun s text writes => ?_) (fun s text writes => stringReads writes) written
  obtain ⟨written, _, rfl⟩ := writes
  exact ⟨'"', _, rfl, by decide, by decide⟩

structure ClassAwaits (d : ClassDraft) (c : ClassModel) (ms : List (String × List Char)) : Prop where
  name : Awaits d.name "name" WritesStrings (fun _ => False) c.name ms
  attributes : Awaits d.attributes "attributes" WritesStrings (· = []) c.attributes ms
  methods : Awaits d.methods "methods" WritesStrings (· = []) c.methods ms
  others : ∀ m ∈ ms, m.1 ∉ ["name", "attributes", "methods"] → IsWritten .value m.2

theorem classFinish {c : ClassModel} {d : ClassDraft} (awaits : ClassAwaits d c []) : d.finish = .ok c := by
  have name : d.name = some c.name := (awaitsEnd awaits.name).resolve_right And.right
  rw [ClassDraft.finish, name, awaitsDefault awaits.attributes, awaitsDefault awaits.methods]

theorem classStep {c : ClassModel} {d : ClassDraft} {m : String × List Char} {ms : List (String × List Char)}
    (awaits : ClassAwaits d c (m :: ms)) : ∃ next, Turns classMember d m next ∧ ClassAwaits next c ms := by
  obtain ⟨name, attributes, methods, others⟩ := awaits
  have later : ∀ n ∈ ms, n.1 ∉ ["name", "attributes", "methods"] → IsWritten .value n.2 := fun n member =>
    others n (List.mem_cons_of_mem _ member)
  -- a field that was read has no member left, so a member of its name is the first one
  by_cases isName : m.1 = "name"
  · obtain ⟨unseen, value, seen⟩ := awaitsSame isName name
    have known : classMember d m.1 = once "name" d.name (readList readString) fun x => { d with name := some x } := by
      simp [classMember, isName]
    exact ⟨_, onceTurns known unseen (stringsReads value), seen, awaitsOther (by simp [isName]) attributes,
      awaitsOther (by simp [isName]) methods, later⟩
  by_cases isAttributes : m.1 = "attributes"
  · obtain ⟨unseen, value, seen⟩ := awaitsSame isAttributes attributes
    have known : classMember d m.1 =
        once "attributes" d.attributes (readList readString) fun x => { d with attributes := some x } := by
      simp [classMember, isAttributes]
    exact ⟨_, onceTurns known unseen (stringsReads value), awaitsOther isName name, seen,
      awaitsOther (by simp [isAttributes]) methods, later⟩
  by_cases isMethods : m.1 = "methods"
  · obtain ⟨unseen, value, seen⟩ := awaitsSame isMethods methods
    have known : classMember d m.1 =
        once "methods" d.methods (readList readString) fun x => { d with methods := some x } := by
      simp [classMember, isMethods]
    exact ⟨_, onceTurns known unseen (stringsReads value), awaitsOther isName name,
      awaitsOther isAttributes attributes, seen, later⟩
  -- any other name tells nothing, and the draft stays as it is
  have written := others m List.mem_cons_self (by simp [isName, isAttributes, isMethods])
  have known : classMember d m.1 = .ok (pass d) := by
    simp [classMember, isName, isAttributes, isMethods]
  exact ⟨d, passTurns known written, awaitsOther isName name, awaitsOther isAttributes attributes,
    awaitsOther isMethods methods, later⟩

theorem classFills {c : ClassModel} {ms : List (String × List Char)} {d : ClassDraft} (awaits : ClassAwaits d c ms) :
    ∃ last, Fills classMember d ms last ∧ last.finish = .ok c := by
  obtain ⟨last, fills, ends⟩ := fillsKept classStep awaits
  exact ⟨last, fills, classFinish ends⟩

theorem objectRead {δ : Type} {member : δ → String → Except Fault (Reader δ)} {draft last : δ}
    {ms : List (String × List Char)} {text : List Char} (written : WritesList .object WritesMember ms text)
    (fills : Fills member draft ms last) (rest : List Char) : ∃ inner, text ++ rest = '\x7b' :: inner ∧
      members member (inner.length + 1) true draft inner = .ok (last, '\x7d' :: rest) := by
  cases written with
  | @empty s blank =>
    cases fills
    exact ⟨s ++ '\x7d' :: rest, by simp [opening, closing], membersEnd member _ true draft blank rest⟩
  | @filled _ s items =>
    refine ⟨s ++ '\x7d' :: rest, by simp [opening, closing], (membersRead items fills ?_ rest).1⟩
    have short := itemsShort items
    simp only [List.length_append, List.length_cons]
    omega

theorem classReads {c : ClassModel} {text : List Char} (written : WritesClass c text) : Reads readClass c text := by
  obtain ⟨ms, told, object⟩ := written
  obtain ⟨last, fills, done⟩ := classFills (d := ⟨none, none, none⟩)
    ⟨told.name, told.attributes, told.methods, told.others⟩
  intro spaces rest lead _
  obtain ⟨inner, whole, read⟩ := objectRead object fills rest
  rw [readClass, whole, spacesSkipped lead (by decide)]
  simp only [bind, Except.bind, read, done, List.drop_one, List.tail_cons]

/- Requests -/

theorem classesReads {classes : List ClassModel} {text : List Char}
    (written : WritesList .list WritesClass classes text) :
    Reads (readList readClass) classes text := by
  refine listReads (fun c text writes => ?_) (fun c text writes => classReads writes) written
  obtain ⟨_, _, object⟩ := writes
  cases object <;> exact ⟨'\x7b', _, rfl, by decide, by decide⟩

structure DraftAwaits (d : Draft) (r : Request) (ms : List (String × List Char)) : Prop where
  projectName : Awaits d.projectName "projectName" WritesName (· = none) r.projectName ms
  packageName : Awaits d.packageName "packageName" WritesName (· = none) r.packageName ms
  classes : Awaits d.classes "classes" (WritesList .list WritesClass) (· = []) r.classes ms
  others : ∀ m ∈ ms, m.1 ∉ ["projectName", "packageName", "classes"] → IsWritten .value m.2

theorem draftFinish {r : Request} {d : Draft} (awaits : DraftAwaits d r []) : d.finish = r := by
  rw [Draft.finish, awaitsDefault awaits.projectName, awaitsDefault awaits.packageName,
    awaitsDefault awaits.classes]

theorem draftStep {r : Request} {d : Draft} {m : String × List Char} {ms : List (String × List Char)}
    (awaits : DraftAwaits d r (m :: ms)) : ∃ next, Turns member d m next ∧ DraftAwaits next r ms := by
  obtain ⟨projectName, packageName, classes, others⟩ := awaits
  have later : ∀ n ∈ ms, n.1 ∉ ["projectName", "packageName", "classes"] → IsWritten .value n.2 := fun n member =>
    others n (List.mem_cons_of_mem _ member)
  by_cases isProject : m.1 = "projectName"
  · obtain ⟨unseen, value, seen⟩ := awaitsSame isProject projectName
    have known : member d m.1 =
        once "projectName" d.projectName readOptional fun x => { d with projectName := some x } := by
      simp [member, isProject]
    exact ⟨_, onceTurns known unseen (nameReads value), seen, awaitsOther (by simp [isProject]) packageName,
      awaitsOther (by simp [isProject]) classes, later⟩
  by_cases isPackage : m.1 = "packageName"
  · obtain ⟨unseen, value, seen⟩ := awaitsSame isPackage packageName
    have known : member d m.1 =
        once "packageName" d.packageName readOptional fun x => { d with packageName := some x } := by
      simp [member, isPackage]
    exact ⟨_, onceTurns known unseen (nameReads value), awaitsOther isProject projectName, seen,
      awaitsOther (by simp [isPackage]) classes, later⟩
  by_cases isClasses : m.1 = "classes"
  · obtain ⟨unseen, value, seen⟩ := awaitsSame isClasses classes
    have known : member d m.1 =
        once "classes" d.classes (readList readClass) fun x => { d with classes := some x } := by
      simp [member, isClasses]
    exact ⟨_, onceTurns known unseen (classesReads value), awaitsOther isProject projectName,
      awaitsOther isPackage packageName, seen, later⟩
  have written := others m List.mem_cons_self (by simp [isProject, isPackage, isClasses])
  have known : member d m.1 = .ok (pass d) := by
    simp [member, isProject, isPackage, isClasses]
  exact ⟨d, passTurns known written, awaitsOther isProject projectName, awaitsOther isPackage packageName,
    awaitsOther isClasses classes, later⟩

theorem draftFills {r : Request} {ms : List (String × List Char)} {d : Draft} (awaits : DraftAwaits d r ms) :
    ∃ last, Fills member d ms last ∧ last.finish = r := by
  obtain ⟨last, fills, ends⟩ := fillsKept draftStep awaits
  exact ⟨last, fills, draftFinish ends⟩

theorem readWritten {r : Request} {text : String} (written : r.IsWrittenAs text.toList) : read text = .ok r := by
  obtain ⟨before, ms, object, after, lead, told, members, trail, whole⟩ := written
  obtain ⟨last, fills, done⟩ := draftFills (d := ⟨none, none, none⟩)
    ⟨told.projectName, told.packageName, told.classes, told.others⟩
  obtain ⟨inner, start, objectRead⟩ := objectRead members fills after
  have request : readRequest text.toList = .ok (r, after) := by
    rw [readRequest, whole, start, spacesSkipped lead (by decide)]
    simp only [bind, Except.bind, objectRead, done, List.drop_one, List.tail_cons]
  have blank : skipSpace after = [] := List.dropWhile_eq_nil_iff.2 trail
  simp [read, request, blank, bind, Except.bind]

end ClassScaffold.Request.Json
