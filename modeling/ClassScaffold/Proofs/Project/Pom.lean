import ClassScaffold.Proofs.Template.Cut
import ClassScaffold.Proofs.Text.Element
import ClassScaffold.Project
/-! The build descriptor has the markup of its template. No value that is put in holds a character of a tag, so
the filled text has the tags of the template, and an element holds its value as it was escaped. -/
namespace ClassScaffold
open Text.Markup (pair tags elements contents escape unescape entities)

namespace Template

def isInner : Piece → Bool
  | .text content => !content.toList.contains '>'
  | .slot .. => true

/-- The tag that a part starts with, which can go on over several texts, and the pieces behind it. -/
def tagPiece : Template → Option (List Char × Template)
  | .text content :: rest =>
    match Text.splitAt '>' content.toList with
    | [start] => (tagPiece rest).map fun (tag, inner) => (start ++ tag, inner)
    | [tag, text] => if rest.all isInner then some (tag, textOf text ++ rest) else none
    | _ => none
  | _ => none

def tagPieces (t : Template) : Option (List (List Char × Template)) :=
  match t.cut '<' with
  | [] :: parts => parts.mapM tagPiece
  | _ => none

theorem innerAbsent {b : Bindings} {t : Template} (inner : t.all isInner = true) (spares : t.Spares b '>') :
    '>' ∉ filled b t := by
  intro within
  obtain ⟨p, inside, held⟩ := memFilled.1 within
  have each := List.all_eq_true.1 inner p inside
  cases p with
  | text content =>
    have absent : '>' ∉ content.toList := by simpa [isInner] using each
    exact absent held
  | slot lead name trail => exact spares _ inside rfl held

theorem tagFilled {b : Bindings} {part : Template} {piece : List Char × Template}
    (found : tagPiece part = some piece) (spares : part.Spares b '>') :
    Text.splitAt '>' (filled b part) = [piece.1, filled b piece.2] := by
  induction part generalizing piece with
  | nil => contradiction
  | cons p rest ih =>
    cases p with
    | slot => contradiction
    | text content =>
      have whole : filled b (.text content :: rest) = content.toList ++ filled b rest := by
        simp [filled, fill, Piece.fill]
      have later : Template.Spares rest b '>' := fun q inside => spares q (List.mem_cons_of_mem _ inside)
      rw [tagPiece] at found
      split at found
      · next start cuts =>
        -- the tag does not end in this text and goes on in the next piece
        obtain ⟨⟨tag, inner⟩, tail, rfl⟩ := Option.map_eq_some_iff.1 found
        have same : start = content.toList := by
          have joined := Text.intercalateSplitAt '>' content.toList
          rwa [cuts, List.intercalate_singleton] at joined
        have absent : '>' ∉ start := Text.splitAtAbsent (cuts ▸ List.mem_singleton_self start)
        rw [whole, ← same]
        exact Text.splitAtStart absent (ih tail later)
      · next tag text cuts =>
        split at found
        · next inner =>
          obtain rfl := Option.some.inj found
          obtain ⟨parts, last, before, after⟩ := Text.splitAtEnd (innerAbsent inner later) content.toList
          have same : parts ++ [last] = [tag] ++ [text] := before.symm.trans cuts
          obtain ⟨rfl, only⟩ := List.append_inj' same rfl
          obtain rfl := List.singleton_inj.1 only
          rw [whole, after, filledAppend, filledText]
          rfl
        · contradiction
      · contradiction

theorem tagsEach {b : Bindings} {parts : List Template} {pieces : List (List Char × Template)}
    (found : parts.mapM tagPiece = some pieces) (spares : ∀ part ∈ parts, part.Spares b '>') :
    (parts.map (filled b)).mapM (fun part => pair (Text.splitAt '>' part)) =
      some (pieces.map (Prod.map id (filled b))) := by
  induction parts generalizing pieces with
  | nil =>
    obtain rfl : [] = pieces := by simpa using found
    rfl
  | cons part rest ih =>
    simp only [List.mapM_cons, Option.bind_eq_bind, Option.bind_eq_some_iff, Option.pure_def,
      Option.some.injEq] at found
    obtain ⟨piece, first, others, later, rfl⟩ := found
    have tail := ih later fun other member => spares other (List.mem_cons_of_mem _ member)
    rw [List.map_cons, List.mapM_cons, tagFilled first (spares part List.mem_cons_self), tail]
    rfl

theorem tagsFilled {t : Template} {b : Bindings} {pieces : List (List Char × Template)}
    (found : t.tagPieces = some pieces) (opens : t.Spares b '<') (closes : t.Spares b '>') :
    tags (filled b t) = some (pieces.map (Prod.map id (filled b))) := by
  unfold tagPieces at found
  split at found
  · next parts cuts =>
    have empty : filled b [] = [] := by simp [filled, fill]
    rw [tags, splitAtFilled opens, cuts, List.map_cons, empty]
    exact tagsEach found fun part member => sparesWithin closes (cuts ▸ List.mem_cons_of_mem _ member)
  · contradiction

end Template

namespace Project.Pom
open Template (filled valueIn)

/-- The elements that are named after the project, and the slot that each is to hold. -/
def named : List (String × String) :=
  [("groupId", "group_id"), ("artifactId", "artifact_id"), ("name", "project_name")]

def isSound (pieces : List (List Char × Template)) : Bool :=
  (elements [] pieces).any fun found => named.all fun (element, slot) =>
    (found.filter (·.1 = ["project", element].map String.toList)).map Prod.snd = [[.named slot]]

theorem templateSound : template.tagPieces.any isSound = true := by
  decide +kernel

def slots : List String := ["group_id", "artifact_id", "project_name", "driver_group", "driver_artifact"]

theorem templateSlots : (template.filterMap Piece.name?).all slots.contains = true := by
  decide +kernel

/-- What the filled template is read as: its tags are those of the template, and an element that is named after
the project holds the value of its slot. -/
theorem templateRead : ∃ outline : List (List Char × Template),
    (∀ b, template.Spares b '<' → template.Spares b '>' →
      tags (filled b template) = some (outline.map (Prod.map id (filled b)))) ∧
    ∃ found, elements [] outline = some found ∧ ∀ entry ∈ named,
      (found.filter (·.1 = ["project", entry.1].map String.toList)).map Prod.snd = [[.named entry.2]] := by
  obtain ⟨some, sound⟩ := (Option.any_eq_true_iff_get _ _).1 templateSound
  obtain ⟨pieces, found⟩ := Option.isSome_iff_exists.1 some
  simp only [found, Option.get_some, isSound] at sound
  obtain ⟨some, sound⟩ := (Option.any_eq_true_iff_get _ _).1 sound
  obtain ⟨leaves, elements⟩ := Option.isSome_iff_exists.1 some
  refine ⟨pieces, fun b => Template.tagsFilled found, leaves, elements, fun entry member => ?_⟩
  simp only [elements, Option.get_some, List.all_eq_true] at sound
  simpa using sound entry member

/- Values -/

def quotes : List Char := ['<', '>', '"', '\'']

theorem driverSpares (d : Database) : ∀ c ∈ quotes, c ∉ d.driver.group.toList ∧ c ∉ d.driver.artifact.toList := by
  cases d <;> simp [quotes, Database.driver]

theorem templateReadable : template.IsReadable := by
  decide +kernel

theorem slotsListed : ∀ slot ∈ template.names, slot ∈ slots := by
  intro slot member
  simpa using List.all_eq_true.1 templateSlots slot (List.mem_eraseDups.1 member)

theorem slotsBound (p : Project) : template.IsBound p.bindings (valueIn p.bindings) := by
  refine Template.boundListed fun slot member => ?_
  have within : slots ⊆ p.bindings.entries.map Prod.fst := by simp [slots, bindings]
  exact within (slotsListed slot member)

theorem valueSpares (p : Project) : ∀ slot ∈ template.names, ∀ c ∈ quotes, c ∉ (valueIn p.bindings slot).toList := by
  intro slot member c quote
  have escaped (s : String) : c ∉ (Text.Markup.escaped s).toList := by
    rw [Text.Markup.escaped, String.toList_ofList]
    exact Text.Markup.escapeSpares (List.mem_cons_of_mem _ quote) (by rintro rfl; simp [quotes] at quote) _
  have driver := driverSpares p.database c quote
  have listed := slotsListed slot member
  simp only [slots, List.mem_cons, List.not_mem_nil, or_false] at listed
  rcases listed with rfl | rfl | rfl | rfl | rfl
  · exact escaped p.package
  · exact escaped p.artifact
  · exact escaped p.name
  · exact driver.1
  · exact driver.2

theorem slotSpares (p : Project) {c : Char} (quote : c ∈ quotes) : template.Spares p.bindings c := by
  intro piece member slot
  cases piece with
  | text => contradiction
  | slot lead name trail =>
    have named : name ∈ template.names := List.mem_eraseDups.2 (List.mem_filterMap.2 ⟨_, member, rfl⟩)
    simpa [Piece.fill, slotsBound p name named] using valueSpares p name named c quote

theorem contentsFilled {b : Bindings} (opens : template.Spares b '<') (closes : template.Spares b '>') :
    ∀ entry ∈ named, contents ["project", entry.1] (filled b template) =
      some [unescape (Piece.fill b (.named entry.2)).toList] := by
  obtain ⟨outline, read, leaves, found, each⟩ := templateRead
  intro entry member
  have mapped := Text.Markup.elementsMap (filled b) [] outline
  rw [found] at mapped
  have only := each entry member
  have chosen : (leaves.map (Prod.map id (filled b))).filter (·.1 = ["project", entry.1].map String.toList) =
      (leaves.filter (·.1 = ["project", entry.1].map String.toList)).map (Prod.map id (filled b)) := by
    rw [List.filter_map]
    rfl
  have texts (found : List (List (List Char) × Template)) :
      (found.map (Prod.map id (filled b))).map (unescape ·.2) = (found.map Prod.snd).map (unescape <| filled b ·) := by
    simp
  simp only [contents, read b opens closes, mapped, Option.bind_eq_bind, Option.bind_some, Option.map_some,
    Option.pure_def, chosen, texts, only]
  simp [filled, Template.fill]

/-- An element that is named after the project holds what was escaped to fill its slot. -/
theorem elementHolds (p : Project) (entry : String × String) (held : String) (member : entry ∈ named)
    (fills : Piece.fill p.bindings (.named entry.2) = Text.Markup.escaped held) :
    contents ["project", entry.1] (p.text .pom).toList = some [held.toList] := by
  have opens : template.Spares p.bindings '<' := slotSpares p (by decide)
  have closes : template.Spares p.bindings '>' := slotSpares p (by decide)
  have text : (p.text .pom).toList = filled p.bindings template := rfl
  rw [text, contentsFilled opens closes entry member, fills, Text.Markup.escaped, String.toList_ofList,
    Text.Markup.unescapeEscape]

structure Escaped (s : List Char) : Prop where
  onePass : escape s = s.flatMap Text.Markup.entity
  ampersands : ∀ before after, escape s = before ++ '&' :: after → ∃ entry ∈ entities, entry.2 <+: '&' :: after
  restored : unescape (escape s) = s

structure Marked (p : Project) : Prop where
  /-- The source of the template is gone over once, all its slots are filled, and all else is kept. -/
  filled : p.text .pom = (Template.ofSource template.source).put (valueIn p.bindings) ∧
    (Template.ofSource template.source).IsBound p.bindings (valueIn p.bindings)
  plain : ∀ slot ∈ (Template.ofSource template.source).names, ∀ c ∈ quotes, c ∉ (valueIn p.bindings slot).toList
  /-- It has the tags of the template, one after the other. -/
  marked : ∃ here there, tags (p.text .pom).toList = some here ∧ tags template.source.toList = some there ∧
    here.map Prod.fst = there.map Prod.fst
  /-- The only such element of the project holds the package, once its entities are decoded. -/
  group : contents ["project", "groupId"] (p.text .pom).toList = some [p.package.toList]
  artifact : contents ["project", "artifactId"] (p.text .pom).toList = some [p.artifact.toList]
  name : contents ["project", "name"] (p.text .pom).toList = some [p.name.toList]

/-- This holds of every project, with any name, package and database. -/
theorem projectMarked : (∀ s, Escaped s) ∧ ∀ p, Marked p := by
  refine ⟨fun s => ⟨Text.Markup.escapeOnePass s, fun _ _ => Text.Markup.escapeAmpersand,
    Text.Markup.unescapeEscape s⟩, fun p => ?_⟩
  have readable := templateReadable
  have names : (Template.ofSource template.source).names = template.names := Template.namesSource readable
  have bound : (Template.ofSource template.source).IsBound p.bindings (valueIn p.bindings) := fun name member =>
    slotsBound p name (names ▸ member)
  have text : (p.text .pom).toList = filled p.bindings template := rfl
  have opens : template.Spares p.bindings '<' := slotSpares p (by decide)
  have closes : template.Spares p.bindings '>' := slotSpares p (by decide)
  refine ⟨⟨?_, bound⟩, ?_, ?_, ?_, ?_, ?_⟩
  · rw [← Template.fillBound bound, Template.fillSource readable]
    rfl
  · rw [names]
    exact valueSpares p
  · obtain ⟨outline, read, _⟩ := templateRead
    have there := read .empty (Template.sourceSpares readable (by decide)) (Template.sourceSpares readable (by decide))
    rw [Template.filledSource] at there
    exact ⟨_, _, read _ opens closes, there, by simp⟩
  · exact elementHolds p ("groupId", "group_id") p.package (by decide) rfl
  · exact elementHolds p ("artifactId", "artifact_id") p.artifact (by decide) rfl
  · exact elementHolds p ("name", "project_name") p.name (by decide) rfl

end Project.Pom
end ClassScaffold
