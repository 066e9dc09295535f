import ClassScaffold.Proofs.Disk.Effect
import ClassScaffold.Proofs.Text.Utf8
/-! Changes that stay within a directory. Paths that go on from a directory by names alone change nothing
around it, whatever links stand below; where no links stand below, what is there afterwards is exactly
what was asked for. -/
namespace ClassScaffold
open Text.Utf8 (Bytes encode)

namespace Path

/-- The path goes on from `root` by these names and by nothing else. -/
def Within (root : Path) (names : List String) (p : Path) : Prop :=
  p.parts = root.parts ++ names.map .normal

theorem withinPlain {root p : Path} {names : List String} (within : root.Within names p) :
    ∀ name ∈ names, Plain name.toList := by
  intro name member
  have proper := partsProper p
  rw [within] at proper
  have inside : Part.normal name ∈ names.map Part.normal := List.mem_map.2 ⟨name, member, rfl⟩
  by_cases none : root.parts = []
  · rw [none, List.nil_append] at proper
    cases names with
    | nil => contradiction
    | cons first rest =>
      obtain ⟨head, tail⟩ := proper
      rcases List.mem_cons.1 member with rfl | later
      · rcases head with h | h | h
        · contradiction
        · contradiction
        · exact h
      · exact tail _ (List.mem_map.2 ⟨name, later, rfl⟩)
  · exact properLater none proper _ inside

theorem withinParent {root p : Path} {names : List String} {name : String}
    (within : root.Within (names ++ [name]) p) :
    ∃ parent, p.parent? = some parent ∧ root.Within names parent := by
  have ends : p.parts = (root.parts ++ names.map .normal) ++ [.normal name] := by
    rw [within]
    simp
  obtain ⟨found, parts⟩ := parentParts ends
  exact ⟨_, found, parts⟩

end Path

theorem withinJoin {root p : Path} {before names : List String} {other : String}
    (within : root.Within before p) (some : names ≠ [])
    (parts : (⟨other⟩ : Path).parts = names.map .normal) :
    root.Within (before ++ names) (p.join other) := by
  obtain ⟨name, rest, rfl⟩ := List.exists_cons_of_ne_nil some
  unfold Path.Within at *
  rw [Path.joinParts parts, within]
  simp

theorem withinSelf (root : Path) : root.Within [] root := by simp [Path.Within]

namespace Disk

/- Whatever stands below -/

structure Confined (root : Path) (d d' : Disk) : Prop where
  grows : Grows d d'
  wellFormed : d'.WellFormed
  changed : ∀ l, d'.get? l ≠ d.get? l →
    ∃ q names, names ≠ [] ∧ root.Within names q ∧ d'.find q = .ok l

theorem confinedRefl {d : Disk} (wf : d.WellFormed) (root : Path) : Confined root d d :=
  ⟨growsRefl d, wf, fun _ other => absurd rfl other⟩

theorem confinedTrans {root : Path} {a b c : Disk} (first : Confined root a b)
    (second : Confined root b c) : Confined root a c := by
  refine ⟨growsTrans first.grows second.grows, second.wellFormed, fun l other => ?_⟩
  by_cases same : c.get? l = b.get? l
  · rw [same] at other
    obtain ⟨q, names, some, within, found⟩ := first.changed l other
    exact ⟨q, names, some, within, findGrows second.grows found⟩
  · exact second.changed l same

theorem isDirectoryGrows {d d' : Disk} (grows : Grows d d') {p : Path} (there : d.isDirectory p = true) :
    d'.isDirectory p = true := by
  obtain ⟨l, found, directory⟩ := isDirectoryReaches there
  exact isDirectoryFound (findGrows grows found) (grows.directories l directory)

theorem wayDirectory {d d' : Disk} (wf : d.WellFormed) (grows : Grows d d') {p : Path} {l q : Location} {n : Nat}
    (reaches : Reaches d p.parts l) (there : d.get? l = some .directory)
    (earlier : Reaches d' (p.parts.take n) q) : d.get? q = some .directory := by
  by_cases start : p.parts.take n = []
  · -- no step leads to where relative paths start
    rw [start] at earlier
    cases earlier
    have here : d'.origin [] = d.here := grows.here
    rw [here, wf.here]
  · have proper := Path.partsProper p
    rw [← List.take_append_drop n p.parts] at proper reaches
    have inner : (p.parts.drop n).head? ≠ some .root := fun head =>
      Path.properLater start proper .root (List.mem_of_head? head)
    obtain ⟨mid, before, midThere⟩ := reachesInit wf inner reaches there
    rw [reachesUnique earlier (reachesGrows grows before), midThere]

theorem madeReached {d d' : Disk} (wf : d.WellFormed) {p : Path} {l : Location} (reaches : Reaches d p.parts l)
    (there : d.get? l = some .directory) (made : Made p d d') (q : Location) : d'.get? q = d.get? q := by
  by_contra other
  obtain ⟨none, _, r, n, way, found⟩ := made.changed q other
  have earlier := findReaches found
  rw [way] at earlier
  rw [wayDirectory wf made.grows reaches there earlier] at none
  cases none

theorem madeNames {d d' : Disk} (wf : d.WellFormed) {root p : Path} {names : List String}
    (there : d.isDirectory root = true) (within : root.Within names p) (made : Made p d d') {l : Location}
    (other : d'.get? l ≠ d.get? l) : d'.get? l = some .directory ∧
      ∃ q n, names.take n ≠ [] ∧ root.Within (names.take n) q ∧ d'.find q = .ok l := by
  obtain ⟨none, directory, q, n, way, found⟩ := made.changed l other
  refine ⟨directory, q, n - root.parts.length, ?_⟩
  rw [within, List.take_append, ← List.map_take] at way
  have reaches := findReaches found
  by_cases early : (names.take (n - root.parts.length)).map Path.Part.normal = []
  · -- a path that ends on the way to the root leads to a directory that was there before
    exfalso
    obtain ⟨place, rootFound, rootThere⟩ := isDirectoryReaches there
    rw [early, List.append_nil] at way
    rw [way] at reaches
    rw [wayDirectory wf made.grows (findReaches rootFound) rootThere reaches] at none
    cases none
  · have some : names.take (n - root.parts.length) ≠ [] := fun empty => early (by rw [empty, List.map_nil])
    refine ⟨some, ?_, found⟩
    have long : root.parts.length ≤ n := by
      by_contra short
      have zero : n - root.parts.length = 0 := by omega
      exact some (by rw [zero, List.take_zero])
    unfold Path.Within
    rw [way, List.take_of_length_le long]

theorem madeConfined {d d' : Disk} (wf : d.WellFormed) {root p : Path} {names : List String}
    (there : d.isDirectory root = true) (within : root.Within names p) (made : Made p d d') :
    Confined root d d' := by
  refine ⟨made.grows, made.wellFormed, fun l other => ?_⟩
  obtain ⟨_, q, n, some, within', found⟩ := madeNames wf there within made other
  exact ⟨q, names.take n, some, within', found⟩

theorem writeConfined {d d' : Disk} (wf : d.WellFormed) {root p : Path} {names : List String}
    (some : names ≠ []) (within : root.Within names p) {c : Bytes} (ok : d.write p c = .ok d') :
    Confined root d d' := by
  obtain ⟨l, place, rfl, found⟩ := writeFound wf ok
  refine ⟨filePlaceGrows place c, filePlaceWellFormed wf place c, fun q other => ?_⟩
  obtain ⟨name, outer, rfl, _⟩ := place.parent
  rw [getPut d (by simp)] at other
  split at other
  · next same => exact ⟨p, names, some, within, same ▸ found⟩
  · contradiction

/- Where no links stand below -/

/-- The path leads to a directory below which there are no links. -/
structure Region (d : Disk) (root : Path) (l : Location) : Prop where
  wellFormed : d.WellFormed
  found : d.find root = .ok l
  directory : d.get? l = some .directory
  clear : IsClear d l

def place (names : List String) : Location := (names.map encode).reverse

theorem placeAppend (a b : List String) : place (a ++ b) = place b ++ place a := by simp [place]

theorem placeEmpty {names : List String} : place names = [] ↔ names = [] := by simp [place]

theorem placeInjective {a b : List String} (same : place a = place b) : a = b := by
  unfold place at same
  have encoded := List.reverse_injective same
  exact List.map_injective_iff.2 (fun _ _ => Text.Utf8.encodeInjective) encoded

variable {d d' : Disk} {root p : Path} {l : Location} {names : List String}

theorem regionThere (region : Region d root l) : d.isDirectory root = true :=
  isDirectoryFound region.found region.directory

theorem regionFind (region : Region d root l) (within : root.Within names p) {q : Location}
    (found : d.find p = .ok q) : q = place names ++ l ∧
      ∀ rel, rel <:+ place names → rel ≠ [] → rel ≠ place names → d.get? (rel ++ l) = some .directory := by
  have reaches := findReaches found
  rw [within] at reaches
  obtain ⟨same, inner⟩ := reachesNames region.clear (findReaches region.found) reaches
  refine ⟨same, fun rel suffix some less => ?_⟩
  obtain ⟨rest, whole⟩ := suffix
  have split : names.map encode = rel.reverse ++ rest.reverse := by
    rw [← List.reverse_append, whole, place, List.reverse_reverse]
  have more : rest.reverse ≠ [] := by
    intro none
    rw [List.reverse_eq_nil_iff] at none
    exact less (by rw [← whole, none, List.nil_append])
  simpa using inner rel.reverse rest.reverse split (by simpa using some) more

theorem clearGrows (clear : IsClear d l) (grows : Grows d d') : IsClear d' l :=
  fun rel some target link => clear rel some target ((grows.links _ _).1 link)

theorem regionGrows (region : Region d root l) (grows : Grows d d') (wf : d'.WellFormed) : Region d' root l :=
  ⟨wf, findGrows grows region.found, grows.directories l region.directory, clearGrows region.clear grows⟩

theorem regionConfined (region : Region d root l) (confined : Confined root d d') : Region d' root l :=
  regionGrows region confined.grows confined.wellFormed

theorem changedBelow (region : Region d root l) (confined : Confined root d d') {q : Location}
    (other : d'.get? q ≠ d.get? q) : ∃ rel, rel ≠ [] ∧ q = rel ++ l := by
  obtain ⟨p, names, some, within, found⟩ := confined.changed q other
  obtain ⟨same, _⟩ := regionFind (regionConfined region confined) within found
  exact ⟨place names, fun none => some (placeEmpty.1 none), same⟩

theorem partsSome (some : p.parts ≠ []) : p.text ≠ "" := by
  intro none
  cases p
  cases none
  exact some rfl

theorem makeDirectoriesMade (wf : d.WellFormed) (p : Path) : Made p d (d.makeDirectories p).2 :=
  (makeWithinMade wf p _).1

theorem madeByDirectories (wf : d.WellFormed) (ok : d.makeDirectories p = (.ok (), d')) : Made p d d' := by
  have made := makeDirectoriesMade wf p
  rwa [ok] at made

theorem makeDirectoriesThere (wf : d.WellFormed) (some : p.text ≠ "")
    (ok : d.makeDirectories p = (.ok (), d')) : d'.isDirectory p = true := by
  have there := (makeWithinMade wf p (p.parts.length + 1)).2
  unfold makeDirectories at ok
  rw [ok] at there
  exact (there rfl).resolve_left some

theorem makeDirectoriesExact (region : Region d root l) (within : root.Within names p)
    (ok : d.makeDirectories p = (.ok (), d')) {rel : Location} (some : rel ≠ []) :
    d'.get? (rel ++ l) = if rel <:+ place names then .some .directory else d.get? (rel ++ l) := by
  have made := madeByDirectories region.wellFormed ok
  have confined := madeConfined region.wellFormed (regionThere region) within made
  have region' := regionConfined region confined
  split
  · next suffix =>
    have more : names ≠ [] := by
      rintro rfl
      exact some (List.suffix_nil.1 suffix)
    have text : p.text ≠ "" := partsSome (by rw [within]; simp [more])
    obtain ⟨q, found, there⟩ := isDirectoryReaches (makeDirectoriesThere region.wellFormed text ok)
    obtain ⟨same, inner⟩ := regionFind region' within found
    by_cases whole : rel = place names
    · rw [whole, ← same, there]
    · exact inner rel suffix some whole
  · next apart =>
    -- whatever was made is at the end of some of the names, so it is on the way
    by_contra other
    obtain ⟨_, q, n, _, within', found⟩ :=
      madeNames region.wellFormed (regionThere region) within made other
    obtain ⟨same, _⟩ := regionFind region' within' found
    apply apart
    rw [List.append_cancel_right same]
    unfold place
    rw [List.map_take, List.reverse_suffix]
    exact List.take_prefix ..

theorem makeDirectoriesThrough (region : Region d root l) (within : root.Within names p)
    (ok : d.makeDirectories p = (.ok (), d')) :
    Confined root d d' ∧ d'.get? (place names ++ l) = some .directory := by
  have confined := madeConfined region.wellFormed (regionThere region) within (madeByDirectories region.wellFormed ok)
  refine ⟨confined, ?_⟩
  by_cases empty : place names = []
  · rw [empty]
    exact confined.grows.directories l region.directory
  · rw [makeDirectoriesExact region within ok empty, if_pos (List.suffix_refl _)]

theorem writeExact (region : Region d root l) (within : root.Within names p)
    (some : names ≠ []) {c : Bytes} (ok : d.write p c = .ok d') :
    d' = d.put (place names ++ l) (.file c) ∧ IsFilePlace d (place names ++ l) := by
  have confined := writeConfined region.wellFormed some within ok
  obtain ⟨q, isPlace, changed, found⟩ := writeFound region.wellFormed ok
  obtain ⟨same, _⟩ := regionFind (regionConfined region confined) within found
  exact ⟨same ▸ changed, same ▸ isPlace⟩

end Disk
end ClassScaffold
