import ClassScaffold.Proofs.Disk.Confine
/-! A directory that was made afresh, changed within and removed leaves no trace: at every location there is
what was there before it was made. -/
namespace ClassScaffold.Disk

structure Alike (d d' : Disk) : Prop where
  here : d'.here = d.here
  limits : d'.limits = d.limits
  get : ∀ l, d'.get? l = d.get? l

variable {a b c d d' : Disk} {root p : Path} {l : Location}

theorem alikeGrows (alike : Alike d d') : Grows d d' := by
  refine ⟨alike.here, alike.limits, fun l h => ?_, fun l contents h => ⟨contents, ?_⟩, fun l t => ?_⟩
  · rw [alike.get, h]
  · rw [alike.get, h]
  · rw [alike.get]

theorem alikeWellFormed (wf : d.WellFormed) (alike : Alike d d')
    (distinct : (d'.entries.map Prod.fst).Nodup) : d'.WellFormed := by
  refine ⟨distinct, fun name l some => ?_, ?_⟩
  · rw [alike.get] at some ⊢
    exact wf.parents name l some
  · rw [alike.here, alike.get]
    exact wf.here

theorem madeAlike (made : Made p d d') (alike : Alike d' c)
    (distinct : (c.entries.map Prod.fst).Nodup) : Made p d c := by
  refine ⟨growsTrans made.grows (alikeGrows alike), alikeWellFormed made.wellFormed alike distinct,
    fun l other => ?_⟩
  rw [alike.get] at other ⊢
  obtain ⟨none, directory, q, n, way, found⟩ := made.changed l other
  exact ⟨none, directory, q, n, way, findGrows (alikeGrows alike) found⟩

theorem removeDistinct (wf : d.WellFormed) (p : Path) : ((d.remove p).entries.map Prod.fst).Nodup := by
  have tree (l : Location) : ((d.removeTree l).entries.map Prod.fst).Nodup :=
    wf.distinct.sublist (List.filter_sublist.map _)
  unfold remove
  split
  · split
    · exact wf.distinct
    · exact tree _
  · split
    · exact wf.distinct
    · exact tree _
  · exact wf.distinct

theorem freshRegion (wf : d.WellFormed) (ok : d.makeDirectory root = .ok d') :
    ∃ l, Region d' root l ∧ l ≠ [] ∧ d.get? l = none ∧ d' = d.put l .directory ∧
      ∀ rel, rel ≠ [] → d'.get? (rel ++ l) = none := by
  obtain ⟨parent, name, spotted, none, rfl⟩ := makeDirectorySpot ok
  have found := makeDirectoryFound spotted none
  have empty (rel : Location) (some : rel ≠ []) :
      (d.put (name :: parent) .directory).get? (rel ++ name :: parent) = .none := by
    rw [getPut d (by simp), if_neg (by simpa using some)]
    exact nothingBelow wf none rel
  refine ⟨name :: parent, ⟨?_, found, ?_, fun rel some target link => ?_⟩, by simp, none, rfl, empty⟩
  · exact (makeDirectoryMade wf ok).1.wellFormed
  · rw [getPut d (by simp), if_pos rfl]
  · rw [empty rel some] at link
    cases link

theorem removeSpot {parent : Location} {name : Name} (spotted : d.spot p = .ok (.entry parent name))
    (there : d.get? (name :: parent) = some .directory) : d.remove p = d.removeTree (name :: parent) := by
  unfold remove
  rw [spotted]
  simp only [there]

theorem removeGrown (wf : a.WellFormed) (ok : a.makeDirectory root = .ok b) :
    ∃ l, Region b root l ∧ l ≠ [] ∧ a.get? l = none ∧ b = a.put l .directory ∧
      ∀ c, Grows b c → c.remove root = c.removeTree l := by
  obtain ⟨parent, name, spotted, none, made⟩ := makeDirectorySpot ok
  obtain ⟨l, region, _, _, _, _⟩ := freshRegion wf ok
  have fresh := (makeDirectoryMade wf ok).1.grows
  have found := makeDirectoryFound spotted none
  rw [← made] at found
  obtain rfl : l = name :: parent := Except.ok.inj (region.found.symm.trans found)
  refine ⟨_, region, by simp, none, made, fun c grows => ?_⟩
  exact removeSpot (spotGrows grows (spotGrows fresh spotted)) (grows.directories _ region.directory)

theorem removeRestores (wf : a.WellFormed) (ok : a.makeDirectory root = .ok b)
    (confined : Confined root b c) : Alike a (c.remove root) := by
  have fresh := (makeDirectoryMade wf ok).1.grows
  obtain ⟨l, region, some, none, made, removed⟩ := removeGrown wf ok
  rw [removed c confined.grows]
  refine ⟨confined.grows.here.trans fresh.here, confined.grows.limits.trans fresh.limits, fun q => ?_⟩
  rw [getRemoveTree c some]
  split
  · next inside =>
    obtain ⟨rel, rfl⟩ := inside
    exact (nothingBelow wf none rel).symm
  · next outside =>
    have kept : c.get? q = b.get? q := by
      by_contra other
      obtain ⟨rel, _, rfl⟩ := changedBelow region confined other
      exact outside (List.suffix_append ..)
    rw [kept, made, getPut a some, if_neg]
    rintro rfl
    exact outside (List.suffix_refl _)

theorem filePlaceThere (wf : d.WellFormed) {old : Text.Utf8.Bytes} (file : d.get? l = some (.file old)) :
    IsFilePlace d l := by
  cases l with
  | nil => cases (getRoot d).symm.trans file
  | cons name outer => exact ⟨⟨name, outer, rfl, wf.parents name outer (by simp [file])⟩, .inr ⟨old, file⟩⟩

/-- A file that was written in the meantime goes with the directory when it is below that, and is all that is left
when it is not. -/
theorem removeRestoresPut (wf : a.WellFormed) (ok : a.makeDirectory root = .ok b) (confined : Confined root b c)
    (place : IsFilePlace c l) (contents : Text.Utf8.Bytes) :
    (a.get? l = none ∧ Alike a ((c.put l (.file contents)).remove root)) ∨
      Alike (a.put l (.file contents)) ((c.put l (.file contents)).remove root) := by
  obtain ⟨_, _, same, _⟩ := place.parent
  have some : l ≠ [] := by simp [same]
  have restored := removeRestores wf ok confined
  obtain ⟨k, _, outer, none, _, removed⟩ := removeGrown wf ok
  rw [removed c confined.grows] at restored
  rw [removed _ (growsTrans confined.grows (filePlaceGrows place contents))]
  by_cases inside : k <:+ l
  · obtain ⟨rel, rfl⟩ := inside
    refine .inl ⟨nothingBelow wf none rel, restored.here, restored.limits, fun q => ?_⟩
    rw [← restored.get q, getRemoveTree _ outer, getRemoveTree _ outer, getPut _ some]
    split
    · rfl
    · next outside =>
      rw [if_neg]
      rintro rfl
      exact outside (List.suffix_append ..)
  · refine .inr ⟨restored.here, restored.limits, fun q => ?_⟩
    have before := restored.get q
    rw [getRemoveTree _ outer] at before ⊢
    rw [getPut _ some, getPut _ some]
    by_cases here : q = l
    · rw [if_pos here, if_pos here, if_neg (here ▸ inside)]
    · rwa [if_neg here, if_neg here]

/-- A file that was there before the directory, and was written again in the meantime, stays as it was written. -/
theorem removeRestoresBut (wf : a.WellFormed) (ok : a.makeDirectory root = .ok b) (confined : Confined root b c)
    {old : Text.Utf8.Bytes} (file : a.get? l = some (.file old)) (contents : Text.Utf8.Bytes) :
    Alike (a.put l (.file contents)) ((c.put l (.file contents)).remove root) := by
  have fresh := (makeDirectoryMade wf ok).1.grows
  obtain ⟨_, there⟩ := (growsTrans fresh confined.grows).files l old file
  rcases removeRestoresPut wf ok confined (filePlaceThere confined.wellFormed there) contents with ⟨none, _⟩ | stays
  · cases file.symm.trans none
  · exact stays

/- The way to a directory that was asked for -/

theorem madeThere (wf : d.WellFormed) (there : d.isDirectory p = true) (made : Made p d d') (l : Location) :
    d'.get? l = d.get? l := by
  obtain ⟨place, found, directory⟩ := isDirectoryReaches there
  exact madeReached wf (findReaches found) directory made l

theorem madeKeeps (made : Made p d d') {e : Entry} (there : d.get? l = some e) : d'.get? l = some e := by
  by_contra other
  obtain ⟨none, _⟩ := made.changed l (by rwa [there])
  rw [there] at none
  cases none

theorem madeAround (wf : d.WellFormed) (made : Made p d d') (descends : .parent ∉ p.parts)
    (found : d'.find p = .ok l) {q : Location} (other : d'.get? q ≠ d.get? q) : q <:+ l := by
  obtain ⟨none, _, outer, n, way, outerFound⟩ := made.changed q other
  have reaches := findReaches found
  have outerReaches := findReaches outerFound
  rw [way] at outerReaches
  have clear : IsClear d' q := by
    intro rel some target link
    rw [made.grows.links, nothingBelow wf none rel] at link
    cases link
  by_cases start : p.parts.take n = []
  · -- no step leads to where relative paths start, which is a directory
    rw [start] at outerReaches
    cases outerReaches
    have here : d'.origin [] = d.here := made.grows.here
    rw [here, wf.here] at none
    contradiction
  · have inner := Path.properLater start (by
      rw [List.take_append_drop]
      exact Path.partsProper p)
    rw [← List.take_append_drop n p.parts] at descends
    obtain ⟨names, rest⟩ := Path.innerNames inner fun h => descends (List.mem_append_right _ h)
    rw [← List.take_append_drop n p.parts, rest] at reaches
    obtain ⟨same, _⟩ := reachesNames clear outerReaches reaches
    rw [same]
    exact List.suffix_append ..

end ClassScaffold.Disk
