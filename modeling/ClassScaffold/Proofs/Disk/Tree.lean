import ClassScaffold.Proofs.Disk.Confine
/-! What stands below a location after directories were made and files were written there. The last text
that was written to a place counts, and what is neither on the way nor written to is as it was. -/
namespace ClassScaffold.Disk
open Text.Utf8 (Bytes)

/-- The ways to these places and these files, of which the first at a place counts, have been laid over what
was there before. -/
structure Overlays (b d : Disk) (l : Location) (ways : List Location) (files : List (Location × Bytes)) :
    Prop where
  directory : ∀ rel, rel ≠ [] → (∃ way ∈ ways, rel <:+ way) → d.get? (rel ++ l) = some .directory
  file : ∀ rel, rel ≠ [] → ∀ c, files.lookup rel = some c → d.get? (rel ++ l) = some (.file c)
  kept : ∀ rel, rel ≠ [] → (∀ way ∈ ways, ¬ rel <:+ way) → files.lookup rel = none →
    d.get? (rel ++ l) = b.get? (rel ++ l)
  around : ∀ q, (∀ rel, rel ≠ [] → q ≠ rel ++ l) → d.get? q = b.get? q

/-- Below the location are the ways to these places, and these files, of which the first at a place
counts. -/
structure Shows (d : Disk) (l : Location) (ways : List Location) (files : List (Location × Bytes)) :
    Prop where
  directory : ∀ rel, rel ≠ [] → (d.get? (rel ++ l) = some .directory ↔ ∃ way ∈ ways, rel <:+ way)
  file : ∀ rel, rel ≠ [] → ∀ c, d.get? (rel ++ l) = some (.file c) ↔ files.lookup rel = some c

variable {b d d' : Disk} {root p : Path} {l : Location} {names : List String} {ways : List Location}
  {files : List (Location × Bytes)}

theorem overlaysNothing (d : Disk) (l : Location) : Overlays d d l [] [] :=
  ⟨by simp, by simp, fun _ _ _ _ => rfl, fun _ _ => rfl⟩

theorem overlaysShow (none : ∀ rel, rel ≠ [] → b.get? (rel ++ l) = none) (tree : Overlays b d l ways files) :
    Shows d l ways files := by
  refine ⟨fun rel some => ⟨fun there => ?_, tree.directory rel some⟩,
    fun rel some c => ⟨fun there => ?_, tree.file rel some c⟩⟩
  · by_contra apart
    cases found : files.lookup rel with
    | some c => simp [tree.file rel some c found] at there
    | none => simp [tree.kept rel some (by simpa using apart) found, none rel some] at there
  · cases found : files.lookup rel with
    | some c' => simpa [tree.file rel some c' found] using there
    | none =>
      by_cases way : ∃ way ∈ ways, rel <:+ way
      · simp [tree.directory rel some way] at there
      · simp [tree.kept rel some (by simpa using way) found, none rel some] at there

theorem showsSame (tree : Shows d l ways files) (same : ∀ rel, rel ≠ [] → d'.get? (rel ++ l) = d.get? (rel ++ l)) :
    Shows d' l ways files := by
  refine ⟨fun rel some => ?_, fun rel some c => ?_⟩
  · rw [same rel some]
    exact tree.directory rel some
  · rw [same rel some]
    exact tree.file rel some c

/-- Two disks that show the same ways and files have the same below these places. -/
theorem showsAlike {e : Disk} {m : Location} {target : Path} (region : Region d root l) (into : Region e target m)
    (tree : Shows d l ways files) (tree' : Shows e m ways files) {rel : Location} (some : rel ≠ []) :
    d.get? (rel ++ l) = e.get? (rel ++ m) := by
  refine Option.ext fun entry => ?_
  cases entry with
  | directory => exact (tree.directory rel some).trans (tree'.directory rel some).symm
  | file c => exact (tree.file rel some c).trans (tree'.file rel some c).symm
  | link target =>
    exact ⟨fun link => absurd link (region.clear rel some target),
      fun link => absurd link (into.clear rel some target)⟩

theorem overlaysMade (region : Region d root l) (within : root.Within names p)
    (tree : Overlays b d l ways files) (ok : d.makeDirectories p = (.ok (), d')) :
    Overlays b d' l (place names :: ways) files := by
  obtain ⟨confined, _⟩ := makeDirectoriesThrough region within ok
  have exact {rel : Location} (some : rel ≠ []) := makeDirectoriesExact region within ok some
  refine ⟨fun rel some ⟨way, member, suffix⟩ => ?_, fun rel some c found => ?_, fun rel some apart found => ?_,
    fun q outer => ?_⟩
  · rw [exact some]
    rcases List.mem_cons.1 member with rfl | older
    · rw [if_pos suffix]
    · rw [tree.directory rel some ⟨way, older, suffix⟩, ite_self]
  · -- a file that stood on the way would still be there
    have file := tree.file rel some c found
    obtain ⟨c', still⟩ := confined.grows.files _ _ file
    rw [exact some] at still ⊢
    split at still
    · cases still
    · next off => rw [if_neg off, file]
  · rw [exact some, if_neg (apart _ List.mem_cons_self)]
    exact tree.kept rel some (fun way member => apart way (List.mem_cons_of_mem _ member)) found
  · rw [← tree.around q outer]
    by_contra other
    obtain ⟨rel, some, same⟩ := changedBelow region confined other
    exact outer rel some same

theorem overlaysWritten (region : Region d root l) (within : root.Within names p) (some : names ≠ [])
    (tree : Overlays b d l ways files) {c : Bytes} (ok : d.write p c = .ok d') :
    Overlays b d' l ways ((place names, c) :: files) := by
  obtain ⟨rfl, isPlace⟩ := writeExact region within some ok
  have someRel : place names ≠ [] := placeEmpty.not.2 some
  have apart : place names ++ l ≠ [] := fun none => someRel (List.append_eq_nil_iff.1 none).1
  have elsewhere {rel : Location} (other : rel ≠ place names) : rel ++ l ≠ place names ++ l :=
    fun same => other ((List.append_left_inj l).1 same)
  have noDirectory : d.get? (place names ++ l) ≠ .some .directory := by
    rcases isPlace.free with none | ⟨old, file⟩
    · simp [none]
    · simp [file]
  refine ⟨fun rel some way => ?_, fun rel some c' found => ?_, fun rel some off found => ?_, fun q outer => ?_⟩ <;>
    rw [getPut d apart]
  · have there := tree.directory rel some way
    rwa [if_neg (elsewhere fun same => noDirectory (same ▸ there))]
  · rw [List.lookup_cons] at found
    split at found
    · next here =>
      cases found
      rw [if_pos (by rw [beq_iff_eq.1 here])]
    · next other =>
      rw [if_neg (elsewhere (by simpa using other))]
      exact tree.file rel some c' found
  · rw [List.lookup_cons] at found
    split at found
    · cases found
    · next other =>
      rw [if_neg (elsewhere (by simpa using other))]
      exact tree.kept rel some off found
  · rw [if_neg (outer _ someRel)]
    exact tree.around q outer

/-- What the ways and files are does not depend on the disk that they are laid over. -/
theorem overlaysAgain {e : Disk} (first : Overlays b d l ways files) (second : Overlays d e l ways files) (q : Location) :
    e.get? q = d.get? q := by
  by_cases below : ∃ rel, rel ≠ [] ∧ q = rel ++ l
  · obtain ⟨rel, some, rfl⟩ := below
    by_cases way : ∃ way ∈ ways, rel <:+ way
    · rw [first.directory rel some way, second.directory rel some way]
    · cases found : files.lookup rel with
      | some c => rw [first.file rel some c found, second.file rel some c found]
      | none => exact second.kept rel some (by simpa using way) found
  · exact second.around q fun rel some same => below ⟨rel, some, same⟩

end ClassScaffold.Disk
