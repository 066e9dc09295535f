import ClassScaffold.Proofs.Disk.Progress
/-! Filling a directory step by step. While no file stands on a way, directories can be made on all ways and files
be written at all their places, as far as the limits of the disk take the paths, and this stays so. -/
namespace ClassScaffold.Disk
open Text.Utf8 (Bytes encode)

/-- Below the directory, files are at some of these places and directories on some of these ways. -/
structure Filling (root : Path) (l : Location) (limits : Limits) (files ways : Location → Prop) (d : Disk) : Prop where
  region : Region d root l
  limited : d.limits = limits
  file : ∀ rel, rel ≠ [] → ∀ c, d.get? (rel ++ l) = some (.file c) → files rel
  directory : ∀ rel, rel ≠ [] → d.get? (rel ++ l) = some .directory → ways rel

variable {root p : Path} {l : Location} {limits : Limits} {files ways : Location → Prop} {d : Disk}
  {names : List String}

theorem fillingEmpty (region : Region d root l) (limited : d.limits = limits)
    (empty : ∀ rel, rel ≠ [] → d.get? (rel ++ l) = none) : Filling root l limits files ways d := by
  refine ⟨region, limited, fun rel some c found => ?_, fun rel some found => ?_⟩
  · cases (empty rel some).symm.trans found
  · cases (empty rel some).symm.trans found

theorem fillingWritten (filling : Filling root l limits files ways d) (within : root.Within names p) (some : names ≠ [])
    (isPlace : files (place names)) {c : Bytes} {d' : Disk} (wrote : d.write p c = .ok d') :
    Filling root l limits files ways d' := by
  have region := filling.region
  have confined := writeConfined region.wellFormed some within wrote
  obtain ⟨rfl, _⟩ := writeExact region within some wrote
  have apart : place names ++ l ≠ [] := fun none => some (placeEmpty.1 (List.append_eq_nil_iff.1 none).1)
  refine ⟨regionConfined region confined, filling.limited, fun rel someRel c found => ?_,
    fun rel someRel found => ?_⟩
  · rw [getPut _ apart] at found
    split at found
    · next same => rwa [(List.append_left_inj l).1 same]
    · exact filling.file rel someRel c found
  · rw [getPut _ apart] at found
    split at found
    · cases found
    · exact filling.directory rel someRel found

section
variable (apart : ∀ rel, files rel → ¬ ways rel) (filling : Filling root l limits files ways d)
include apart filling

theorem fillingFree {rel : Location} (some : rel ≠ []) (way : ways rel) :
    d.get? (rel ++ l) = none ∨ d.get? (rel ++ l) = .some .directory := by
  cases found : d.get? (rel ++ l) with
  | none => exact .inl rfl
  | some e =>
    cases e with
    | directory => exact .inr rfl
    | file c => exact absurd way (apart rel (filling.file rel some c found))
    | link target => exact absurd found (filling.region.clear rel some target)

theorem makeDirectoriesFills (takes : limits.Takes p names) (within : root.Within names p) (some : p.parts ≠ [])
    (clean : '\x00' ∉ p.text.toList) (made : names ≠ [] → IsMakeable p)
    (onWay : ∀ rel, rel ≠ [] → rel <:+ place names → ways rel) :
    ∃ d', d.makeDirectories p = (.ok (), d') ∧ Filling root l limits files ways d' ∧
      d'.get? (place names ++ l) = .some .directory := by
  have region := filling.region
  obtain ⟨d', runs⟩ := makeDirectoriesRuns region (filling.limited.symm ▸ takes) within some clean made
    fun rel some suffix => fillingFree apart filling some (onWay rel some suffix)
  obtain ⟨confined, there⟩ := makeDirectoriesThrough region within runs
  have exact {rel : Location} (some : rel ≠ []) := makeDirectoriesExact region within runs some
  refine ⟨d', runs, ⟨regionConfined region confined, confined.grows.limits.trans filling.limited,
    fun rel some c found => ?_, fun rel some found => ?_⟩, there⟩
  · rw [exact some] at found
    split at found
    · cases found
    · exact filling.file rel some c found
  · rw [exact some] at found
    split at found
    · next suffix => exact onWay rel some suffix
    · exact filling.directory rel some found

theorem writeFills (takes : limits.Takes p names) (within : root.Within names p) (some : names ≠ [])
    (writable : IsWritable p)
    (onWay : ∀ rel, rel ≠ [] → rel <:+ (place names).tail → ways rel) (file : files (place names)) (c : Bytes) :
    ∃ q, p.parent? = .some q ∧ ∃ d', d.makeDirectories q = (.ok (), d') ∧
      ∃ d'', d'.write p c = .ok d'' ∧ Filling root l limits files ways d'' := by
  obtain ⟨outer, name, split⟩ := names.eq_nil_or_concat'.resolve_left some
  have whole : place names = encode name :: place outer := by
    rw [split]
    exact placeAppend outer [name]
  rw [whole, List.tail_cons] at onWay
  have withinSplit : root.Within (outer ++ [name]) p := split ▸ within
  have takesSplit : limits.Takes p (outer ++ [name]) := split ▸ takes
  obtain ⟨q, above, around, clean, made⟩ := parentReady withinSplit writable.clean
  have parts : q.parts ≠ [] := by
    rw [around]
    simp [Path.textParts (findText filling.region.found).2]
  obtain ⟨d', runs, filled, there⟩ :=
    makeDirectoriesFills apart filling (takesParent takesSplit above) around parts clean made onWay
  have free : d'.get? (encode name :: (place outer ++ l)) ≠ .some .directory := by
    intro directory
    exact apart _ (whole ▸ file) (filled.directory (encode name :: place outer) (by simp) directory)
  obtain ⟨d'', wrote⟩ := writeRuns filled.region (filled.limited.symm ▸ takesSplit) withinSplit writable there free c
  exact ⟨q, above, d', runs, d'', wrote, fillingWritten filled within some file wrote⟩

end

end ClassScaffold.Disk
