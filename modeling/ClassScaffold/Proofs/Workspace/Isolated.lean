import ClassScaffold.Proofs.Workspace.Sound
/-! Requests do not meet. No operation of a request is seen in the workspace of another one, be that made
before it or afterwards, under whatever name; and a workspace is made where nothing was. -/
namespace ClassScaffold.Workspace
open Generator (removed)

variable {shared : Path} {x y : World} {b : Disk} {roots : Nat → Option (Path × Disk.Location)}
  {i j : Nat} {v w : Workspace} {s t : Session}

/-- What requests are promised at some time, whatever comes next. -/
structure Isolated (shared : Path) (x : World) : Prop where
  apart : ∀ i j v w, i ≠ j → x.owned i = some v → x.owned j = some w → v.root ≠ w.root ∧
    ∃ k l, x.disk.find v.root = .ok k ∧ x.disk.find w.root = .ok l ∧ ¬ k <:+ l
  fresh : ∀ i y w, Step shared i x y → x.owned i = none → y.owned i = some w →
    (∀ l, x.disk.find w.root ≠ .ok l) ∧
    ∃ l, x.disk.get? l = none ∧ y.disk = x.disk.put l .directory ∧ y.disk.find w.root = .ok l
  kept : ∀ j w y, x.owned j = some w → Runs shared (· ≠ j) x y → y.stages j = x.stages j ∧
    ∃ l, x.disk.find w.root = .ok l ∧ y.disk.find w.root = .ok l ∧
      ∀ rel, y.disk.get? (rel ++ l) = x.disk.get? (rel ++ l)
  removal : ∀ i y w, Step shared i x y → x.owned i = some w → y.owned i = none →
    ∃ l, x.disk.find w.root = .ok l ∧ ∀ q, y.disk.get? q = if l <:+ q then none else x.disk.get? q

theorem ownedApart (sound : Sound shared x b roots) (apart : i ≠ j) (first : x.owned i = some v)
    (second : x.owned j = some w) : v.root ≠ w.root ∧
      ∃ k l, x.disk.find v.root = .ok k ∧ x.disk.find w.root = .ok l ∧ ¬ k <:+ l := by
  obtain ⟨k, rooted⟩ := soundRooted sound first
  obtain ⟨l, rooted'⟩ := soundRooted sound second
  have found := (Disk.sideRegion sound.side rooted).found
  have found' := (Disk.sideRegion sound.side rooted').found
  have outside := Disk.sideApart sound.side rooted rooted' apart
  refine ⟨fun same => ?_, k, l, found, found', outside⟩
  rw [same] at found
  obtain rfl : k = l := Except.ok.inj (found.symm.trans found')
  exact outside (List.suffix_refl _)

theorem ownedFresh (step : Step shared i x y) (before : x.owned i = none) (after : y.owned i = some w) :
    x.disk.makeDirectory w.root = .ok y.disk := by
  cases step with
  | work holds =>
    rw [World.owned, holds] at before
    cases before
  | giveUp holds =>
    rw [World.owned, holds] at before
    cases before
  | cancel settles =>
    rw [World.owned, settles] at before
    cases before
  | advance ran =>
    have advanced := advanceCases ran
    unfold World.owned at before
    generalize x.stages i = stage at advanced before
    rw [ownedUpdate] at after
    cases advanced with
    | claims ran =>
      cases after
      rcases Session.makeDirectoryCases ran with ⟨_, ok⟩ | ⟨_, impossible, _⟩
      · exact ok
      · cases impossible
    | settles | settlesNot => cases before
    | shares | sharesNot | names | claimsNot | cleans | leaves => cases after
    | rests =>
      rw [before] at after
      cases after

theorem ownedRemoved (step : Step shared i x y) (before : x.owned i = some w) (after : y.owned i = none) :
    y.disk = x.disk.remove w.root := by
  cases step with
  | work holds =>
    rw [World.owned, holds] at after
    cases after
  | giveUp | cancel =>
    rw [ownedUpdate] at after
    cases after
  | advance ran =>
    have advanced := advanceCases ran
    unfold World.owned at before
    generalize x.stages i = stage at advanced before
    rw [ownedUpdate] at after
    cases advanced with
    | cleans | leaves =>
      cases before
      rfl
    | shares | sharesNot | names | claims | claimsNot => cases before
    | settles | settlesNot => cases after
    | rests =>
      rw [before] at after
      cases after

theorem soundIsolated (sound : Sound shared x b roots) : Isolated shared x where
  apart _ _ _ _ apart first second := ownedApart sound apart first second
  fresh _ _ _ step before after := Disk.makeDirectoryFresh (ownedFresh step before after)
  kept j w y owned runs := by
    obtain ⟨l, rooted⟩ := soundRooted sound owned
    obtain ⟨stages, ⟨_, _, sound', rooted'⟩, same⟩ := runsKept sound rooted runs
    exact ⟨stages, l, (Disk.sideRegion sound.side rooted).found, (Disk.sideRegion sound'.side rooted').found, same⟩
  removal i y w step before after := by
    obtain ⟨l, rooted⟩ := soundRooted sound before
    rw [ownedRemoved step before after]
    exact ⟨l, (Disk.sideRegion sound.side rooted).found, (Disk.sideRemove sound.side rooted).2⟩

/-- Requests that share a directory are isolated at every point of every run of their operations. -/
theorem runsIsolated {shared : Path} {s : Session} {x : World} (wf : s.disk.WellFormed)
    (runs : Runs shared (fun _ => True) (.start s) x) : Isolated shared x := by
  obtain ⟨_, _, sound⟩ := runsSound (startSound wf) runs
  exact soundIsolated sound

def repeating : Session := .start (.empty .usual) fun _ => ⟨0⟩

/-- Two requests are given one id, and the second one is refused. -/
theorem repeatedIsolated : ∃ x v, Runs ⟨"/"⟩ (fun _ => True) (.start repeating) x ∧
    x.stages 0 = .holding v ∧ x.owned 1 = none ∧ (x.stages 1).result?.isSome = true ∧ Isolated ⟨"/"⟩ x := by
  have runs := runsAdvanced ⟨"/"⟩ (.start repeating) [0, 1, 0, 1, 0, 1, 0]
  refine ⟨_, below ⟨"/"⟩ ⟨0⟩, runs, ?_, ?_, ?_, runsIsolated (Disk.emptyWellFormed .usual) runs⟩
  · decide +kernel
  · decide +kernel
  · decide +kernel

end ClassScaffold.Workspace
