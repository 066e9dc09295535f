import ClassScaffold.Proofs.Disk.Apart
import ClassScaffold.Proofs.Workspace.Stage
/-! What holds at any time while requests go on. The roots of the workspaces that are there stand side by side
on a base where the directory that all share is; each operation keeps that, and keeps what is below the
roots of the other requests. -/
namespace ClassScaffold.Workspace
open Disk (Confined IsClear Reaches SideBySide)
open Function (update)
open Generator (numbered removed)

/- What holds at any time -/

def Stage.isInside : Stage → Bool
  | naming | claiming _ | settling _ | failing _ _ | holding _ | leaving _ => true
  | starting | refused _ | left => false

theorem ownedInside {stage : Stage} {w : Workspace} (owned : stage.owned = some w) : stage.isInside = true := by
  cases stage <;> first | rfl | contradiction

def SharedThere (shared : Path) (b : Disk) : Prop :=
  ∃ l, Reaches b shared.parts l ∧ b.get? l = some .directory

structure Sound (shared : Path) (x : World) (b : Disk) (roots : Nat → Option (Path × Disk.Location)) : Prop where
  side : SideBySide b x.disk roots
  owned : ∀ i, (roots i).map Prod.fst = (x.owned i).map Workspace.root
  named : ∀ i w, x.stages i = .claiming w → ∃ id, w = below shared id
  there : ∀ i, (x.stages i).isInside = true → SharedThere shared b

/-- Nothing has changed in the workspaces of the others. -/
def Kept (i : Nat) (d d' : Disk) (roots roots' : Nat → Option (Path × Disk.Location)) : Prop :=
  ∀ j q l, j ≠ i → roots j = some (q, l) →
    roots' j = some (q, l) ∧ ∀ rel, d'.get? (rel ++ l) = d.get? (rel ++ l)

variable {shared : Path} {x y : World} {b d : Disk} {roots roots' : Nat → Option (Path × Disk.Location)}
  {i j : Nat} {w : Workspace} {s t : Session} {stage next : Stage}

theorem startSound (wf : s.disk.WellFormed) : Sound shared (.start s) s.disk fun _ => none :=
  ⟨Disk.sideAlone wf, fun _ => rfl, by simp [World.start], by simp [World.start, Stage.isInside]⟩

theorem soundRooted (sound : Sound shared x b roots) (owned : x.owned i = some w) :
    ∃ l, roots i = some (w.root, l) := by
  have same := sound.owned i
  rw [owned] at same
  obtain ⟨⟨p, l⟩, rooted, rfl⟩ := Option.map_eq_some_iff.1 same
  exact ⟨l, rooted⟩

theorem soundUnrooted (sound : Sound shared x b roots) (owned : x.owned i = none) : roots i = none := by
  have same := sound.owned i
  rwa [owned, Option.map_none, Option.map_eq_none_iff] at same

/-- It is enough to look at the request that moves. -/
theorem soundUpdate (sound : Sound shared x b roots) (side : SideBySide b t.disk roots')
    (others : ∀ j, j ≠ i → roots' j = roots j) (own : (roots' i).map Prod.fst = next.owned.map Workspace.root)
    (named : ∀ w, next = .claiming w → ∃ id, w = below shared id)
    (there : next.isInside = true → SharedThere shared b) :
    Sound shared ⟨t, update x.stages i next⟩ b roots' := by
  refine ⟨side, fun j => ?_, fun j w claims => ?_, fun j inside => ?_⟩ <;> by_cases same : j = i
  · subst same
    simpa [World.owned] using own
  · rw [others j same, sound.owned j]
    simp [World.owned, same]
  · subst same
    exact named w (by simpa using claims)
  · exact sound.named j w (by simpa [same] using claims)
  · subst same
    exact there (by simpa using inside)
  · exact sound.there j (by simpa [same] using inside)

theorem soundStill (sound : Sound shared x b roots) (side : SideBySide b t.disk roots)
    (own : next.owned = x.owned i) (named : ∀ w, next = .claiming w → ∃ id, w = below shared id)
    (there : next.isInside = true → SharedThere shared b) :
    Sound shared ⟨t, update x.stages i next⟩ b roots :=
  soundUpdate sound side (fun _ _ => rfl) (by rw [own]; exact sound.owned i) named there

/- One operation -/

theorem keptSame (same : ∀ l, t.disk.get? l = x.disk.get? l) : Kept i x.disk t.disk roots roots :=
  fun _ _ _ _ rooted => ⟨rooted, fun _ => same _⟩

theorem sharedMade {d d' : Disk} (wf : d.WellFormed) (ok : d.makeDirectories shared = (.ok (), d')) :
    SharedThere shared d' := by
  have made := Disk.makeDirectoriesMade wf shared
  rw [ok] at made
  by_cases empty : shared.text = ""
  · -- the empty path is where relative paths start
    have parts : shared.parts = [] := by
      cases shared
      cases empty
      rfl
    rw [SharedThere, parts]
    exact ⟨d'.origin [], .done _ _, Disk.originDirectory made.wellFormed []⟩
  · obtain ⟨l, found, directory⟩ := Disk.isDirectoryReaches (Disk.makeDirectoriesThere wf empty ok)
    exact ⟨l, Disk.findReaches found, directory⟩

theorem soundAlone (wf : t.disk.WellFormed) (alone : ∀ j, (x.stages j).isInside = false) (own : next.owned = none)
    (unclaimed : ∀ w, next ≠ .claiming w) (there : next.isInside = true → SharedThere shared t.disk) :
    Sound shared ⟨t, update x.stages i next⟩ t.disk fun _ => none := by
  have unowned (j : Nat) : (x.stages j).owned = none := by
    cases owned : (x.stages j).owned with
    | none => rfl
    | some w =>
      have inside := ownedInside owned
      rw [alone j] at inside
      contradiction
  refine ⟨Disk.sideAlone wf, fun j => ?_, fun j w claims => ?_, fun j inside => ?_⟩ <;> by_cases same : j = i
  · subst same
    simp [World.owned, own]
  · simp [World.owned, same, unowned j]
  · subst same
    exact absurd (by simpa using claims) (unclaimed w)
  · have claims : x.stages j = .claiming w := by simpa [same] using claims
    have outside := alone j
    simp [claims, Stage.isInside] at outside
  · subst same
    exact there (by simpa using inside)
  · simp [same, alone j] at inside

theorem sharedSound (sound : Sound shared x b roots) (starts : x.stages i = .starting) {r : Except Disk.Fault Unit}
    (ran : (Host.makeDirectories shared : StateM Session _).run x.session = (r, t)) (own : next.owned = none)
    (unclaimed : ∀ w, next ≠ .claiming w) (ok : next.isInside = true → r = .ok ()) :
    ∃ b' roots', Sound shared ⟨t, update x.stages i next⟩ b' roots' ∧ Kept i x.disk t.disk roots roots' := by
  have made := Session.makeDirectoriesMade sound.side.wellFormed ran
  by_cases there : SharedThere shared b
  · -- the directory that all share is there, and nothing is done
    obtain ⟨l, reaches, directory⟩ := there
    have grows := Disk.sideGrows sound.side
    have same := Disk.madeReached sound.side.wellFormed (Disk.reachesGrows grows reaches)
      (grows.directories l directory) made
    have side := Disk.sideSame sound.side made.wellFormed made.grows.here made.grows.limits same
    have unowned : next.owned = x.owned i := by
      rw [own, World.owned, starts]
      rfl
    exact ⟨b, roots, soundStill sound side unowned (fun w claims => absurd claims (unclaimed w))
      fun _ => ⟨l, reaches, directory⟩, keptSame same⟩
  · -- nobody has come further, so there are no workspaces, and the disk is a new base
    have alone (j : Nat) : (x.stages j).isInside = false := by
      rw [Bool.eq_false_iff]
      exact fun inside => there (sound.there j inside)
    have found (inside : next.isInside = true) : SharedThere shared t.disk := by
      rw [ok inside] at ran
      exact sharedMade sound.side.wellFormed (Session.makeDirectoriesOk ran)
    refine ⟨t.disk, _, soundAlone made.wellFormed alone own unclaimed found, fun j q l _ rooted => ?_⟩
    have owned := sound.owned j
    rw [rooted] at owned
    obtain ⟨w, owned, _⟩ := Option.map_eq_some_iff.1 owned.symm
    have inside := ownedInside owned
    rw [alone j] at inside
    contradiction

theorem claimSound (sound : Sound shared x b roots) (claims : x.stages i = .claiming w)
    (ok : x.disk.makeDirectory w.root = .ok t.disk) :
    ∃ roots', Sound shared ⟨t, update x.stages i (.settling w)⟩ b roots' ∧ Kept i x.disk t.disk roots roots' := by
  have free : x.owned i = none := by simp [World.owned, claims, Stage.owned]
  obtain ⟨id, rfl⟩ := sound.named i w claims
  obtain ⟨l, reaches, directory⟩ := sound.there i (by rw [claims]; rfl)
  obtain ⟨k, side, none, made⟩ :=
    Disk.sideMake sound.side (soundUnrooted sound free) (belowWithin shared id) reaches directory ok
  refine ⟨_, soundUpdate sound side (fun j other => ?_) ?_ (by simp) fun _ => ⟨l, reaches, directory⟩,
    fun j q m other rooted => ?_⟩
  · simp [other]
  · simp [Stage.owned]
  · have rooted' : update roots i (some ((below shared id).root, k)) j = some (q, m) := by simpa [other] using rooted
    refine ⟨rooted', fun rel => ?_⟩
    have apart : ¬ k <:+ rel ++ m := Disk.sideKept side (Disk.updateSome.2 (.inl ⟨rfl, rfl⟩)) rooted' (Ne.symm other)
    have some : k ≠ [] := by
      rintro rfl
      exact apart List.nil_suffix
    rw [made, Disk.getPut _ some, if_neg]
    rintro rfl
    exact apart (List.suffix_refl _)

theorem confinedSound (sound : Sound shared x b roots) (owned : x.owned i = some w)
    (confined : Confined w.root x.disk t.disk) :
    SideBySide b t.disk roots ∧ Kept i x.disk t.disk roots roots := by
  obtain ⟨k, rooted⟩ := soundRooted sound owned
  obtain ⟨side, outside⟩ := Disk.sideConfined sound.side rooted confined
  exact ⟨side, fun j q l other rooted' =>
    ⟨rooted', fun rel => outside _ (Disk.sideKept sound.side rooted rooted' (Ne.symm other))⟩⟩

theorem removedSound (sound : Sound shared x b roots) (owned : x.owned i = some w) (next : Stage)
    (own : next.owned = none) (unclaimed : ∀ w, next ≠ .claiming w) (outside : next.isInside = false) :
    ∃ roots', Sound shared ⟨removed w x.session, update x.stages i next⟩ b roots' ∧
      Kept i x.disk (x.disk.remove w.root) roots roots' := by
  obtain ⟨k, rooted⟩ := soundRooted sound owned
  obtain ⟨side, get⟩ := Disk.sideRemove sound.side rooted
  refine ⟨update roots i none, soundUpdate sound side (fun j other => ?_) ?_
    (fun w claims => absurd claims (unclaimed w)) fun inside => ?_, fun j q l other rooted' => ⟨?_, fun rel => ?_⟩⟩
  · simp [other]
  · simp [own]
  · simp [outside] at inside
  · simpa [other] using rooted'
  · rw [get, if_neg (Disk.sideKept sound.side rooted rooted' (Ne.symm other))]

theorem sameSound (sound : Sound shared x b roots) (same : t.disk = x.disk) (own : next.owned = x.owned i)
    (unclaimed : ∀ w, next ≠ .claiming w) (inside : next.isInside = true → (x.stages i).isInside = true) :
    ∃ b' roots', Sound shared ⟨t, update x.stages i next⟩ b' roots' ∧ Kept i x.disk t.disk roots roots' :=
  ⟨b, roots, soundStill sound (same ▸ sound.side) own (fun w claims => absurd claims (unclaimed w))
    fun inner => sound.there i (inside inner), keptSame fun _ => by rw [same]⟩

theorem advancedSound (sound : Sound shared x b roots) (advanced : Advanced shared x.session (x.stages i) next t) :
    ∃ b' roots', Sound shared ⟨t, update x.stages i next⟩ b' roots' ∧ Kept i x.disk t.disk roots roots' := by
  generalize stage : x.stages i = now at advanced
  have owned : x.owned i = now.owned := by rw [World.owned, stage]
  cases advanced with
  | shares ran => exact sharedSound sound stage ran rfl (by simp) fun _ => rfl
  | sharesNot ran => exact sharedSound sound stage ran rfl (by simp) (by simp [Stage.isInside])
  | names =>
    have claimed : Sound shared ⟨numbered x.session,
        update x.stages i (.claiming (below shared (x.session.ids x.session.idsTaken)))⟩ b roots :=
      soundStill sound sound.side owned.symm (fun w claims => ⟨_, (Stage.claiming.inj claims).symm⟩)
        fun _ => sound.there i (by rw [stage]; rfl)
    exact ⟨b, roots, claimed, keptSame fun _ => rfl⟩
  | claims ran =>
    rcases Session.makeDirectoryCases ran with ⟨_, ok⟩ | ⟨_, impossible, _⟩
    · obtain ⟨roots', claimed, kept⟩ := claimSound sound stage ok
      exact ⟨b, roots', claimed, kept⟩
    · cases impossible
  | claimsNot ran =>
    rcases Session.makeDirectoryCases ran with ⟨impossible, _⟩ | ⟨_, _, same⟩
    · cases impossible
    · exact sameSound sound same owned.symm (by simp) (by simp [Stage.isInside])
  | @settles w t ran =>
    rcases Session.makeDirectoryCases ran with ⟨_, ok⟩ | ⟨_, impossible, _⟩
    · obtain ⟨k, rooted⟩ := soundRooted sound owned
      have there := Disk.regionThere (Disk.sideRegion sound.side rooted)
      have made := (Disk.makeDirectoryMade sound.side.wellFormed ok).1
      have confined := Disk.madeConfined sound.side.wellFormed there (Generator.projectWithin w) made
      obtain ⟨side, kept⟩ := confinedSound sound owned confined
      exact ⟨b, roots, soundStill sound side owned.symm (by simp) fun _ => sound.there i (by rw [stage]; rfl), kept⟩
    · cases impossible
  | settlesNot ran =>
    rcases Session.makeDirectoryCases ran with ⟨impossible, _⟩ | ⟨_, _, same⟩
    · cases impossible
    · exact sameSound sound same owned.symm (by simp) (by simp [stage, Stage.isInside])
  | cleans =>
    obtain ⟨roots', gone, kept⟩ := removedSound sound owned (.refused _) rfl (by simp) rfl
    exact ⟨b, roots', gone, kept⟩
  | leaves =>
    obtain ⟨roots', gone, kept⟩ := removedSound sound owned .left rfl (by simp) rfl
    exact ⟨b, roots', gone, kept⟩
  | rests still =>
    subst stage
    have whole : (⟨x.session, update x.stages i (x.stages i)⟩ : World) = x := by rw [Function.update_eq_self]
    rw [whole]
    exact ⟨b, roots, sound, keptSame fun _ => rfl⟩

theorem worksConfined {root : Path} (wf : s.disk.WellFormed) (there : s.disk.isDirectory root = true)
    (works : Works root s t) : Confined root s.disk t.disk := by
  cases works with
  | makeDirectories within ran => exact Disk.madeConfined wf there within (Session.makeDirectoriesMade wf ran)
  | writeFile within some ran => exact Session.writeFileConfined wf some within ran
  | look ran =>
    rw [Session.lookDisk ran]
    exact Disk.confinedRefl wf root

theorem stepSound (sound : Sound shared x b roots) (step : Step shared i x y) :
    ∃ b' roots', Sound shared y b' roots' ∧ Kept i x.disk y.disk roots roots' := by
  cases step with
  | advance ran => exact advancedSound sound (advanceCases ran)
  | @work w t holds works =>
    have owned : x.owned i = some w := by rw [World.owned, holds]; rfl
    obtain ⟨k, rooted⟩ := soundRooted sound owned
    have there := Disk.regionThere (Disk.sideRegion sound.side rooted)
    obtain ⟨side, kept⟩ := confinedSound sound owned (worksConfined sound.side.wellFormed there works)
    exact ⟨b, roots, ⟨side, sound.owned, sound.named, sound.there⟩, kept⟩
  | giveUp holds =>
    exact sameSound sound rfl (by rw [World.owned, holds]; rfl) (by simp) (by simp [holds, Stage.isInside])
  | cancel settles =>
    exact sameSound sound rfl (by rw [World.owned, settles]; rfl) (by simp) (by simp [settles, Stage.isInside])

/- Runs -/

theorem runsSound {who : Nat → Prop} (sound : Sound shared x b roots) (runs : Runs shared who x y) :
    ∃ b' roots', Sound shared y b' roots' := by
  induction runs with
  | refl => exact ⟨b, roots, sound⟩
  | step before mover next ih =>
    obtain ⟨_, _, sound⟩ := ih
    obtain ⟨b', roots', sound, _⟩ := stepSound sound next
    exact ⟨b', roots', sound⟩

/-- However long the others go on, a request finds its workspace as it left it. -/
theorem runsKept {q : Path} {l : Disk.Location} (sound : Sound shared x b roots) (rooted : roots j = some (q, l))
    (runs : Runs shared (· ≠ j) x y) : y.stages j = x.stages j ∧
      (∃ b' roots', Sound shared y b' roots' ∧ roots' j = some (q, l)) ∧
      ∀ rel, y.disk.get? (rel ++ l) = x.disk.get? (rel ++ l) := by
  induction runs with
  | refl => exact ⟨rfl, ⟨b, roots, sound, rooted⟩, fun _ => rfl⟩
  | step before mover next ih =>
    obtain ⟨stages, ⟨b', roots', sound, rooted⟩, same⟩ := ih
    obtain ⟨b', roots', sound, kept⟩ := stepSound sound next
    obtain ⟨rooted, still⟩ := kept j q l (Ne.symm mover) rooted
    exact ⟨(stepStages next (Ne.symm mover)).trans stages, ⟨b', roots', sound, rooted⟩,
      fun rel => (still rel).trans (same rel)⟩

end ClassScaffold.Workspace
