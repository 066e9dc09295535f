import ClassScaffold.Proofs.Disk.Restore
import Mathlib.Logic.Function.Basic
/-! Directories that were made afresh side by side. Around them is a base on which their places are free, and
which never loses anything; so none of them is inside another one, and what is changed below one of them,
or removed with it, is nowhere else. -/
namespace ClassScaffold.Disk
open ClassScaffold.Path (Part)
open Function (update)

/- The way to an entry, by its parts -/

theorem leadsWith {d : Disk} {links : Nat} {base : Location} {a b : List Step} {step : Step} {l : Location}
    (still : step.isMove = false) (there : d.get? l = some .directory)
    (leads : Leads d links base (a ++ b) l) : Leads d links base (a ++ step :: b) l := by
  by_cases none : b = []
  · rw [none, List.append_nil] at leads
    have last : Leads d 0 l [step] l := (leadsStill still).2 (.done 0 l)
    rw [none]
    exact leadsJoin (leadsInside leads there) last
  · obtain ⟨mid, n, m, sum, before, after⟩ := leadsCut none leads
    rw [← sum]
    exact leadsJoin before ((leadsStill still).2 after)

theorem movesLeads {d : Disk} {links : Nat} {base : Location} {steps : List Step} {l : Location}
    (there : d.get? l = some .directory) (leads : Leads d links base (steps.filter Step.isMove) l) :
    Leads d links base steps l := by
  have later (a b : List Step) (leads : Leads d links base (a ++ b.filter Step.isMove) l) :
      Leads d links base (a ++ b) l := by
    induction b generalizing a with
    | nil => simpa using leads
    | cons step rest ih =>
      cases moves : step.isMove with
      | true =>
        rw [List.filter_cons_of_pos moves, List.append_cons] at leads
        rw [List.append_cons]
        exact ih _ leads
      | false =>
        rw [List.filter_cons_of_neg (by simp [moves])] at leads
        exact leadsWith moves there (ih a leads)
  exact later [] steps leads

variable {b d d' : Disk} {p : Path} {ps : List Part} {name : String} {n : Name} {parent : Location}

theorem allEntry {r : Route} {a : List Step} (steps : r.steps = a ++ [.down n]) :
    ∃ rest, r.all = a ++ .down n :: rest := by
  unfold Route.all
  split
  · exact ⟨[.inside], by simp [steps]⟩
  · exact ⟨[], steps⟩

theorem allSteps {r : Route} {links : Nat} {base l : Location} (leads : Leads d links base r.all l) :
    Leads d links base r.steps l := by
  unfold Route.all at leads
  split at leads
  · exact leadsInit leads
  · exact leads

theorem wayEntry {a : List Step} (parts : p.parts = ps ++ [.normal name])
    (steps : (Route.ofText p.text).steps = a ++ [.down n]) :
    a.filter Step.isMove = way ps ∧ n = Text.Utf8.encode name := by
  have moves : (Route.ofText p.text).all.filter Step.isMove = a.filter Step.isMove ++ [.down n] := by
    unfold Route.all
    split <;> simp [steps, List.filter, Step.isMove]
  have whole := (routeParts (empty .usual) p).2
  rw [moves, parts, wayAppend] at whole
  obtain ⟨before, last⟩ := List.append_inj' whole rfl
  exact ⟨before, by simpa [way, stepOfPart] using last⟩

theorem spotReaches (parts : p.parts = ps ++ [.normal name]) (spotted : d.spot p = .ok (.entry parent n)) :
    Reaches d ps parent := by
  obtain ⟨_, _, a, steps, leads⟩ := spotEntry spotted
  have moves := leadsMoves leads
  rw [List.filter_append, (wayEntry parts steps).1, (routeParts d p).1, parts,
    originAppend (by simp)] at moves
  unfold Reaches
  simpa [Step.isMove] using moves

theorem reachesEntry {a : List Step} (parts : p.parts = ps ++ [.normal name])
    (steps : (Route.ofText p.text).steps = a ++ [.down n]) (reaches : Reaches d ps parent)
    (there : d.get? parent = some .directory) :
    Leads d linkLimit ((Route.ofText p.text).start d.here) (a ++ [.inside]) parent := by
  refine movesLeads there ?_
  rw [List.filter_append, (wayEntry parts steps).1, (routeParts d p).1, parts, originAppend (by simp)]
  simpa [Reaches, Step.isMove] using reaches

/-- What stands at the end of the way does not matter to where an entry is. -/
theorem spotBase (parts : p.parts = ps ++ [.normal name]) (grows : Grows b d) (reaches : Reaches b ps parent)
    (there : b.get? parent = some .directory) (spotted : d.spot p = .ok (.entry parent n)) :
    b.spot p = .ok (.entry parent n) := by
  obtain ⟨routed, short, a, steps, _⟩ := spotEntry spotted
  exact leadsSpot ((routeGrows grows p).symm.trans routed) (grows.limits ▸ short) steps
    (reachesEntry parts steps reaches there)

theorem makeDirectoryFresh (ok : d.makeDirectory p = .ok d') : (∀ l, d.find p ≠ .ok l) ∧
    ∃ l, d.get? l = none ∧ d' = d.put l .directory ∧ d'.find p = .ok l := by
  obtain ⟨parent, n, spotted, none, rfl⟩ := makeDirectorySpot ok
  refine ⟨fun l found => ?_, n :: parent, none, rfl, makeDirectoryFound spotted none⟩
  obtain ⟨_, _, a, steps, before⟩ := spotEntry spotted
  obtain ⟨rest, whole⟩ := allEntry steps
  have leads := (findLeads.1 found).2
  rw [whole] at leads
  obtain ⟨mid, _, _, _, toMid, after⟩ := leadsCut (by simp) leads
  obtain rfl := leadsUnique toMid before
  cases after with
  | directory _ entry | file _ entry | link _ entry => simp [none] at entry

/- Side by side -/

/-- A directory at a place that is free on the base. -/
structure Stands (b d : Disk) (p : Path) (l : Location) : Prop where
  spot : ∃ parent name, l = name :: parent ∧ b.spot p = .ok (.entry parent name)
  free : b.get? l = none
  directory : d.get? l = some .directory
  clear : IsClear d l

theorem standsSame {l : Location} (stands : Stands b d p l)
    (same : ∀ rel, d'.get? (rel ++ l) = d.get? (rel ++ l)) : Stands b d' p l :=
  ⟨stands.spot, stands.free, (same []).trans stands.directory, fun rel some target link =>
    stands.clear rel some target ((same rel).symm.trans link)⟩

theorem standsGrows {l : Location} (stands : Stands b d p l) (grows : Grows d d') : Stands b d' p l :=
  ⟨stands.spot, stands.free, grows.directories l stands.directory, clearGrows stands.clear grows⟩

theorem standsFresh {parent : Location} {n : Name} (wf : d.WellFormed) (spotted : b.spot p = .ok (.entry parent n))
    (free : b.get? (n :: parent) = none) (absent : d.get? (n :: parent) = none) :
    Stands b (d.put (n :: parent) .directory) p (n :: parent) := by
  refine ⟨⟨parent, n, rfl, spotted⟩, free, by rw [getPut d (by simp), if_pos rfl], fun rel some target link => ?_⟩
  rw [getPut d (by simp), if_neg (by simpa using some), nothingBelow wf absent] at link
  cases link

structure SideBySide (b d : Disk) (roots : Nat → Option (Path × Location)) : Prop where
  base : b.WellFormed
  wellFormed : d.WellFormed
  here : d.here = b.here
  limits : d.limits = b.limits
  stands : ∀ i p l, roots i = some (p, l) → Stands b d p l
  distinct : ∀ i j p q l, roots i = some (p, l) → roots j = some (q, l) → i = j
  outside : ∀ q, (∀ i p l, roots i = some (p, l) → ¬ l <:+ q) → d.get? q = b.get? q

variable {roots : Nat → Option (Path × Location)} {i j : Nat} {q : Path} {k l : Location}

theorem sideAlone (wf : d.WellFormed) : SideBySide d d fun _ => none :=
  ⟨wf, wf, rfl, rfl, by simp, by simp, fun _ _ => rfl⟩

theorem takenOutside (side : SideBySide b d roots) {l : Location} (taken : b.get? l ≠ none) :
    ∀ i p k, roots i = some (p, k) → ¬ k <:+ l := by
  rintro i p k rooted ⟨rel, rfl⟩
  exact taken (nothingBelow side.base (side.stands i p k rooted).free rel)

theorem sideGrows (side : SideBySide b d roots) : Grows b d := by
  have same {l : Location} (taken : b.get? l ≠ none) : d.get? l = b.get? l :=
    side.outside l (takenOutside side taken)
  refine ⟨side.here, side.limits, fun l h => ?_, fun l c h => ⟨c, ?_⟩, fun l t => ?_⟩
  · rw [same (by simp [h]), h]
  · rw [same (by simp [h]), h]
  · refine ⟨fun link => ?_, fun link => by rw [same (by simp [link]), link]⟩
    -- there are no links in what stands at a place of its own
    rw [← side.outside l, link]
    rintro i p k rooted ⟨rel, rfl⟩
    have stands := side.stands i p k rooted
    cases rel with
    | nil => simp [stands.directory] at link
    | cons name rest => exact stands.clear (name :: rest) (by simp) t link

theorem sideRegion (side : SideBySide b d roots) (rooted : roots i = some (p, l)) : Region d p l := by
  have stands := side.stands i p l rooted
  obtain ⟨parent, name, rfl, spotted⟩ := stands.spot
  have found := spotFound (spotGrows (sideGrows side) spotted) stands.directory
  exact ⟨side.wellFormed, found, stands.directory, stands.clear⟩

theorem sideApart (side : SideBySide b d roots) (rooted : roots i = some (p, k)) (other : roots j = some (q, l))
    (apart : i ≠ j) : ¬ k <:+ l := by
  intro inside
  obtain ⟨parent, name, rfl, spotted⟩ := (side.stands j q l other).spot
  rcases List.suffix_cons_iff.1 inside with rfl | above
  · exact apart (side.distinct i j p q _ rooted other)
  · have directory := spotDirectory side.base spotted
    exact takenOutside side (by simp [directory]) i p k rooted above

theorem sideKept (side : SideBySide b d roots) (rooted : roots i = some (p, k)) (other : roots j = some (q, l))
    (apart : i ≠ j) {rel : Location} : ¬ k <:+ rel ++ l := by
  intro inside
  rcases List.suffix_or_suffix_of_suffix inside (List.suffix_append rel l) with below | above
  · exact sideApart side rooted other apart below
  · exact sideApart side other rooted (Ne.symm apart) above

theorem sideSame (side : SideBySide b d roots) (wf : d'.WellFormed) (here : d'.here = d.here)
    (limits : d'.limits = d.limits) (same : ∀ l, d'.get? l = d.get? l) : SideBySide b d' roots := by
  refine ⟨side.base, wf, here.trans side.here, limits.trans side.limits, fun i p l rooted => ?_, side.distinct,
    fun q outer => (same q).trans (side.outside q outer)⟩
  exact standsSame (side.stands i p l rooted) fun rel => same (rel ++ l)

theorem sideConfined (side : SideBySide b d roots) (rooted : roots i = some (p, l)) (confined : Confined p d d') :
    SideBySide b d' roots ∧ ∀ q, ¬ l <:+ q → d'.get? q = d.get? q := by
  have same (q : Location) (outer : ¬ l <:+ q) : d'.get? q = d.get? q := by
    by_contra other
    obtain ⟨rel, _, rfl⟩ := changedBelow (sideRegion side rooted) confined other
    exact outer (List.suffix_append rel l)
  refine ⟨⟨side.base, confined.wellFormed, confined.grows.here.trans side.here,
    confined.grows.limits.trans side.limits, fun j q k other => ?_, side.distinct, fun q outer => ?_⟩, same⟩
  · exact standsGrows (side.stands j q k other) confined.grows
  · rw [same q (outer i p l rooted)]
    exact side.outside q outer

theorem updateSome {r : Path × Location} : update roots i (some r) j = some (q, k) ↔
    j = i ∧ r = (q, k) ∨ j ≠ i ∧ roots j = some (q, k) := by
  rw [Function.update_apply]
  split <;> simp [*]

theorem updateNone : update roots i none j = some (q, k) ↔ j ≠ i ∧ roots j = some (q, k) := by
  rw [Function.update_apply]
  split <;> simp [*]

theorem sideMake (side : SideBySide b d roots) (unrooted : roots i = none)
    (parts : p.parts = ps ++ [.normal name]) (reaches : Reaches b ps l) (there : b.get? l = some .directory)
    (ok : d.makeDirectory p = .ok d') :
    ∃ k, SideBySide b d' (update roots i (some (p, k))) ∧ d.get? k = none ∧ d' = d.put k .directory := by
  obtain ⟨parent, n, spotted, none, rfl⟩ := makeDirectorySpot ok
  obtain rfl : parent = l := reachesUnique (spotReaches parts spotted) (reachesGrows (sideGrows side) reaches)
  have grows : Grows d (d.put (n :: parent) .directory) := putGrows (by simp) (.inl ⟨none, by simp⟩)
  have outer (j : Nat) (q : Path) (k : Location) (rooted : roots j = some (q, k)) : ¬ k <:+ n :: parent := by
    intro inside
    rcases List.suffix_cons_iff.1 inside with rfl | above
    · simp [(side.stands j q _ rooted).directory] at none
    · exact takenOutside side (by simp [there]) j q k rooted above
  have free : b.get? (n :: parent) = .none := (side.outside _ outer).symm.trans none
  have fresh := standsFresh side.wellFormed (spotBase parts (sideGrows side) reaches there spotted) free none
  have wellFormed : (d.put (n :: parent) .directory).WellFormed :=
    putWellFormed side.wellFormed (spotDirectory side.wellFormed spotted) (.inl rfl)
  refine ⟨n :: parent, ⟨side.base, wellFormed, side.here, side.limits, fun j q k rooted => ?_,
    fun j j' q q' k rooted rooted' => ?_, fun q outside => ?_⟩, none, rfl⟩
  · rcases updateSome.1 rooted with ⟨_, same⟩ | ⟨_, rooted⟩
    · cases same
      exact fresh
    · exact standsGrows (side.stands j q k rooted) grows
  · rcases updateSome.1 rooted with ⟨rfl, same⟩ | ⟨_, older⟩ <;>
      rcases updateSome.1 rooted' with ⟨rfl, same'⟩ | ⟨_, older'⟩
    · rfl
    · cases same
      exact absurd (List.suffix_refl _) (outer j' q' _ older')
    · cases same'
      exact absurd (List.suffix_refl _) (outer j q _ older)
    · exact side.distinct j j' q q' k older older'
  · have apart : q ≠ n :: parent := by
      rintro rfl
      exact outside i p _ (updateSome.2 (.inl ⟨rfl, rfl⟩)) (List.suffix_refl _)
    rw [getPut d (by simp), if_neg apart]
    refine side.outside q fun j p k rooted => outside j p k (updateSome.2 (.inr ⟨?_, rooted⟩))
    rintro rfl
    simp [unrooted] at rooted

theorem sideRemove (side : SideBySide b d roots) (rooted : roots i = some (p, l)) :
    SideBySide b (d.remove p) (update roots i none) ∧
      ∀ q, (d.remove p).get? q = if l <:+ q then none else d.get? q := by
  obtain ⟨parent, name, rfl, spotted⟩ := (side.stands i p l rooted).spot
  have directory := (side.stands i p _ rooted).directory
  have removed := removeSpot (spotGrows (sideGrows side) spotted) directory
  have get (q : Location) : (d.remove p).get? q = if name :: parent <:+ q then none else d.get? q := by
    rw [removed, getRemoveTree d (by simp)]
  have kept {q : Location} (outer : ¬ name :: parent <:+ q) : (d.remove p).get? q = d.get? q := by
    rw [get, if_neg outer]
  have here : (d.remove p).here = d.here := by
    rw [removed]
    rfl
  refine ⟨⟨side.base, ⟨removeDistinct side.wellFormed p, fun n q some => ?_, ?_⟩, here.trans side.here, ?_,
    fun j q k other => ?_, fun j j' q q' k other other' => ?_, fun q outside => ?_⟩, get⟩
  · have outer : ¬ name :: parent <:+ n :: q := fun inside => some (by rw [get, if_pos inside])
    rw [kept outer] at some
    rw [kept fun inside => outer (inside.trans (List.suffix_cons n q))]
    exact side.wellFormed.parents n q some
  · have start := side.base.here
    rw [here, side.here, kept (takenOutside side (by simp [start]) i p _ rooted), ← side.here]
    exact side.wellFormed.here
  · rw [removed]
    exact side.limits
  · obtain ⟨apart, other⟩ := updateNone.1 other
    exact standsSame (side.stands j q k other) fun rel => kept (sideKept side rooted other (Ne.symm apart))
  · exact side.distinct j j' q q' k (updateNone.1 other).2 (updateNone.1 other').2
  · by_cases inside : name :: parent <:+ q
    · obtain ⟨rel, rfl⟩ := inside
      rw [get, if_pos (List.suffix_append ..)]
      exact (nothingBelow side.base (side.stands i p _ rooted).free rel).symm
    · rw [kept inside]
      refine side.outside q fun j p' k other => ?_
      by_cases same : j = i
      · subst same
        obtain rfl : k = name :: parent := by
          have := rooted.symm.trans other
          cases this
          rfl
        exact inside
      · exact outside j p' k (updateNone.2 ⟨same, other⟩)

end ClassScaffold.Disk
