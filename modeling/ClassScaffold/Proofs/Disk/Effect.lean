import ClassScaffold.Proofs.Disk.Reach
/-! What making directories and writing files does to a disk. Whatever comes of an operation, the disk has
grown and everything on it stands in a directory. Where something has changed the path that was asked for
leads to, or a path that it goes through. -/
namespace ClassScaffold.Disk
open Text.Utf8 (Bytes)

/- Making directories -/

/-- Directories were made on the way that the parts of a path take, and nothing else was done. -/
structure Made (p : Path) (d d' : Disk) : Prop where
  grows : Grows d d'
  wellFormed : d'.WellFormed
  changed : ∀ l, d'.get? l ≠ d.get? l → d.get? l = none ∧ d'.get? l = some .directory ∧
    ∃ q n, q.parts = p.parts.take n ∧ d'.find q = .ok l

theorem madeRefl {d : Disk} (wf : d.WellFormed) (p : Path) : Made p d d :=
  ⟨growsRefl d, wf, fun _ other => absurd rfl other⟩

theorem madeTrans {p : Path} {a b c : Disk} (first : Made p a b) (second : Made p b c) : Made p a c := by
  refine ⟨growsTrans first.grows second.grows, second.wellFormed, fun l other => ?_⟩
  by_cases same : b.get? l = a.get? l
  · rw [← same] at other ⊢
    exact second.changed l other
  · obtain ⟨none, directory, q, n, way, found⟩ := first.changed l same
    exact ⟨none, second.grows.directories l directory, q, n, way, findGrows second.grows found⟩

theorem madeWithin {p q : Path} {d d' : Disk} {n : Nat} (way : q.parts = p.parts.take n) (made : Made q d d') :
    Made p d d' := by
  refine ⟨made.grows, made.wellFormed, fun l other => ?_⟩
  obtain ⟨none, directory, q', n', way', found⟩ := made.changed l other
  exact ⟨none, directory, q', min n' n, by rw [way', way, List.take_take], found⟩

theorem spotEntry {d : Disk} {p : Path} {parent : Location} {name : Name}
    (ok : d.spot p = .ok (.entry parent name)) :
    d.route p = .ok (Route.ofText p.text) ∧ d.limits.allowName name = true ∧
      ∃ a, (Route.ofText p.text).steps = a ++ [.down name] ∧
        Leads d linkLimit ((Route.ofText p.text).start d.here) (a ++ [.inside]) parent := by
  unfold spot at ok
  cases routed : d.route p with
  | error e => simp [routed, bind, Except.bind] at ok
  | ok r =>
    have same := routeText routed
    subst same
    simp only [routed, bind, Except.bind, spotFrom] at ok
    refine ⟨rfl, ?_⟩
    split at ok
    · next last ends =>
      split at ok
      · contradiction
      · next directory walked =>
        split at ok
        · next short =>
          cases ok
          refine ⟨short, _, ?_, walkLeads walked⟩
          obtain ⟨init, whole⟩ := List.getLast?_eq_some_iff.1 ends
          rw [whole, List.dropLast_concat]
        · contradiction
    · cases walked : d.walk .reach ((Route.ofText p.text).start d.here) (Route.ofText p.text).steps <;>
        simp [walked, Except.map] at ok

theorem leadsSpot {d : Disk} {p : Path} {parent : Location} {name : Name} {a : List Step}
    (routed : d.route p = .ok (Route.ofText p.text)) (short : d.limits.allowName name = true)
    (steps : (Route.ofText p.text).steps = a ++ [.down name])
    (leads : Leads d linkLimit ((Route.ofText p.text).start d.here) (a ++ [.inside]) parent) :
    d.spot p = .ok (.entry parent name) := by
  have walked : d.walk .reach ((Route.ofText p.text).start d.here) (a ++ [.inside]) = .ok parent :=
    leadsWalk leads
  unfold spot
  rw [routed]
  simp only [bind, Except.bind, spotFrom, steps, List.getLast?_concat, List.dropLast_concat]
  simp [walked, short]

theorem spotGrows {d d' : Disk} (grows : Grows d d') {p : Path} {parent : Location} {name : Name}
    (spotted : d.spot p = .ok (.entry parent name)) : d'.spot p = .ok (.entry parent name) := by
  obtain ⟨routed, short, _, steps, leads⟩ := spotEntry spotted
  exact leadsSpot ((routeGrows grows p).trans routed) (grows.limits ▸ short) steps
    (grows.here ▸ leadsGrows grows leads)

theorem makeDirectorySpot {d d' : Disk} {p : Path} (ok : d.makeDirectory p = .ok d') :
    ∃ parent name, d.spot p = .ok (.entry parent name) ∧ d.get? (name :: parent) = none ∧
      d' = d.put (name :: parent) .directory := by
  unfold makeDirectory at ok
  cases spotted : d.spot p with
  | error e => simp [spotted, bind, Except.bind] at ok
  | ok spot =>
    simp only [spotted, bind, Except.bind] at ok
    cases spot with
    | directory l => contradiction
    | entry parent name =>
      simp only at ok
      split at ok
      · contradiction
      · next none =>
        cases ok
        exact ⟨parent, name, rfl, none, rfl⟩

theorem spotDirectory {d : Disk} (wf : d.WellFormed) {p : Path} {parent : Location} {name : Name}
    (spotted : d.spot p = .ok (.entry parent name)) : d.get? parent = some .directory := by
  obtain ⟨_, _, a, _, leads⟩ := spotEntry spotted
  exact insideDirectory wf (startDirectory wf.here _) leads

theorem spotFound {d : Disk} {p : Path} {parent : Location} {name : Name}
    (spotted : d.spot p = .ok (.entry parent name)) (there : d.get? (name :: parent) = some .directory) :
    d.find p = .ok (name :: parent) := by
  obtain ⟨routed, short, a, steps, leads⟩ := spotEntry spotted
  have last : Leads d 0 parent [.down name] (name :: parent) := .directory short there (.done 0 _)
  have whole := leadsJoin leads last
  rw [← steps, Nat.add_zero] at whole
  refine findLeads.2 ⟨routed, ?_⟩
  unfold Route.all
  split
  · exact leadsInside whole there
  · exact whole

theorem makeDirectoryFound {d : Disk} {p : Path} {parent : Location} {name : Name}
    (spotted : d.spot p = .ok (.entry parent name)) (none : d.get? (name :: parent) = none) :
    (d.put (name :: parent) .directory).find p = .ok (name :: parent) := by
  have grows : Grows d (d.put (name :: parent) .directory) :=
    putGrows (by simp) (.inl ⟨none, by simp⟩)
  exact spotFound (spotGrows grows spotted) (by rw [getPut d (by simp), if_pos rfl])

theorem isDirectoryFound {d : Disk} {p : Path} {l : Location} (found : d.find p = .ok l)
    (there : d.get? l = some .directory) : d.isDirectory p = true := by
  simp [isDirectory, found, there]

theorem makeDirectoryMade {d d' : Disk} (wf : d.WellFormed) {p : Path} (ok : d.makeDirectory p = .ok d') :
    Made p d d' ∧ d'.isDirectory p = true := by
  obtain ⟨parent, name, spotted, none, rfl⟩ := makeDirectorySpot ok
  have found := makeDirectoryFound spotted none
  have there : (d.put (name :: parent) .directory).get? (name :: parent) = some .directory := by
    rw [getPut d (by simp), if_pos rfl]
  refine ⟨⟨putGrows (by simp) (.inl ⟨none, by simp⟩),
    putWellFormed wf (spotDirectory wf spotted) (.inl rfl), fun l other => ?_⟩, isDirectoryFound found there⟩
  by_cases same : l = name :: parent
  · subst same
    exact ⟨none, there, p, p.parts.length, by simp, found⟩
  · rw [getPut d (by simp), if_neg same] at other
    contradiction

theorem makeOrKeepMade {d d' : Disk} (wf : d.WellFormed) {p : Path} (ok : d.makeOrKeep p = .ok d') :
    Made p d d' ∧ d'.isDirectory p = true := by
  unfold makeOrKeep at ok
  split at ok
  · next made =>
    cases ok
    exact makeDirectoryMade wf made
  · split at ok
    · next there =>
      cases ok
      exact ⟨madeRefl wf p, there⟩
    · contradiction

theorem makeWithinMade {d : Disk} (wf : d.WellFormed) (p : Path) (depth : Nat) :
    Made p d (d.makeWithin p depth).2 ∧ ((d.makeWithin p depth).1 = .ok () →
      p.text = "" ∨ (d.makeWithin p depth).2.isDirectory p = true) := by
  induction depth generalizing d p with
  | zero => exact ⟨madeRefl wf p, fun ok => by simp [makeWithin] at ok⟩
  | succ depth ih =>
    unfold makeWithin
    split
    · next empty => exact ⟨madeRefl wf p, fun _ => .inl (by simpa using empty)⟩
    · split
      · next made =>
        obtain ⟨made, there⟩ := makeDirectoryMade wf made
        exact ⟨made, fun _ => .inr there⟩
      · split
        · exact ⟨madeRefl wf p, fun ok => by simp at ok⟩
        · next parent above =>
          obtain ⟨around, _⟩ := ih wf parent
          have way : parent.parts = p.parts.take (p.parts.length - 1) := by
            rw [Path.parentDropLast above, List.dropLast_eq_take]
          -- the way to the parent is part of the way to `p`
          have around := madeWithin way around
          split
          · next failed =>
            rw [failed] at around
            exact ⟨around, fun ok => by simp at ok⟩
          · next went =>
            rw [went] at around
            split
            · next made =>
              obtain ⟨last, there⟩ := makeOrKeepMade around.wellFormed made
              exact ⟨madeTrans around last, fun _ => .inr there⟩
            · exact ⟨around, fun ok => by simp at ok⟩
      · split
        · next there => exact ⟨madeRefl wf p, fun _ => .inr there⟩
        · exact ⟨madeRefl wf p, fun ok => by simp at ok⟩

/- Writing files -/

structure IsFilePlace (d : Disk) (l : Location) : Prop where
  parent : ∃ name outer, l = name :: outer ∧ d.get? outer = some .directory
  free : d.get? l = none ∨ ∃ c, d.get? l = some (.file c)

theorem filePlaceGrows {d : Disk} {l : Location} (place : IsFilePlace d l) (c : Bytes) :
    Grows d (d.put l (.file c)) := by
  obtain ⟨name, outer, rfl, _⟩ := place.parent
  refine putGrows (by simp) ?_
  rcases place.free with none | ⟨old, file⟩
  · exact .inl ⟨none, by simp⟩
  · exact .inr ⟨old, c, file, rfl⟩

theorem filePlaceWellFormed {d : Disk} (wf : d.WellFormed) {l : Location} (place : IsFilePlace d l)
    (c : Bytes) : (d.put l (.file c)).WellFormed := by
  obtain ⟨name, outer, rfl, parent⟩ := place.parent
  refine putWellFormed wf parent (.inr ?_)
  rcases place.free with none | ⟨old, file⟩
  · simp [none]
  · simp [file]

/-- The steps lead to a file once it has been put where they end, unless a directory is there. -/
def LeadsToFile (d : Disk) (links : Nat) (base : Location) (steps : List Step) (l : Location) : Prop :=
  d.get? l = some .directory ∨
    IsFilePlace d l ∧ ∀ c, Leads (d.put l (.file c)) links base steps l

theorem leadsToFilePass {d : Disk} {links links' : Nat} {base base' : Location} {steps steps' : List Step}
    {l : Location} (leads : LeadsToFile d links base steps l)
    (pass : ∀ d', Grows d d' → Leads d' links base steps l → Leads d' links' base' steps' l) :
    LeadsToFile d links' base' steps' l := by
  rcases leads with there | ⟨place, leads⟩
  · exact .inl there
  · exact .inr ⟨place, fun c => pass _ (filePlaceGrows place c) (leads c)⟩

theorem walkWithToFile {d : Disk} (wf : d.WellFormed) {links : Nat}
    {follow : Location → List Step → Except Fault Location}
    (followed : ∀ {base name target rest l}, d.get? base = some .directory →
      d.limits.allowName name = true → d.get? (name :: base) = some (.link target) →
      follow ((Route.ofText target).start base) ((Route.ofText target).all ++ rest) = .ok l →
      LeadsToFile d links base (.down name :: rest) l)
    {base : Location} {steps : List Step} {l : Location} (directory : d.get? base = some .directory)
    (ok : walkWith d .write follow base steps = .ok l) : LeadsToFile d links base steps l := by
  induction steps generalizing base with
  | nil =>
    cases ok
    exact .inl directory
  | cons step rest ih =>
    cases step with
    | here => exact leadsToFilePass (ih directory ok) fun _ _ => .here
    | inside => exact leadsToFilePass (ih directory ok) fun _ _ => .inside
    | up => exact leadsToFilePass (ih (outerDirectory wf directory) ok) fun _ _ => .up
    | down name =>
      -- where the walk ends before a file is there, it ends at that file afterwards
      have fresh {base : Location} (directory : d.get? base = some .directory)
          (short : d.limits.allowName name = true)
          (free : d.get? (name :: base) = none ∨ ∃ c, d.get? (name :: base) = some (.file c)) :
          LeadsToFile d links base [.down name] (name :: base) :=
        .inr ⟨⟨⟨name, base, rfl, directory⟩, free⟩, fun c =>
          .file short (by rw [getPut d (by simp), if_pos rfl])⟩
      simp only [walkWith, true_and] at ok
      split at ok
      · contradiction
      · split at ok
        · contradiction
        · next short =>
          have short : d.limits.allowName name = true := by simpa using short
          split at ok
          · next none =>
            split at ok
            · next last =>
              cases ok
              rw [last]
              exact fresh directory short (.inl none)
            · contradiction
          · next found =>
            exact leadsToFilePass (ih found ok) fun d' grows =>
              .directory (grows.limits ▸ short) (grows.directories _ found)
          · next contents found =>
            split at ok
            · next last =>
              cases ok
              rw [last]
              exact fresh directory short (.inr ⟨contents, found⟩)
            · contradiction
          · next target found => exact followed directory short found ok

theorem walkToFile {d : Disk} (wf : d.WellFormed) {links : Nat} {base : Location} {steps : List Step}
    {l : Location} (directory : d.get? base = some .directory)
    (ok : d.walkThrough .write links base steps = .ok l) : LeadsToFile d links base steps l := by
  induction links generalizing base steps l with
  | zero =>
    unfold walkThrough at ok
    exact walkWithToFile wf (fun _ _ _ impossible => by contradiction) directory ok
  | succ links ih =>
    unfold walkThrough at ok
    refine walkWithToFile wf (fun directory short found next => ?_) directory ok
    exact leadsToFilePass (ih (startDirectory directory _) next) fun d' grows =>
      .link (grows.limits ▸ short) ((grows.links _ _).2 found)

theorem writeFound {d d' : Disk} (wf : d.WellFormed) {p : Path} {c : Bytes} (ok : d.write p c = .ok d') :
    ∃ l, IsFilePlace d l ∧ d' = d.put l (.file c) ∧ d'.find p = .ok l := by
  unfold write writePlace at ok
  cases routed : d.route p with
  | error e => simp [routed, bind, Except.bind] at ok
  | ok r =>
    have same := routeText routed
    subst same
    simp only [routed, bind, Except.bind] at ok
    cases walked : d.walk .write ((Route.ofText p.text).start d.here) (Route.ofText p.text).all with
    | error e => simp [walked] at ok
    | ok l =>
      simp only [walked] at ok
      by_cases directory : d.get? l = some .directory
      · simp [directory] at ok
      · simp only [directory, if_false] at ok
        cases ok
        have start := startDirectory wf.here (Route.ofText p.text)
        rcases walkToFile wf start walked with there | ⟨place, leads⟩
        · contradiction
        · exact ⟨l, place, rfl, findLeads.2 ⟨(routeGrows (filePlaceGrows place c) p).trans routed, leads c⟩⟩

end ClassScaffold.Disk
