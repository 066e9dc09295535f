import ClassScaffold.Proofs.Disk.Apart
import ClassScaffold.Proofs.Disk.Route
import Mathlib.Data.List.Flatten
import Mathlib.Data.List.Induction
/-! When operations on a disk succeed. A directory that is there is kept, and a file that is there is written
again. Where the limits of a disk take a path and the names in it, directories can be made unless a file stands
in the way, and a file can be written into a directory unless a directory is in its place. -/
namespace ClassScaffold.Disk
open ClassScaffold.Path (Part)
open Text.Utf8 (Bytes encode)

variable {d : Disk} {root p : Path} {l parent : Location} {names : List String} {name : String} {ps : List Part}

/- What is there already -/

theorem spotUnnamed (routed : d.route p = .ok (Route.ofText p.text))
    (unnamed : ∀ a n, (Route.ofText p.text).steps ≠ a ++ [.down n]) : d.spot p =
      (d.walk .reach ((Route.ofText p.text).start d.here) (Route.ofText p.text).steps).map .directory := by
  unfold spot
  rw [routed]
  simp only [bind, Except.bind, spotFrom]
  split
  · next n last =>
    obtain ⟨a, whole⟩ := List.getLast?_eq_some_iff.1 last
    exact absurd whole (unnamed a n)
  · rfl

theorem spotThere (found : d.find p = .ok l) :
    (∃ q, d.spot p = .ok (.directory q)) ∨
      ∃ parent n, d.spot p = .ok (.entry parent n) ∧ d.get? (n :: parent) ≠ none := by
  obtain ⟨routed, leads⟩ := findLeads.1 found
  by_cases named : ∃ a n, (Route.ofText p.text).steps = a ++ [.down n]
  · obtain ⟨a, n, steps⟩ := named
    obtain ⟨rest, all⟩ := allEntry steps
    rw [all] at leads
    obtain ⟨mid, k, m, sum, before, after⟩ := leadsCut (by simp) leads
    have entry : d.limits.allowName n = true ∧ d.get? (n :: mid) ≠ none := by
      cases after with
      | directory short there | file short there | link short there => exact ⟨short, by simp [there]⟩
    exact .inr ⟨mid, n, leadsSpot routed entry.1 steps (leadsMore before (by omega)), entry.2⟩
  · refine .inl ⟨l, ?_⟩
    have walked : d.walk .reach ((Route.ofText p.text).start d.here) (Route.ofText p.text).steps = .ok l :=
      leadsWalk (allSteps leads)
    rw [spotUnnamed routed fun a n same => named ⟨a, n, same⟩, walked]
    rfl

theorem makeDirectoryThere (found : d.find p = .ok l) : d.makeDirectory p = .error .alreadyThere := by
  unfold makeDirectory
  rcases spotThere found with ⟨q, spotted⟩ | ⟨parent, n, spotted, there⟩
  · rw [spotted]
    rfl
  · rw [spotted]
    simp only [bind, Except.bind]
    split
    · rfl
    · contradiction

theorem makeWithinKeeps (there : d.isDirectory p = true) (depth : Nat) :
    d.makeWithin p (depth + 1) = (.ok (), d) := by
  obtain ⟨l, found, _⟩ := isDirectoryReaches there
  unfold makeWithin
  simp [makeDirectoryThere found, there]

theorem makeDirectoriesKeeps (there : d.isDirectory p = true) : d.makeDirectories p = (.ok (), d) :=
  makeWithinKeeps there _

theorem leadsToWrite (wf : d.WellFormed) {links : Nat} {base : Location} {steps : List Step} {c : Bytes}
    (directory : d.get? base = some .directory) (file : d.get? l = some (.file c))
    (leads : Leads d links base steps l) : d.walkThrough .write links base steps = .ok l := by
  have apart {links : Nat} {base : Location} (steps : List Step) (directory : d.get? base = some .directory)
      (leads : Leads d links base (steps ++ [.inside]) l) : False := by
    rw [insideDirectory wf directory leads] at file
    cases file
  induction leads with
  | done _ base => exact (apart [] directory (.inside (.done 0 base))).elim
  | @here links _ _ _ _ ih => cases links <;> exact ih directory file apart
  | @inside links _ _ _ _ ih => cases links <;> exact ih directory file apart
  | @up links _ _ _ _ ih => cases links <;> exact ih (outerDirectory wf directory) file apart
  | @directory links base n rest l short found next ih =>
    have more : rest ≠ [.inside] := by
      rintro rfl
      exact apart [] found next
    cases links <;> simpa [walkThrough, walkWith, more, short, found] using ih found file apart
  | @file links _ _ _ short found => cases links <;> simp [walkThrough, walkWith, short, found]
  | @link links base n target rest l short found next ih =>
    have more : rest ≠ [.inside] := by
      rintro rfl
      exact apart _ (startDirectory directory _) next
    unfold walkThrough
    simpa [walkWith, more, short, found] using ih (startDirectory directory _) file apart

theorem writePlaceThere (wf : d.WellFormed) {old : Bytes} (found : d.find p = .ok l)
    (file : d.get? l = some (.file old)) : d.writePlace p = .ok l := by
  obtain ⟨routed, leads⟩ := findLeads.1 found
  have walked : d.walk .write ((Route.ofText p.text).start d.here) (Route.ofText p.text).all = .ok l :=
    leadsToWrite wf (startDirectory wf.here _) file leads
  unfold writePlace
  simp [routed, bind, Except.bind, walked, file]

theorem writeThere (wf : d.WellFormed) {old : Bytes} (found : d.find p = .ok l)
    (file : d.get? l = some (.file old)) (c : Bytes) : d.write p c = .ok (d.put l (.file c)) := by
  unfold write
  rw [writePlaceThere wf found file]
  rfl

theorem writeReopens (wf : d.WellFormed) {c : Bytes} {d' : Disk} (ok : d.write p c = .ok d') :
    ∃ d'', d'.write p c = .ok d'' := by
  obtain ⟨l, isPlace, rfl, found⟩ := writeFound wf ok
  have some : l ≠ [] := by
    obtain ⟨name, outer, rfl, _⟩ := isPlace.parent
    simp
  have file : (d.put l (.file c)).get? l = .some (.file c) := by rw [getPut _ some, if_pos rfl]
  exact ⟨_, writeThere (filePlaceWellFormed wf isPlace c) found file c⟩

/- Going on from where a walk has come -/

theorem leadsContinue {purpose : Purpose} {links : Nat} {base mid : Location} {a rest : List Step} {n : Name}
    {answer : Except Fault Location} (before : Leads d links base (a ++ [.inside]) mid)
    (stops : ∀ level, d.walkThrough purpose level mid (.down n :: rest) = answer) {level : Nat}
    (enough : links ≤ level) : d.walkThrough purpose level base (a ++ .down n :: rest) = answer := by
  generalize whole : a ++ [.inside] = steps at before
  induction before generalizing a level with
  | done _ base => simp at whole
  | inside next ih =>
    obtain ⟨rfl, last⟩ | ⟨a, rfl, rfl⟩ := List.append_eq_cons_iff.1 whole
    · cases last
      cases next
      exact stops level
    · cases level <;> exact ih (a := a) stops enough rfl
  | here next ih | up next ih =>
    obtain ⟨_, clash⟩ | ⟨a, rfl, rfl⟩ := List.append_eq_cons_iff.1 whole
    · cases clash
    · cases level <;> exact ih (a := a) stops enough rfl
  | directory short found next ih =>
    obtain ⟨_, clash⟩ | ⟨a, rfl, rfl⟩ := List.append_eq_cons_iff.1 whole
    · cases clash
    · have goes : d.walkThrough _ level _ _ = _ := ih stops enough rfl
      have more : a ++ .down n :: rest ≠ [.inside] := by cases a <;> simp
      cases level <;> simpa [walkThrough, walkWith, more, short, found] using goes
  | file short found =>
    obtain ⟨_, clash⟩ | ⟨a, rfl, none⟩ := List.append_eq_cons_iff.1 whole
    · cases clash
    · simp at none
  | @link links base name target rest' mid short found next ih =>
    obtain ⟨_, clash⟩ | ⟨a, rfl, rfl⟩ := List.append_eq_cons_iff.1 whole
    · cases clash
    · obtain ⟨less, rfl⟩ : ∃ less, level = less + 1 := ⟨level - 1, by omega⟩
      have goes : d.walkThrough _ less _ (((Route.ofText target).all ++ a) ++ .down n :: rest) = _ :=
        ih stops (by omega) (List.append_assoc ..)
      have more : a ++ .down n :: rest ≠ [.inside] := by cases a <;> simp
      rw [List.append_assoc] at goes
      unfold walkThrough
      simpa [walkWith, more, short, found] using goes

theorem writeReached {a : List Step} {mid : Location} {n : Name} (routed : d.route p = .ok (Route.ofText p.text))
    (all : (Route.ofText p.text).all = a ++ [.down n]) (short : d.limits.allowName n = true)
    (before : Leads d linkLimit ((Route.ofText p.text).start d.here) (a ++ [.inside]) mid)
    (free : d.get? (n :: mid) = none ∨ ∃ old, d.get? (n :: mid) = some (.file old)) (c : Bytes) :
    d.write p c = .ok (d.put (n :: mid) (.file c)) := by
  have stops (level : Nat) : d.walkThrough .write level mid [.down n] = .ok (n :: mid) := by
    rcases free with none | ⟨old, found⟩
    · cases level <;> simp [walkThrough, walkWith, short, none]
    · cases level <;> simp [walkThrough, walkWith, short, found]
  have walked : d.walk .write ((Route.ofText p.text).start d.here) (Route.ofText p.text).all = .ok (n :: mid) := by
    rw [all]
    exact leadsContinue before stops (Nat.le_refl _)
  have other : d.get? (n :: mid) ≠ some .directory := by rcases free with none | ⟨old, found⟩ <;> simp [*]
  unfold write writePlace
  simp [routed, bind, Except.bind, walked, other]

/- Where the limits take a path -/

/-- Neither the path nor one of these names in it is too long. -/
structure Limits.Takes (limits : Limits) (p : Path) (names : List String) : Prop where
  path : limits.allowPath (encode p.text) = true
  names : ∀ name ∈ names, limits.allowName (encode name) = true

theorem takesUnlimited (p : Path) (names : List String) : Limits.unlimited.Takes p names :=
  ⟨rfl, fun _ _ => rfl⟩

theorem takesParent {limits : Limits} {q : Path} (takes : limits.Takes p (names ++ [name]))
    (above : p.parent? = some q) : limits.Takes q names := by
  refine ⟨?_, fun other member => takes.names other (List.mem_append_left _ member)⟩
  have shorter : (encode q.text).length ≤ (encode p.text).length := by
    rw [Text.Utf8.encodeChars, Text.Utf8.encodeChars]
    exact ((Path.parentSublist above).flatMap _).length_le
  have path := takes.path
  unfold Limits.allowPath at *
  rw [Option.all_eq_true] at *
  exact fun limit given => decide_eq_true (Nat.le_trans shorter (of_decide_eq_true (path limit given)))

theorem routeRuns (short : d.limits.allowPath (encode p.text) = true) (clean : '\x00' ∉ p.text.toList)
    (some : p.parts ≠ []) : d.route p = .ok (Route.ofText p.text) := by
  unfold route
  simp [clean, partsSome some, short]

theorem reachesPlace (short : ∀ name ∈ names, d.limits.allowName (encode name) = true) (region : Region d root l)
    (there : d.get? (place names ++ l) = some .directory) :
    Reaches d (root.parts ++ names.map .normal) (place names ++ l) := by
  have start := findReaches region.found
  have allowed : ∀ n ∈ place names, d.limits.allowName n = true := by
    intro n member
    obtain ⟨name, inside, rfl⟩ := List.mem_map.1 (List.mem_reverse.1 member)
    exact short name inside
  have after : Leads d 0 l ((place names).reverse.map .down) (place names ++ l) :=
    leadsThere region.wellFormed region.clear (by simp [there]) allowed
  unfold Reaches at *
  rw [originAppend (namesHead names), wayAppend, wayNames]
  rw [place, List.reverse_reverse] at after
  exact leadsJoin (leadsInside start region.directory) after

theorem reachesFind (routed : d.route p = .ok (Route.ofText p.text)) (reaches : Reaches d p.parts l)
    (there : d.get? l = some .directory) : d.find p = .ok l := by
  refine findLeads.2 ⟨routed, movesLeads there ?_⟩
  rwa [(routeParts d p).1, (routeParts d p).2]

theorem spotRuns (parts : p.parts = ps ++ [.normal name]) (named : EndsInName p.text.toList)
    (routed : d.route p = .ok (Route.ofText p.text)) (short : d.limits.allowName (encode name) = true)
    (reaches : Reaches d ps parent) (there : d.get? parent = some .directory) :
    d.spot p = .ok (.entry parent (encode name)) := by
  obtain ⟨a, n, steps⟩ := named
  obtain ⟨_, rfl⟩ := wayEntry parts steps
  exact leadsSpot routed short steps (reachesEntry parts steps reaches there)

theorem filterSplit {steps before after : List Step} {n : Name}
    (whole : steps.filter Step.isMove = before ++ .down n :: after) :
    ∃ a b, steps = a ++ .down n :: b ∧ a.filter Step.isMove = before := by
  obtain ⟨a, b, rfl, first, last⟩ := List.filter_eq_append_iff.1 whole
  obtain ⟨c, e, rfl, still, _, _⟩ := List.filter_eq_cons_iff.1 last
  refine ⟨a ++ c, e, by simp, ?_⟩
  rw [List.filter_append, first, List.filter_eq_nil_iff.2 still, List.append_nil]

theorem firstMissing (there : d.get? l = some .directory) (missing : d.get? (place names ++ l) = none)
    (free : ∀ rel, rel ≠ [] → rel <:+ place names →
      d.get? (rel ++ l) = none ∨ d.get? (rel ++ l) = some .directory) :
    ∃ outer next inner, names = outer ++ next :: inner ∧ d.get? (place outer ++ l) = some .directory ∧
      d.get? (encode next :: (place outer ++ l)) = none := by
  induction names using List.reverseRecOn with
  | nil =>
    rw [show place [] = [] from rfl, List.nil_append, there] at missing
    cases missing
  | append_singleton outer next ih =>
    have whole : place (outer ++ [next]) = encode next :: place outer := placeAppend outer [next]
    rw [whole] at free missing
    by_cases empty : place outer = []
    · exact ⟨outer, next, [], rfl, by rwa [empty], missing⟩
    · rcases free (place outer) empty (List.suffix_cons ..) with none | there
      · obtain ⟨before, next', inner, same, there, none⟩ := ih none fun rel some suffix =>
          free rel some (suffix.trans (List.suffix_cons ..))
        exact ⟨before, next', inner ++ [next], by simp [same], there, none⟩
      · exact ⟨outer, next, [], rfl, there, missing⟩

/-- On the way to a missing directory the first missing name is where a walk stops. -/
theorem makeDirectoryMissing (takes : d.limits.Takes p (names ++ [name])) (region : Region d root l)
    (parts : p.parts = (root.parts ++ names.map .normal) ++ [.normal name]) (made : IsMakeable p)
    (free : ∀ rel, rel ≠ [] → rel <:+ place names → d.get? (rel ++ l) = none ∨ d.get? (rel ++ l) = some .directory)
    (missing : d.get? (place names ++ l) = none) : d.makeDirectory p = .error .notFound := by
  obtain ⟨outer, next, inner, split, there, none⟩ := firstMissing region.directory missing free
  obtain ⟨a, n, steps⟩ := made.named
  obtain ⟨ways, _⟩ := wayEntry parts steps
  rw [split, List.map_append, List.map_cons, ← List.append_assoc, wayAppend] at ways
  obtain ⟨b, e, rfl, first⟩ := filterSplit (show _ = _ ++ .down (encode next) :: way (inner.map .normal) from ways)
  have routed := routeRuns takes.path made.clean (by simp [parts])
  have short : ∀ n ∈ outer ++ next :: inner, d.limits.allowName (encode n) = true := fun n member =>
    takes.names n (List.mem_append_left _ (split ▸ member))
  have before : Leads d linkLimit ((Route.ofText p.text).start d.here) (b ++ [.inside]) (place outer ++ l) := by
    refine movesLeads there ?_
    have reaches := reachesPlace (fun n member => short n (List.mem_append_left _ member)) region there
    have head : d.origin p.parts = d.origin (root.parts ++ outer.map .normal) := by
      rw [parts, split, List.map_append, ← List.append_assoc, List.append_assoc, originAppend (by simp)]
    rw [List.filter_append, (routeParts d p).1, head]
    simpa [Reaches, Step.isMove, first] using reaches
  have stops (level : Nat) : d.walkThrough .reach level (place outer ++ l) (.down (encode next) :: (e ++ [.inside])) =
      .error .notFound := by
    cases level <;> simp [walkThrough, walkWith, short next (by simp), none]
  have walked : d.walk .reach ((Route.ofText p.text).start d.here)
      (b ++ .down (encode next) :: e ++ [.inside]) = .error .notFound := by
    rw [List.append_assoc, List.cons_append]
    exact leadsContinue before stops (Nat.le_refl _)
  unfold makeDirectory spot
  rw [routed]
  simp only [bind, Except.bind, spotFrom, stepsText, steps, List.getLast?_concat, List.dropLast_concat, walked]

theorem makeOrKeepRuns (spotted : d.spot p = .ok (.entry parent (encode name)))
    (free : d.get? (encode name :: parent) = none ∨ d.get? (encode name :: parent) = some .directory) :
    ∃ d', d.makeOrKeep p = .ok d' := by
  rcases free with none | there
  · refine ⟨d.put (encode name :: parent) .directory, ?_⟩
    simp [makeOrKeep, makeDirectory, spotted, bind, Except.bind, none]
  · have found := spotFound spotted there
    exact ⟨d, by simp [makeOrKeep, makeDirectoryThere found, isDirectoryFound found there]⟩

theorem nestedFree {n : Name} {rel outer : Location}
    (free : ∀ rel, rel ≠ [] → rel <:+ n :: outer → d.get? (rel ++ l) = none ∨ d.get? (rel ++ l) = some .directory)
    (some : rel ≠ []) (suffix : rel <:+ outer) : d.get? (rel ++ l) = none ∨ d.get? (rel ++ l) = .some .directory :=
  free rel some (suffix.trans (List.suffix_cons ..))

section
variable (region : Region d root l)
include region

theorem withinSpot (takes : d.limits.Takes p (names ++ [name])) (within : root.Within (names ++ [name]) p)
    (made : IsMakeable p)
    (there : d.get? (place names ++ l) = some .directory) :
    d.spot p = .ok (.entry (place names ++ l) (encode name)) := by
  have parts : p.parts = (root.parts ++ names.map .normal) ++ [.normal name] := by
    rw [within]
    simp
  have outer := reachesPlace (fun n member => takes.names n (List.mem_append_left _ member)) region there
  exact spotRuns parts made.named (routeRuns takes.path made.clean (by simp [parts])) (takes.names name (by simp))
    outer there

/-- Once its parent has been made, there is room for a directory that was missing. -/
theorem makeAfterParent {q : Path} {depth : Nat} {d' : Disk} (takes : d.limits.Takes p (names ++ [name]))
    (within : root.Within (names ++ [name]) p) (made : IsMakeable p) (around : root.Within names q) (some : q.parts ≠ [])
    (missing : d.get? (place names ++ l) = none) (went : d.makeWithin q depth = (.ok (), d')) :
    ∃ d'', d'.makeOrKeep p = .ok d'' := by
  obtain ⟨change, there⟩ := makeWithinMade region.wellFormed q depth
  rw [went] at change there
  have region' := regionConfined region
    (madeConfined region.wellFormed (regionThere region) around change)
  obtain ⟨q', found, directory⟩ := isDirectoryReaches ((there rfl).resolve_left (partsSome some))
  obtain ⟨rfl, _⟩ := regionFind region' around found
  refine makeOrKeepRuns (withinSpot region' (change.grows.limits.symm ▸ takes) within made directory) ?_
  have before : d.get? (encode name :: (place names ++ l)) = none :=
    nothingBelow region.wellFormed missing [encode name]
  by_cases same : d'.get? (encode name :: (place names ++ l)) = d.get? (encode name :: (place names ++ l))
  · exact .inl (same.trans before)
  · exact .inr (change.changed _ same).2.1

theorem makeWithinMissing {q : Path} {depth : Nat} {d' : Disk} (takes : d.limits.Takes p (names ++ [name]))
    (within : root.Within (names ++ [name]) p) (made : IsMakeable p) (above : p.parent? = some q)
    (around : root.Within names q) (someAbove : q.parts ≠ [])
    (free : ∀ rel, rel ≠ [] → rel <:+ place names → d.get? (rel ++ l) = none ∨ d.get? (rel ++ l) = some .directory)
    (missing : d.get? (place names ++ l) = none) (went : d.makeWithin q depth = (.ok (), d')) :
    ∃ d'', d.makeWithin p (depth + 1) = (.ok (), d'') := by
  have parts : p.parts = (root.parts ++ names.map .normal) ++ [.normal name] := by
    rw [within]
    simp
  obtain ⟨d'', done⟩ := makeAfterParent region takes within made around someAbove missing went
  have notFound := makeDirectoryMissing takes region parts made free missing
  refine ⟨d'', ?_⟩
  unfold makeWithin
  simp [partsSome (by simp [parts] : p.parts ≠ []), notFound, above, went, done]

theorem makeWithinThere {depth : Nat} (takes : d.limits.Takes p (names ++ [name]))
    (within : root.Within (names ++ [name]) p) (made : IsMakeable p)
    (there : d.get? (place names ++ l) = some .directory)
    (free : d.get? (encode name :: (place names ++ l)) = none ∨
      d.get? (encode name :: (place names ++ l)) = some .directory) :
    ∃ d', d.makeWithin p (depth + 1) = (.ok (), d') := by
  have some : p.parts ≠ [] := by
    rw [within]
    simp
  have spotted := withinSpot region takes within made there
  rcases free with none | full
  · refine ⟨d.put (encode name :: (place names ++ l)) .directory, ?_⟩
    unfold makeWithin
    simp [partsSome some, makeDirectory, spotted, bind, Except.bind, none]
  · exact ⟨d, makeWithinKeeps (isDirectoryFound (spotFound spotted full) full) depth⟩

theorem makeWithinRuns (takes : d.limits.Takes p names) (within : root.Within names p) (some : p.parts ≠ [])
    (clean : '\x00' ∉ p.text.toList) (made : names ≠ [] → IsMakeable p)
    (free : ∀ rel, rel ≠ [] → rel <:+ place names → d.get? (rel ++ l) = none ∨ d.get? (rel ++ l) = .some .directory)
    {depth : Nat} (deep : names.length < depth) : ∃ d', d.makeWithin p depth = (.ok (), d') := by
  obtain ⟨less, rfl⟩ : ∃ less, depth = less + 1 := ⟨depth - 1, by omega⟩
  induction names using List.reverseRecOn generalizing p less with
  | nil =>
    have parts : p.parts = root.parts := by simpa [Path.Within] using within
    have found := reachesFind (routeRuns takes.path clean some) (parts ▸ findReaches region.found) region.directory
    exact ⟨d, makeWithinKeeps (isDirectoryFound found region.directory) less⟩
  | append_singleton outer name ih =>
    have whole : place (outer ++ [name]) = encode name :: place outer := placeAppend outer [name]
    rw [whole] at free
    have makeable := made (by simp)
    have below : d.get? (place outer ++ l) = none ∨ d.get? (place outer ++ l) = .some .directory := by
      by_cases empty : place outer = []
      · exact .inr (by rw [empty]; exact region.directory)
      · exact nestedFree free empty (List.suffix_refl _)
    rcases below with missing | there
    · have more : outer ≠ [] := by
        rintro rfl
        rw [show place [] = [] from rfl, List.nil_append, region.directory] at missing
        cases missing
      obtain ⟨q, above, around, cleanAbove, makeableAbove⟩ := parentReady within clean
      have someAbove : q.parts ≠ [] := by
        rw [around]
        simp [more]
      rw [List.length_append, List.length_singleton] at deep
      obtain ⟨less, rfl⟩ : ∃ fewer, less = fewer + 1 := ⟨less - 1, by omega⟩
      obtain ⟨d', went⟩ := ih (takesParent takes above) around someAbove cleanAbove makeableAbove
        (fun rel => nestedFree free) less (by omega)
      exact makeWithinMissing region takes within makeable above around someAbove (fun rel => nestedFree free)
        missing went
    · exact makeWithinThere region takes within makeable there (free _ (by simp) (List.suffix_refl _))

theorem makeDirectoriesRuns (takes : d.limits.Takes p names) (within : root.Within names p) (some : p.parts ≠ [])
    (clean : '\x00' ∉ p.text.toList) (made : names ≠ [] → IsMakeable p)
    (free : ∀ rel, rel ≠ [] → rel <:+ place names →
      d.get? (rel ++ l) = none ∨ d.get? (rel ++ l) = .some .directory) :
    ∃ d', d.makeDirectories p = (.ok (), d') := by
  refine makeWithinRuns region takes within some clean made free ?_
  have lengths := congrArg List.length within
  simp only [List.length_append, List.length_map] at lengths
  omega

theorem writeRuns (takes : d.limits.Takes p (names ++ [name])) (within : root.Within (names ++ [name]) p)
    (writable : IsWritable p)
    (there : d.get? (place names ++ l) = some .directory)
    (free : d.get? (encode name :: (place names ++ l)) ≠ some .directory) (c : Bytes) :
    ∃ d', d.write p c = .ok d' := by
  obtain ⟨routed, short, a, steps, leads⟩ := spotEntry (withinSpot region takes within writable.toIsMakeable there)
  have opened : (Route.ofText p.text).closed = false := by
    simpa [Route.ofText] using writable.opened
  have all : (Route.ofText p.text).all = a ++ [.down (encode name)] := by
    simp [Route.all, opened, steps]
  refine ⟨_, writeReached routed all short leads ?_ c⟩
  cases found : d.get? (encode name :: (place names ++ l)) with
  | none => exact .inl rfl
  | some e =>
    cases e with
    | directory => exact absurd found free
    | file contents => exact .inr ⟨contents, rfl⟩
    | link target => exact absurd found (region.clear (encode name :: place names) (by simp) target)

end

end ClassScaffold.Disk
