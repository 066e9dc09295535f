import ClassScaffold.Proofs.Disk.Progress
/-! A disk on the way to what it grows into. Where there are no links a walk ends where its steps say, so what a path
leads to later is where it leads now, unless something is still missing. Directories that are there later can be made
now, files that are there later can be written, and nothing comes of it that is not there later. -/
namespace ClassScaffold.Disk
open ClassScaffold.Path (Part IsProper ofParts)
open Text.Utf8 (Bytes encode)

variable {d e : Disk} {p : Path} {ps : List Part} {last : Part} {name : String} {links : Nat} {base l mid : Location}
  {steps : List Step}

/- Where steps end -/

def Step.move (l : Location) : Step → Location
  | .here | .inside => l
  | .up => l.tail
  | .down name => name :: l

def ending (d : Disk) (ps : List Part) : Location := (way ps).foldl Step.move (d.origin ps)

theorem clearLink (clear : IsClear d []) (l : Location) (target : String) : d.get? l ≠ some (.link target) := by
  by_cases root : l = []
  · simp [root]
  · simpa using clear l root target

theorem leadsEnd (clear : IsClear d []) (leads : Leads d links base steps l) : l = steps.foldl Step.move base := by
  induction leads with
  | done | file => rfl
  | here _ ih | inside _ ih | up _ ih | directory _ _ _ ih => exact ih
  | link _ found _ _ => exact absurd found (clearLink clear _ _)

theorem reachesEnd (clear : IsClear d []) (reaches : Reaches d ps l) : l = d.ending ps := leadsEnd clear reaches

theorem endingNames (d : Disk) (ps : List Part) (names : List String) :
    d.ending (ps ++ names.map .normal) = place names ++ d.ending ps := by
  have downwards (l : Location) (names : List Name) : (names.map Step.down).foldl Step.move l = names.reverse ++ l := by
    induction names generalizing l with
    | nil => rfl
    | cons name rest ih => simp [Step.move, ih]
  unfold ending
  rw [originAppend (namesHead names), wayAppend, wayNames, List.foldl_append, downwards, place]

/- Growing up to a later disk -/

theorem putFollows (grows : Grows d e) (some : l ≠ []) {x : Entry}
    (kind : x = .directory ∧ e.get? l = .some .directory ∨ ∃ c c', x = .file c ∧ e.get? l = .some (.file c')) :
    Grows (d.put l x) e := by
  refine ⟨grows.here, grows.limits, fun q found => ?_, fun q c found => ?_, fun q target => ?_⟩
  · rw [getPut d some] at found
    split at found
    · next same =>
      rcases kind with ⟨_, there⟩ | ⟨_, _, rfl, _⟩
      · rwa [same]
      · cases found
    · exact grows.directories q found
  · rw [getPut d some] at found
    split at found
    · next same =>
      rcases kind with ⟨rfl, _⟩ | ⟨_, c', _, there⟩
      · cases found
      · exact ⟨c', by rwa [same]⟩
    · exact grows.files q c found
  · rw [getPut d some]
    split
    · next same => rcases kind with ⟨rfl, there⟩ | ⟨_, _, rfl, there⟩ <;> simp [same, there]
    · exact grows.links q target

theorem earlierDirectory (grows : Grows d e) (later : e.get? l = some .directory) :
    d.get? l = none ∨ d.get? l = some .directory := by
  cases found : d.get? l with
  | none => exact .inl rfl
  | some x =>
    cases x with
    | directory => exact .inr rfl
    | file c =>
      obtain ⟨_, file⟩ := grows.files l c found
      cases later.symm.trans file
    | link target => cases later.symm.trans ((grows.links l target).2 found)

theorem earlierFile {c : Bytes} (grows : Grows d e) (later : e.get? l = some (.file c)) :
    d.get? l = none ∨ ∃ c', d.get? l = some (.file c') := by
  cases found : d.get? l with
  | none => exact .inl rfl
  | some x =>
    cases x with
    | directory => cases later.symm.trans (grows.directories l found)
    | file c' => exact .inr ⟨c', rfl⟩
    | link target => cases later.symm.trans ((grows.links l target).2 found)

/-- Two disks each of which could grow into the other differ at most in the texts of files. -/
theorem growsBoth (there : Grows d e) (back : Grows e d)
    (texts : ∀ l c c', d.get? l = some (.file c) → e.get? l = some (.file c') → c' = c) : Alike d e := by
  refine ⟨there.here, there.limits, fun l => ?_⟩
  cases found : d.get? l with
  | none =>
    cases later : e.get? l with
    | none => rfl
    | some x =>
      cases x with
      | directory => simp [back.directories l later] at found
      | file c =>
        obtain ⟨_, before⟩ := back.files l c later
        simp [before] at found
      | link target => simp [(there.links l target).1 later] at found
  | some x =>
    cases x with
    | directory => exact there.directories l found
    | file c =>
      obtain ⟨c', later⟩ := there.files l c found
      rw [later, texts l c c' found later]
    | link target => exact (there.links l target).2 found

/- Up to what is missing -/

/-- At one of the steps the walk comes to a name at which nothing stands. -/
def Misses (d : Disk) (links : Nat) (base : Location) (steps : List Step) : Prop :=
  ∃ a n b mid, steps = a ++ .down n :: b ∧ Leads d links base (a ++ [.inside]) mid ∧
    d.limits.allowName n = true ∧ d.get? (n :: mid) = none

theorem missesWalk (misses : Misses d links base steps) : d.walkThrough .reach links base steps = .error .notFound := by
  obtain ⟨a, n, b, mid, rfl, before, short, none⟩ := misses
  refine leadsContinue before (fun level => ?_) (Nat.le_refl _)
  cases level <;> simp [walkThrough, walkWith, short, none]

theorem missesLater {step : Step} {base' : Location} (misses : Misses d links base' steps)
    (pass : ∀ rest l, Leads d links base' rest l → Leads d links base (step :: rest) l) :
    Misses d links base (step :: steps) := by
  obtain ⟨a, n, b, mid, rfl, before, none⟩ := misses
  exact ⟨step :: a, n, b, mid, rfl, pass _ _ before, none⟩

theorem leadsOrMisses (wf : d.WellFormed) (grows : Grows d e) (clear : IsClear e [])
    (directory : d.get? base = some .directory) (leads : Leads e links base steps l) :
    Leads d links base steps l ∨ Misses d links base steps := by
  induction leads with
  | done links base => exact .inl (.done links base)
  | here _ ih => exact (ih directory).imp .here fun misses => missesLater misses fun _ _ => .here
  | inside _ ih => exact (ih directory).imp .inside fun misses => missesLater misses fun _ _ => .inside
  | up _ ih => exact (ih (outerDirectory wf directory)).imp .up fun misses => missesLater misses fun _ _ => .up
  | @directory links base n rest l short found _ ih =>
    rw [grows.limits] at short
    rcases earlierDirectory grows found with none | before
    · exact .inr ⟨[], n, rest, base, rfl, .inside (.done links base), short, none⟩
    · exact (ih before).imp (.directory short before) fun misses => missesLater misses fun _ _ =>
        .directory short before
  | @file links base n c short found =>
    rw [grows.limits] at short
    rcases earlierFile grows found with none | ⟨c', before⟩
    · exact .inr ⟨[], n, [], base, rfl, .inside (.done links base), short, none⟩
    · exact .inl (.file short before)
  | link _ found _ _ => exact absurd found (clearLink clear _ _)

/- Making directories that are there later -/

section
variable (wf : d.WellFormed) (grows : Grows d e) (clear : IsClear e [])
include wf grows clear

theorem spotFollows (there : e.isDirectory p = true) : d.spot p = .error .notFound ∨
    (∃ parent n, d.spot p = .ok (.entry parent n) ∧ e.get? (n :: parent) = some .directory) ∨
    (∃ q, d.spot p = .ok (.directory q)) ∧ d.isDirectory p = true := by
  obtain ⟨l, found, directory⟩ := isDirectoryReaches there
  obtain ⟨routed, leads⟩ := findLeads.1 found
  rw [routeGrows grows] at routed
  rw [grows.here] at leads
  have start := startDirectory wf.here (Route.ofText p.text)
  by_cases named : ∃ a n, (Route.ofText p.text).steps = a ++ [.down n]
  · obtain ⟨a, n, steps⟩ := named
    obtain ⟨rest, all⟩ := allEntry steps
    rw [all] at leads
    obtain ⟨parent, k, m, sum, before, after⟩ := leadsCut (by simp) leads
    have reached : Leads e linkLimit _ (a ++ [.inside]) parent := leadsMore before (by omega)
    rcases leadsOrMisses wf grows clear start reached with earlier | misses
    · have entry : e.limits.allowName n = true ∧ e.get? (n :: parent) = some .directory := by
        cases after with
        | directory short later _ => exact ⟨short, later⟩
        | file _ file => cases directory.symm.trans file
        | link _ link _ => exact absurd link (clearLink clear _ _)
      exact .inr (.inl ⟨parent, n, leadsSpot routed (grows.limits ▸ entry.1) steps earlier, entry.2⟩)
    · have walked : d.walk .reach ((Route.ofText p.text).start d.here) (a ++ [.inside]) = .error .notFound :=
        missesWalk misses
      refine .inl ?_
      unfold spot
      rw [routed]
      simp only [bind, Except.bind, spotFrom, steps, List.getLast?_concat, List.dropLast_concat, walked]
  · have unnamed (a : List Step) (n : Name) : (Route.ofText p.text).steps ≠ a ++ [.down n] := fun same =>
      named ⟨a, n, same⟩
    rw [spotUnnamed routed unnamed]
    rcases leadsOrMisses wf grows clear start (allSteps leads) with earlier | misses
    · refine .inr (.inr ⟨⟨l, ?_⟩, ?_⟩)
      · have walked : d.walk .reach ((Route.ofText p.text).start d.here) (Route.ofText p.text).steps = .ok l :=
          leadsWalk earlier
        rw [walked]
        rfl
      · have before : d.get? l = some .directory := by
          refine (leadsKind wf start earlier).resolve_right fun file => ?_
          obtain ⟨_, n, ends⟩ := file
          obtain ⟨a, whole⟩ := List.getLast?_eq_some_iff.1 ends
          exact unnamed a n whole
        refine isDirectoryFound (findLeads.2 ⟨routed, ?_⟩) before
        unfold Route.all
        split
        · exact leadsInside earlier before
        · exact earlier
    · have walked : d.walk .reach ((Route.ofText p.text).start d.here) (Route.ofText p.text).steps =
          .error .notFound := missesWalk misses
      rw [walked]
      exact .inl rfl

theorem makeDirectoryFollows (there : e.isDirectory p = true) : d.makeDirectory p = .error .notFound ∨
    (∃ d', d.makeDirectory p = .ok d' ∧ Grows d' e) ∨
    d.makeDirectory p = .error .alreadyThere ∧ d.isDirectory p = true := by
  rcases spotFollows wf grows clear there with missing | ⟨parent, n, spotted, later⟩ | ⟨⟨q, spotted⟩, before⟩
  · exact .inl (by simp [makeDirectory, missing, bind, Except.bind])
  · rcases earlierDirectory grows later with none | found
    · refine .inr (.inl ⟨d.put (n :: parent) .directory, ?_, putFollows grows (by simp) (.inl ⟨rfl, later⟩)⟩)
      simp [makeDirectory, spotted, bind, Except.bind, none]
    · have reached := spotFound spotted found
      exact .inr (.inr ⟨makeDirectoryThere reached, isDirectoryFound reached found⟩)
  · exact .inr (.inr ⟨by simp [makeDirectory, spotted, bind, Except.bind], before⟩)

end

/- The way around a directory, by its parts -/

theorem ofPartsInit (some : ps ≠ []) (last : Part) :
    ∃ rest, (ofParts (ps ++ [last])).text = (ofParts ps).text ++ rest := by
  have other : ps ++ [last] ≠ [.root] := by
    intro same
    have lengths := congrArg List.length same
    simp [some] at lengths
  by_cases root : ps = [.root]
  · exact ⟨last.text, by simp [root, ofParts, Part.text]⟩
  · have texts : (ps.map fun part => part.text.toList) ≠ [] := by simpa using some
    have whole := Text.intercalateAppend '/' texts (List.cons_ne_nil last.text.toList [])
    rw [List.intercalate_singleton] at whole
    refine ⟨"/" ++ last.text, String.toList_inj.1 ?_⟩
    simpa [ofParts, other, root, String.toList_intercalate, Function.comp_def] using whole

theorem routeInit (some : ps ≠ []) (proper : IsProper (ps ++ [last]))
    (routed : d.route (ofParts (ps ++ [last])) = .ok (Route.ofText (ofParts (ps ++ [last])).text)) :
    d.route (ofParts ps) = .ok (Route.ofText (ofParts ps).text) := by
  obtain ⟨rest, text⟩ := ofPartsInit some last
  have nonempty : (ofParts ps).text ≠ "" := partsSome (by rwa [Path.partsOfParts (Path.properInit proper)])
  unfold route at routed ⊢
  split at routed
  · contradiction
  · next clean =>
    split at routed
    · contradiction
    · split at routed
      · next short =>
        rw [text] at clean short
        have fits : d.limits.allowPath (encode (ofParts ps).text) = true := by
          unfold Limits.allowPath at short ⊢
          cases bound : d.limits.path with
          | none => rfl
          | some most =>
            rw [bound] at short
            simp only [Option.all_some, Text.Utf8.encodeAppend, List.length_append, decide_eq_true_eq] at short ⊢
            omega
        simp_all
      · contradiction

theorem parentThere (wf : d.WellFormed) (some : ps ≠ []) (proper : IsProper (ps ++ [last]))
    (there : d.isDirectory (ofParts (ps ++ [last])) = true) : d.isDirectory (ofParts ps) = true := by
  obtain ⟨l, found, directory⟩ := isDirectoryReaches there
  have reaches := findReaches found
  rw [Path.partsOfParts proper] at reaches
  have inner : [last].head? ≠ .some .root := by
    intro head
    exact Path.properLater some proper .root (List.mem_of_head? head)
  obtain ⟨mid, before, outer⟩ := reachesInit wf inner reaches directory
  have routed := routeInit some proper (findLeads.1 found).1
  refine isDirectoryFound (reachesFind routed ?_ outer) outer
  rwa [Path.partsOfParts (Path.properInit proper)]

theorem reachesLast (wf : d.WellFormed) (proper : IsProper (ps ++ [last])) (unnamed : ∀ name, last ≠ .normal name)
    (reaches : Reaches d ps mid) (there : d.get? mid = some .directory) :
    ∃ l, Reaches d (ps ++ [last]) l ∧ d.get? l = some .directory := by
  cases last with
  | normal name => exact absurd rfl (unnamed name)
  | parent =>
    refine ⟨mid.tail, ?_, outerDirectory wf there⟩
    have up : Leads d 0 mid [.up] mid.tail := .up (.done 0 _)
    unfold Reaches at *
    rw [originAppend (by simp), wayAppend]
    exact leadsJoin (leadsInside reaches there) up
  | root | current =>
    -- a path can only start with them
    by_cases start : ps = []
    · subst start
      exact ⟨_, .done linkLimit _, originDirectory wf _⟩
    · exact (Path.properLater start proper _ List.mem_cons_self).elim

section
variable (wf : d.WellFormed)
include wf

/-- Nothing is missing for a directory when it can be come to the directory around it. -/
theorem makeDirectoryReached (grows : Grows d e) (proper : IsProper (ps ++ [last]))
    (there : e.isDirectory (ofParts (ps ++ [last])) = true) (reaches : Reaches d ps mid)
    (directory : d.get? mid = some .directory) :
    d.makeDirectory (ofParts (ps ++ [last])) ≠ .error .notFound := by
  have parts := Path.partsOfParts proper
  obtain ⟨l, found, later⟩ := isDirectoryReaches there
  have routed := (findLeads.1 found).1
  rw [routeGrows grows] at routed
  by_cases named : ∃ name, last = .normal name
  · obtain ⟨name, rfl⟩ := named
    have plain : Path.Plain name.toList := by
      by_cases start : ps = []
      · subst start
        simpa [IsProper, Path.Part.IsInner] using proper
      · exact Path.properLater start proper _ List.mem_cons_self
    have clean := partsClean (findText found).1 (by decide)
    rw [parts] at clean
    have short : e.limits.allowName (encode name) = true := by
      have whole := findReaches found
      rw [parts] at whole
      unfold Reaches at whole
      rw [wayAppend] at whole
      obtain ⟨_, _, _, _, _, after⟩ := leadsCut (by simp [way, stepOfPart]) whole
      cases after with
      | directory short | file short | link short => exact short
    have spotted := spotRuns parts (parentMakeable plain clean).named routed (grows.limits ▸ short) reaches directory
    unfold makeDirectory
    rw [spotted]
    simp only [bind, Except.bind]
    split <;> simp
  · obtain ⟨q, whole, there⟩ := reachesLast wf proper (fun name same => named ⟨name, same⟩) reaches directory
    rw [makeDirectoryThere (reachesFind routed (parts.symm ▸ whole) there)]
    simp

/-- Once the directories around it have been made, nothing is missing for a directory that is there later. -/
theorem makeOrKeepFollows (clear : IsClear e []) {d' : Disk} {depth : Nat} (more : ps ≠ [])
    (proper : IsProper (ps ++ [last])) (there : e.isDirectory (ofParts (ps ++ [last])) = true)
    (went : d.makeWithin (ofParts ps) depth = (.ok (), d')) (follows : Grows d' e) :
    ∃ d'', d'.makeOrKeep (ofParts (ps ++ [last])) = .ok d'' ∧ Grows d'' e := by
  obtain ⟨change, outerThere⟩ := makeWithinMade wf (ofParts ps) depth
  rw [went] at change outerThere
  have parts := Path.partsOfParts (Path.properInit proper)
  obtain ⟨q, found, directory⟩ := isDirectoryReaches ((outerThere rfl).resolve_left (partsSome (by rwa [parts])))
  have reaches := findReaches found
  rw [parts] at reaches
  have ready := makeDirectoryReached change.wellFormed follows proper there reaches directory
  rcases makeDirectoryFollows change.wellFormed follows clear there with missing | ⟨d'', made, after⟩ | ⟨taken, kept⟩
  · exact absurd missing ready
  · exact ⟨d'', by simp [makeOrKeep, made], after⟩
  · exact ⟨d', by simp [makeOrKeep, taken, kept], follows⟩

variable (grows : Grows d e) (clear : IsClear e []) (later : e.WellFormed)
include grows clear later

theorem makeWithinFollows {depth : Nat} (proper : IsProper ps) (deep : ps.length < depth)
    (there : ps ≠ [] → e.isDirectory (ofParts ps) = true) :
    ∃ d', d.makeWithin (ofParts ps) depth = (.ok (), d') ∧ Grows d' e := by
  obtain ⟨less, rfl⟩ : ∃ less, depth = less + 1 := ⟨depth - 1, by omega⟩
  induction ps using List.reverseRecOn generalizing less with
  | nil => exact ⟨d, by simp [makeWithin, ofParts], grows⟩
  | append_singleton outer last ih =>
    have there := there (by simp)
    have parts := Path.partsOfParts proper
    have nonempty := partsSome (by simp [parts] : (ofParts (outer ++ [last])).parts ≠ [])
    rcases makeDirectoryFollows wf grows clear there with missing | ⟨d', made, follows⟩ | ⟨taken, before⟩
    · have more : outer ≠ [] := by
        rintro rfl
        exact makeDirectoryReached wf grows proper there (.done linkLimit _) (originDirectory wf []) missing
      have above : (ofParts (outer ++ [last])).parent? = some (ofParts outer) := by
        refine Path.parentInit parts fun alone => more ?_
        simpa using congrArg List.dropLast alone
      rw [List.length_append, List.length_singleton] at deep
      obtain ⟨fewer, rfl⟩ : ∃ fewer, less = fewer + 1 := ⟨less - 1, by omega⟩
      obtain ⟨d', went, follows⟩ := ih (Path.properInit proper) (fun _ => parentThere later more proper there) fewer
        (by omega)
      obtain ⟨d'', made, after⟩ := makeOrKeepFollows wf clear more proper there went follows
      refine ⟨d'', ?_, after⟩
      unfold makeWithin
      simp [nonempty, missing, above, went, made]
    · exact ⟨d', by simp [makeWithin, nonempty, made], follows⟩
    · exact ⟨d, by simp [makeWithin, nonempty, taken, before], grows⟩

theorem makeDirectoriesFollows (proper : IsProper ps) (there : ps ≠ [] → e.isDirectory (ofParts ps) = true) :
    ∃ d', d.makeDirectories (ofParts ps) = (.ok (), d') ∧ Grows d' e := by
  refine makeWithinFollows wf grows clear later proper ?_ there
  rw [Path.partsOfParts proper]
  omega

end

/- Writing files that are there later -/

theorem writeFollows (grows : Grows d e) (clear : IsClear e []) (later : e.WellFormed) {old : Bytes}
    (found : e.find p = .ok l) (file : e.get? l = some (.file old)) (parts : p.parts = ps ++ [.normal name])
    (reaches : Reaches d ps mid) (there : d.get? mid = some .directory) (c : Bytes) :
    ∃ d', d.write p c = .ok d' ∧ Grows d' e := by
  obtain ⟨routed, leads⟩ := findLeads.1 found
  rw [routeGrows grows] at routed
  rw [grows.here] at leads
  have start := startDirectory later.here (Route.ofText p.text)
  rw [grows.here] at start
  -- a path with a separator at its end would lead to a directory
  obtain ⟨a, n, steps, all⟩ : ∃ a n, (Route.ofText p.text).steps = a ++ [.down n] ∧
      (Route.ofText p.text).all = a ++ [.down n] := by
    obtain ⟨_, n, ends⟩ := (leadsKind later start leads).resolve_left (by simp [file])
    obtain ⟨a, whole⟩ := List.getLast?_eq_some_iff.1 ends
    refine ⟨a, n, ?_, whole⟩
    unfold Route.all at whole
    split at whole
    · simpa using congrArg List.getLast? whole
    · exact whole
  have before := reachesEntry parts steps reaches there
  have last : e.limits.allowName n = true ∧ l = n :: mid := by
    rw [all] at leads
    obtain ⟨mid', _, _, _, outer, after⟩ := leadsCut (by simp) leads
    obtain rfl := leadsUnique outer (leadsGrows grows before)
    cases after with
    | directory _ directory next =>
      cases next
      cases file.symm.trans directory
    | file short _ => exact ⟨short, rfl⟩
    | link _ link _ => exact absurd link (clearLink clear _ _)
  obtain ⟨short, rfl⟩ := last
  exact ⟨_, writeReached routed all (grows.limits ▸ short) before (earlierFile grows file) c,
    putFollows grows (by simp) (.inr ⟨c, old, rfl, file⟩)⟩

end ClassScaffold.Disk
