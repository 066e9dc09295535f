import ClassScaffold.Proofs.Disk.Follow
import ClassScaffold.Proofs.Generator.Flight
import ClassScaffold.Proofs.Scaffold.Collision
/-! The order in which the writes of a group go on does not matter where there are no links. What one order has left
when all files are written is what any other one grows into: it finds the directories and the places that it needs
and comes to the same tree. -/
namespace ClassScaffold.Generator
open Disk (Alike Grows IsClear Reaches)
open Session (Ends Program)
open ClassScaffold.Path (Part)
open Function (update)
open Text.Utf8 (encode)

def Writing.failed : Writing → Bool
  | made (.error _) | wrote (.error _) => true
  | _ => false

def Writing.isMade : Writing → Bool
  | toMake | made (.error _) => false
  | made (.ok _) | toWrite | wrote _ => true

namespace Flight

/-- All that was submitted has run, and no write that is waited for can go on. -/
structure Over (files : List PlannedFile) (x : Flight) : Prop where
  landed : Landed files x
  still : x.waited = true → ∀ i < files.length, x.writings i ≠ .made (.ok ())

def Written (files : List PlannedFile) (x : Flight) : Prop := ∀ i < files.length, x.writings i = .wrote (.ok ())

def Failed (files : List PlannedFile) (x : Flight) : Prop := ∃ i < files.length, (x.writings i).failed = true

variable {root : Path} {files : List PlannedFile} {b e : Disk} {s : Session} {x y : Flight} {may : Flight → Prop}

/- How a run comes to its end -/

structure Counted (files : List PlannedFile) (x : Flight) : Prop where
  beyond : ∀ i, files.length ≤ i → x.writings i = .toMake
  left : x.waited = false → Failed files x

theorem countedMoved {i : Nat} {w : Writing} (counted : Counted files x) (bound : i < files.length)
    (going : (x.writings i).failed = false) (same : y.waited = x.waited) (moved : y.writings = update x.writings i w) :
    Counted files y := by
  refine ⟨fun j out => ?_, fun left => ?_⟩
  · rw [moved, Function.update_of_ne (by omega)]
    exact counted.beyond j out
  · obtain ⟨j, inside, failed⟩ := counted.left (same ▸ left)
    have other : j ≠ i := by
      rintro rfl
      cases going.symm.trans failed
    exact ⟨j, inside, by rwa [moved, Function.update_of_ne other]⟩

theorem stepCounted (counted : Counted files x) (step : Step root files may x y) : Counted files y := by
  have within {i : Nat} {w : Writing} (here : x.writings i = w) (started : w ≠ .toMake) : i < files.length := by
    by_contra out
    exact started (here.symm.trans (counted.beyond i (by omega)))
  cases step with
  | makes file _ submitted | writes file submitted =>
    exact countedMoved counted (List.getElem?_eq_some_iff.1 file).1 (by rw [submitted]; rfl) rfl rfl
  | goesOn _ made => exact countedMoved counted (within made (by simp)) (by rw [made]; rfl) rfl rfl
  | @fails i e _ failed =>
    refine ⟨counted.beyond, fun _ => ⟨i, ?_, ?_⟩⟩
    · rcases failed with here | here
      · exact within here (by simp)
      · exact within here (by simp)
    · change (x.writings i).failed = true
      rcases failed with here | here <;> rw [here] <;> rfl
  | removes left _ _ => exact ⟨counted.beyond, fun _ => counted.left left⟩

theorem runsCounted (runs : Runs root files may (start s) x) : Counted files x := by
  induction runs with
  | refl => exact ⟨fun _ _ => rfl, nofun⟩
  | step _ next ih => exact stepCounted ih next

/-- A run goes on until it is over. -/
theorem overOrSteps (within : ∀ f ∈ files, ∃ names, names ≠ [] ∧ root.Within names f.path) (x : Flight) :
    Over files x ∨ ∃ y, Step root files may x y := by
  by_cases landed : Landed files x
  · by_cases still : x.waited = true → ∀ i < files.length, x.writings i ≠ .made (.ok ())
    · exact .inl ⟨landed, still⟩
    · simp only [Classical.not_imp, not_forall, not_not] at still
      obtain ⟨waited, i, _, made⟩ := still
      exact .inr ⟨_, .goesOn waited made⟩
  · obtain ⟨i, inside, flying⟩ : ∃ i < files.length, (x.writings i).inFlight = true := by simpa [Landed] using landed
    have file : files[i]? = some files[i] := List.getElem?_eq_getElem inside
    cases state : x.writings i with
    | toMake =>
      obtain ⟨names, some, around⟩ := within _ (List.getElem_mem inside)
      obtain ⟨parent, above, _⟩ := Scaffold.writeWithin some around
      exact .inr ⟨_, .makes file above state⟩
    | toWrite => exact .inr ⟨_, .writes file state⟩
    | made result | wrote result =>
      rw [state] at flying
      cases flying

theorem overFails (runs : Runs root files may (start s) x) (ended : Over files x) (unwritten : ¬ Written files x) :
    Failed files x := by
  obtain ⟨i, inside, other⟩ : ∃ i, i < files.length ∧ x.writings i ≠ .wrote (.ok ()) := by
    simpa [Written] using unwritten
  have landed := ended.landed i inside
  cases state : x.writings i with
  | toMake | toWrite =>
    rw [state] at landed
    cases landed
  | made result =>
    cases result with
    | error e => exact ⟨i, inside, by rw [state]; rfl⟩
    | ok =>
      refine (runsCounted runs).left ?_
      by_contra waited
      exact ended.still (by simpa using waited) i inside state
  | wrote result =>
    cases result with
    | error e => exact ⟨i, inside, by rw [state]; rfl⟩
    | ok => exact absurd state other

/- What has come of the operations -/

/-- What is there once a write has gone this far, and that no other file has changed. -/
structure Sent (files : List PlannedFile) (b : Disk) (x : Flight) : Prop where
  quiet : x.session.Quiet
  wellFormed : x.session.disk.WellFormed
  grows : Grows b x.session.disk
  around : ∀ i f parent, files[i]? = some f → f.path.parent? = some parent → (x.writings i).isMade = true →
    parent.text = "" ∨ x.session.disk.isDirectory parent = true
  written : ∀ i f, files[i]? = some f → x.writings i = .wrote (.ok ()) →
    ∃ l, x.session.disk.find f.path = .ok l ∧ x.session.disk.get? l = some (.file (encode f.text))
  others : ∀ l c, x.session.disk.get? l = some (.file c) → b.get? l = some (.file c) ∨
    ∃ i f, files[i]? = some f ∧ x.writings i = .wrote (.ok ()) ∧ x.session.disk.find f.path = .ok l

/-- Only the write at one place has moved; what it has done shows on the disk, and no written file is lost. -/
theorem sentMoved {i : Nat} {w : Writing} (sent : Sent files b x) (moved : y.writings = update x.writings i w)
    (before : x.writings i ≠ .wrote (.ok ())) (quiet : y.session.Quiet) (wf : y.session.disk.WellFormed)
    (grows : Grows x.session.disk y.session.disk)
    (around : ∀ f parent, files[i]? = some f → f.path.parent? = some parent → w.isMade = true →
      (x.writings i).isMade = true ∨ parent.text = "" ∨ y.session.disk.isDirectory parent = true)
    (written : w = .wrote (.ok ()) → ∀ f, files[i]? = some f →
      ∃ l, y.session.disk.find f.path = .ok l ∧ y.session.disk.get? l = some (.file (encode f.text)))
    (kept : ∀ j f l, j ≠ i → files[j]? = some f → y.session.disk.find f.path = .ok l →
      x.session.disk.get? l = some (.file (encode f.text)) → y.session.disk.get? l = some (.file (encode f.text)))
    (others : ∀ l c, y.session.disk.get? l = some (.file c) → x.session.disk.get? l = some (.file c) ∨
      w = .wrote (.ok ()) ∧ ∃ f, files[i]? = some f ∧ y.session.disk.find f.path = .ok l) : Sent files b y := by
  refine ⟨quiet, wf, Disk.growsTrans sent.grows grows, fun j f parent file above reached => ?_,
    fun j f file wrote => ?_, fun l c found => ?_⟩
  · rw [moved] at reached
    have earlier (made : (x.writings j).isMade = true) :
        parent.text = "" ∨ y.session.disk.isDirectory parent = true :=
      (sent.around j f parent file above made).imp_right (Disk.isDirectoryGrows grows)
    by_cases here : j = i
    · subst here
      rw [Function.update_self] at reached
      exact (around f parent file above reached).elim earlier id
    · rw [Function.update_of_ne here] at reached
      exact earlier reached
  · rw [moved] at wrote
    by_cases here : j = i
    · subst here
      rw [Function.update_self] at wrote
      exact written wrote f file
    · rw [Function.update_of_ne here] at wrote
      obtain ⟨l, found, there⟩ := sent.written j f file wrote
      have found := Disk.findGrows grows found
      exact ⟨l, found, kept j f l here file found there⟩
  · rcases others l c found with older | ⟨done, f, file, leads⟩
    · rcases sent.others l c older with base | ⟨j, f, file, wrote, leads⟩
      · exact .inl base
      · have here : j ≠ i := by
          rintro rfl
          exact before wrote
        exact .inr ⟨j, f, file, by rwa [moved, Function.update_of_ne here], Disk.findGrows grows leads⟩
    · exact .inr ⟨i, f, file, by rw [moved, Function.update_self, done], leads⟩

theorem sentStill {i : Nat} {w : Writing} (sent : Sent files b x) (quiet : y.session.Quiet)
    (same : y.session.disk = x.session.disk) (moved : y.writings = update x.writings i w)
    (made : w.isMade = true → (x.writings i).isMade = true) (before : x.writings i ≠ .wrote (.ok ()))
    (after : w ≠ .wrote (.ok ())) : Sent files b y := by
  refine sentMoved sent moved before quiet (same ▸ sent.wellFormed) (same ▸ Disk.growsRefl _)
    (fun _ _ _ _ reached => .inl (made reached)) (fun done => absurd done after) ?_ ?_
  · rw [same]
    exact fun _ _ _ _ _ _ there => there
  · rw [same]
    exact fun _ _ found => .inl found

theorem sentMade {i : Nat} {f : PlannedFile} {parent : Path} (sent : Sent files b x) (file : files[i]? = some f)
    (above : f.path.parent? = some parent) (submitted : x.writings i = .toMake) :
    Sent files b (x.making i parent) := by
  rcases ran : (Host.makeDirectories parent : StateM Session _).run x.session with ⟨result, s'⟩
  obtain ⟨quiet, went⟩ := Session.makeDirectoriesQuiet sent.quiet ran
  have made := Session.makeDirectoriesMade sent.wellFormed ran
  have after : x.making i parent = { x with session := s', writings := update x.writings i (.made result) } := by
    simp [making, ran]
  rw [after]
  refine sentMoved sent rfl (by simp [submitted]) quiet made.wellFormed made.grows
    (fun g parent' file' above' reached => .inr ?_) nofun (fun _ _ _ _ _ _ => Disk.madeKeeps made)
    fun l c found => .inl ?_
  · obtain rfl := Option.some.inj (file.symm.trans file')
    obtain rfl := Option.some.inj (above.symm.trans above')
    cases result with
    | error e => cases reached
    | ok => exact or_iff_not_imp_left.2 fun some => Disk.makeDirectoriesThere sent.wellFormed some went
  · by_contra other
    obtain ⟨_, directory, _⟩ := made.changed l (by rw [found]; exact Ne.symm other)
    cases found.symm.trans directory

section
variable (clear : IsClear b []) (within : ∀ f ∈ files, ∃ names, names ≠ [] ∧ root.Within names f.path)
  (apart : (files.map fun f => f.path.parts).Nodup)
include clear within apart

theorem placesApart {d : Disk} (grows : Grows b d) {i j : Nat} {f g : PlannedFile} {l : Disk.Location}
    (file : files[i]? = some f) (file' : files[j]? = some g) (found : d.find f.path = .ok l)
    (found' : d.find g.path = .ok l) : i = j := by
  obtain ⟨names, _, around⟩ := within f (List.mem_of_getElem? file)
  obtain ⟨names', _, around'⟩ := within g (List.mem_of_getElem? file')
  have clear := Disk.clearGrows clear grows
  have ends := Disk.reachesEnd clear (Disk.findReaches found)
  have ends' := Disk.reachesEnd clear (Disk.findReaches found')
  rw [around, Disk.endingNames] at ends
  rw [around', Disk.endingNames] at ends'
  have same : names = names' := Disk.placeInjective (List.append_cancel_right (ends.symm.trans ends'))
  have parts : f.path.parts = g.path.parts := by rw [around, around', same]
  refine (List.getElem?_inj ?_ apart).1 ?_
  · rw [List.length_map]
    exact (List.getElem?_eq_some_iff.1 file).1
  · rw [List.getElem?_map, List.getElem?_map, file, file', Option.map_some, Option.map_some, parts]

theorem sentWrote {i : Nat} {f : PlannedFile} (sent : Sent files b x) (file : files[i]? = some f)
    (submitted : x.writings i = .toWrite) : Sent files b (x.writing i f) := by
  rcases ran : (Host.writeFile f.path (encode f.text) : StateM Session _).run x.session with ⟨result, s'⟩
  have after : x.writing i f = { x with session := s', writings := update x.writings i (.wrote result) } := by
    simp [writing, ran]
  rw [after]
  obtain ⟨quiet, ⟨rfl, wrote⟩ | ⟨e, rfl, _, same⟩⟩ := Session.writeFileQuiet sent.quiet ran
  · obtain ⟨l, isPlace, put, found⟩ := Disk.writeFound sent.wellFormed wrote
    have grows : Grows x.session.disk s'.disk := put ▸ Disk.filePlaceGrows isPlace _
    have some : l ≠ [] := by
      obtain ⟨name, outer, rfl, _⟩ := isPlace.parent
      simp
    refine sentMoved sent rfl (by simp [submitted]) quiet (put ▸ Disk.filePlaceWellFormed sent.wellFormed isPlace _)
      grows (fun _ _ _ _ _ => .inl (by rw [submitted]; rfl)) (fun _ g file' => ?_)
      (fun j g q here file' found' there => ?_) fun q c there => ?_
    · obtain rfl := Option.some.inj (file.symm.trans file')
      exact ⟨l, found, by simp [put, Disk.getPut _ some]⟩
    · have other : q ≠ l := by
        rintro rfl
        exact here (placesApart clear within apart (Disk.growsTrans sent.grows grows) file' file found' found)
      simpa only [put, Disk.getPut _ some, if_neg other] using there
    · by_cases here : q = l
      · exact .inr ⟨rfl, f, file, here ▸ found⟩
      · exact .inl (by simpa only [put, Disk.getPut _ some, if_neg here] using there)
  · exact sentStill sent quiet same rfl (fun _ => by rw [submitted]; rfl) (by simp [submitted]) (by simp)

theorem stepSent (sent : Sent files b x) (step : Step root files (fun _ => False) x y) : Sent files b y := by
  cases step with
  | makes file above submitted => exact sentMade sent file above submitted
  | writes file submitted => exact sentWrote clear within apart sent file submitted
  | goesOn _ made =>
    exact sentStill sent sent.quiet rfl rfl (fun _ => by rw [made]; rfl) (by simp [made]) (by simp)
  | fails =>
    exact ⟨sent.quiet, sent.wellFormed, sent.grows, sent.around, sent.written, sent.others⟩
  | removes _ _ now => exact now.elim

theorem runsSent (wf : s.disk.WellFormed) (quiet : s.Quiet) (base : s.disk = b)
    (runs : Runs root files (fun _ => False) (start s) x) : Sent files b x := by
  induction runs with
  | refl =>
    subst base
    exact ⟨quiet, wf, Disk.growsRefl _, fun _ _ _ _ _ => nofun, fun _ _ _ => nofun, fun _ _ found => .inl found⟩
  | step _ next ih => exact stepSent clear within apart ih next

end

/- One run up to what another one has left -/

theorem aroundReaches {d : Disk} (wf : d.WellFormed) {q : Path} {ps : List Part} (parts : q.parts = ps)
    (around : q.text = "" ∨ d.isDirectory q = true) : ∃ l, Reaches d ps l ∧ d.get? l = some .directory := by
  subst parts
  rcases around with empty | there
  · obtain rfl : q = ⟨""⟩ := by rw [← empty]
    exact ⟨_, .done Disk.linkLimit _, Disk.originDirectory wf []⟩
  · obtain ⟨l, found, directory⟩ := Disk.isDirectoryReaches there
    exact ⟨l, Disk.findReaches found, directory⟩

/-- The run has made nothing that is not there on the other disk, and nothing has failed. -/
structure Follows (e : Disk) (x : Flight) : Prop where
  grows : Grows x.session.disk e
  fine : ∀ i, (x.writings i).failed = false

theorem followsMoved {i : Nat} {w : Writing} (follows : Follows e x) (grows : Grows y.session.disk e)
    (fine : w.failed = false) (moved : y.writings = update x.writings i w) : Follows e y := by
  refine ⟨grows, fun j => ?_⟩
  rw [moved]
  by_cases here : j = i
  · subst here
    simpa using fine
  · rw [Function.update_of_ne here]
    exact follows.fine j

section
variable (clear : IsClear b []) (within : ∀ f ∈ files, ∃ names, names ≠ [] ∧ root.Within names f.path)
  (apart : (files.map fun f => f.path.parts).Nodup) (sent : Sent files b x) (written : Written files x)
include clear within sent written

theorem stepFollows {z : Flight} (sent' : Sent files b y) (follows : Follows x.session.disk y)
    (step : Step root files (fun _ => False) y z) : Follows x.session.disk z := by
  have later := Disk.clearGrows clear sent.grows
  have named {i : Nat} {f : PlannedFile} (file : files[i]? = some f) :
      ∃ ps name, f.path.parts = ps ++ [.normal name] := by
    obtain ⟨names, some, around⟩ := within f (List.mem_of_getElem? file)
    obtain ⟨outer, name, rfl⟩ := names.eq_nil_or_concat'.resolve_left some
    exact ⟨root.parts ++ outer.map .normal, name, by rw [around]; simp⟩
  have done {i : Nat} {f : PlannedFile} (file : files[i]? = some f) : x.writings i = .wrote (.ok ()) :=
    written i (List.getElem?_eq_some_iff.1 file).1
  cases step with
  | @makes i f parent file above submitted =>
    rcases ran : (Host.makeDirectories parent : StateM Session _).run y.session with ⟨result, s'⟩
    obtain ⟨_, went⟩ := Session.makeDirectoriesQuiet sent'.quiet ran
    obtain ⟨ps, name, parts⟩ := named file
    obtain ⟨above', parentParts⟩ := Path.parentParts parts
    obtain rfl := Option.some.inj (above.symm.trans above')
    have proper := Path.partsProper f.path
    rw [parts] at proper
    have there (some : ps ≠ []) : x.session.disk.isDirectory (Path.ofParts ps) = true := by
      refine (sent.around i f _ file above (by rw [done file]; rfl)).resolve_left (Disk.partsSome ?_)
      rwa [parentParts]
    obtain ⟨d, made, grows⟩ := Disk.makeDirectoriesFollows sent'.wellFormed follows.grows later sent.wellFormed
      (Path.properInit proper) there
    obtain ⟨rfl, rfl⟩ := Prod.mk.inj (went.symm.trans made)
    refine followsMoved follows (i := i) (w := .made (.ok ())) ?_ rfl ?_
    · simpa [making, ran] using grows
    · simp [making, ran]
  | @writes i f file submitted =>
    rcases ran : (Host.writeFile f.path (encode f.text) : StateM Session _).run y.session with ⟨result, s'⟩
    obtain ⟨_, answer⟩ := Session.writeFileQuiet sent'.quiet ran
    obtain ⟨ps, name, parts⟩ := named file
    obtain ⟨above, parentParts⟩ := Path.parentParts parts
    obtain ⟨mid, reaches, directory⟩ := aroundReaches sent'.wellFormed parentParts
      (sent'.around i f _ file above (by rw [submitted]; rfl))
    obtain ⟨l, found, there⟩ := sent.written i f file (done file)
    obtain ⟨d, wrote, grows⟩ := Disk.writeFollows follows.grows later sent.wellFormed found there parts reaches
      directory (encode f.text)
    rcases answer with ⟨rfl, went⟩ | ⟨_, _, refused, _⟩
    · obtain rfl := Except.ok.inj (went.symm.trans wrote)
      refine followsMoved follows (i := i) (w := .wrote (.ok ())) ?_ rfl ?_
      · simpa [writing, ran] using grows
      · simp [writing, ran]
    · cases refused.symm.trans wrote
  | goesOn _ made => exact followsMoved follows follows.grows rfl rfl
  | fails => exact ⟨follows.grows, follows.fine⟩
  | removes _ _ now => exact now.elim

include apart

theorem runsFollow (wf : s.disk.WellFormed) (quiet : s.Quiet) (base : s.disk = b)
    (runs : Runs root files (fun _ => False) (start s) y) : Follows x.session.disk y := by
  induction runs with
  | refl =>
    subst base
    exact ⟨sent.grows, fun _ => rfl⟩
  | step before next ih =>
    exact stepFollows clear within sent written (runsSent clear within apart wf quiet base before) ih next

end

theorem followsWritten (runs : Runs root files may (start s) y) (ended : Over files y)
    (follows : Follows e y) : Written files y := by
  by_contra unwritten
  obtain ⟨i, _, failed⟩ := overFails runs ended unwritten
  cases (follows.fine i).symm.trans failed

theorem sentReads (sent : Sent files b x) (written : Written files x) :
    ∀ f ∈ files, x.session.disk.read f.path = .ok (encode f.text) := by
  intro f member
  obtain ⟨i, file⟩ := List.mem_iff_getElem?.1 member
  exact Disk.readFinds.2 (sent.written i f file (written i (List.getElem?_eq_some_iff.1 file).1))

theorem bothAlike (sent : Sent files b x) (sent' : Sent files b y) (written : Written files x)
    (written' : Written files y) (there : Grows x.session.disk y.session.disk)
    (back : Grows y.session.disk x.session.disk) : Alike x.session.disk y.session.disk := by
  have done {i : Nat} {f : PlannedFile} (file : files[i]? = some f) : i < files.length :=
    (List.getElem?_eq_some_iff.1 file).1
  have placed {i : Nat} {f : PlannedFile} {l : Disk.Location} (file : files[i]? = some f)
      (leads : x.session.disk.find f.path = .ok l) :
      x.session.disk.get? l = some (.file (encode f.text)) ∧ y.session.disk.get? l = some (.file (encode f.text)) := by
    obtain ⟨q, found, text⟩ := sent.written i f file (written i (done file))
    obtain ⟨q', found', text'⟩ := sent'.written i f file (written' i (done file))
    obtain rfl := Except.ok.inj (found.symm.trans leads)
    obtain rfl := Except.ok.inj (found'.symm.trans (Disk.findGrows there leads))
    exact ⟨text, text'⟩
  refine Disk.growsBoth there back fun l c c' first second => ?_
  rcases sent.others l c first with kept | ⟨i, f, file, _, leads⟩
  · rcases sent'.others l c' second with kept' | ⟨i, f, file, _, leads⟩
    · cases kept.symm.trans kept'
      rfl
    · obtain ⟨text, text'⟩ := placed file (Disk.findGrows back leads)
      cases first.symm.trans text
      cases second.symm.trans text'
      rfl
  · obtain ⟨text, text'⟩ := placed file leads
    cases first.symm.trans text
    cases second.symm.trans text'
    rfl

section
variable (clear : IsClear s.disk []) (within : ∀ f ∈ files, ∃ names, names ≠ [] ∧ root.Within names f.path)
  (apart : (files.map fun f => f.path.parts).Nodup) (wf : s.disk.WellFormed) (quiet : s.Quiet)
  (runs : Runs root files (fun _ => False) (start s) x) (written : Written files x)
  (runs' : Runs root files (fun _ => False) (start s) y) (ended' : Over files y)
include clear within apart wf quiet runs written runs' ended'

theorem orderWrites : Written files y := by
  have sent := runsSent clear within apart wf quiet rfl runs
  exact followsWritten runs' ended' (runsFollow clear within apart sent written wf quiet rfl runs')

theorem orderAlike : Alike x.session.disk y.session.disk := by
  have sent := runsSent clear within apart wf quiet rfl runs
  have sent' := runsSent clear within apart wf quiet rfl runs'
  have written' := orderWrites clear within apart wf quiet runs written runs' ended'
  have follows := runsFollow clear within apart sent written wf quiet rfl runs'
  have back := runsFollow clear within apart sent' written' wf quiet rfl runs
  exact bothAlike sent sent' written written' back.grows follows.grows

end

/- Orders that can be carried out -/

instance : Decidable (Written files x) := inferInstanceAs (Decidable (∀ i < files.length, _))

theorem writtenOver (written : Written files x) : Over files x := by
  refine ⟨fun i inside => ?_, fun _ i inside made => ?_⟩
  · rw [written i inside]
    rfl
  · cases (written i inside).symm.trans made

theorem writtenFine (written : Written files x) : ¬ Failed files x := by
  rintro ⟨i, inside, failed⟩
  rw [written i inside] at failed
  cases failed

theorem writeRuns {i : Nat} {f : PlannedFile} {parent : Path} {s' : Session} (file : files[i]? = some f)
    (above : f.path.parent? = some parent) (before : Runs root files may x y) (submitted : y.writings i = .toMake)
    (waited : y.waited = true) (ends : Ends (Scaffold.write f : Program FilingFault Unit) y.session (.ok ()) s') :
    Runs root files may x { y with session := s', writings := update y.writings i (.wrote (.ok ())) } := by
  unfold Scaffold.write at ends
  rw [above] at ends
  obtain ⟨_, t, first, last⟩ := Session.endsBindOk ends
  have made := Session.attemptOk first
  have wrote := Session.attemptOk last
  have going : Runs root files may x ((y.making i parent).goingOn i) := by
    refine .step (.step before (.makes file above submitted)) (.goesOn waited ?_)
    simp [making, made]
  have done := Runs.step going (.writes (i := i) file (by simp [goingOn]))
  have same : ((y.making i parent).goingOn i).writing i f =
      { y with session := s', writings := update y.writings i (.wrote (.ok ())) } := by
    simp [writing, goingOn, making, made, wrote]
  rwa [same] at done

section
variable (within : ∀ f ∈ files, ∃ names, names ≠ [] ∧ root.Within names f.path)
include within

theorem carriedFrom {before rest : List PlannedFile} {s' : Session} (same : files = before ++ rest)
    (runs : Runs root files may (start s) y) (waited : y.waited = true)
    (done : ∀ i < before.length, y.writings i = .wrote (.ok ()))
    (left : ∀ i, before.length ≤ i → y.writings i = .toMake)
    (ends : Ends (rest.forM Scaffold.write : Program FilingFault PUnit) y.session (.ok ⟨⟩) s') :
    ∃ x, Runs root files may (start s) x ∧ Written files x ∧ x.session = s' := by
  induction rest generalizing before y with
  | nil =>
    refine ⟨y, runs, ?_, (Session.endsPure ends).2.symm⟩
    rw [same, List.append_nil]
    exact done
  | cons f rest ih =>
    obtain ⟨_, t, first, later⟩ := Session.endsBindOk ends
    have file : files[before.length]? = some f := by simp [same]
    obtain ⟨names, some, around⟩ := within f (List.mem_of_getElem? file)
    obtain ⟨parent, above, _⟩ := Scaffold.writeWithin some around
    have next := writeRuns file above runs (left _ (Nat.le_refl _)) waited first
    have length : (before ++ [f]).length = before.length + 1 := by simp
    have whole : files = (before ++ [f]) ++ rest := by simp [same]
    refine ih whole next waited (fun i inside => ?_) (fun i outside => ?_) later
    · by_cases here : i = before.length
      · simp [here]
      · simpa [Function.update_of_ne here] using done i (by omega)
    · simpa [Function.update_of_ne (show i ≠ before.length by omega)] using left i (by omega)

/-- When the files of a group can be written one after the other, which is one of the orders, every order ends with the
same tree. -/
theorem carriedAlike (clear : IsClear s.disk []) (apart : (files.map fun f => f.path.parts).Nodup)
    (wf : s.disk.WellFormed) (quiet : s.Quiet) {s' : Session}
    (ends : Ends (files.forM Scaffold.write : Program FilingFault PUnit) s (.ok ⟨⟩) s')
    (runs : Runs root files (fun _ => False) (start s) y) (ended : Over files y) :
    Written files y ∧ Alike s'.disk y.session.disk := by
  obtain ⟨x, before, written, rfl⟩ :=
    carriedFrom within (List.nil_append files).symm .refl rfl (by simp) (fun _ _ => rfl) ends
  exact ⟨orderWrites clear within apart wf quiet before written runs ended,
    orderAlike clear within apart wf quiet before written runs ended⟩

end

/-- The write at this place goes one step on. -/
def turn (files : List PlannedFile) (x : Flight) (i : Nat) : Option Flight :=
  match files[i]?, x.writings i with
  | some f, .toMake => f.path.parent?.map (x.making i)
  | some _, .made (.ok ()) => if x.waited then some (x.goingOn i) else none
  | some f, .toWrite => some (x.writing i f)
  | _, _ => none

theorem turnSteps {i : Nat} (went : turn files x i = some y) : Step root files may x y := by
  unfold turn at went
  split at went
  · next f file submitted =>
    obtain ⟨parent, above, rfl⟩ := Option.map_eq_some_iff.1 went
    exact .makes file above submitted
  · next made =>
    split at went
    · next waited =>
      cases went
      exact .goesOn waited made
    · cases went
  · next f file submitted =>
    cases went
    exact .writes file submitted
  · cases went

theorem turnsRun {order : List Nat} {z : Flight} (before : Runs root files may x y)
    (went : order.foldlM (turn files) y = some z) : Runs root files may x z := by
  induction order generalizing y with
  | nil =>
    cases went
    exact before
  | cons i rest ih =>
    obtain ⟨next, first, later⟩ := Option.bind_eq_some_iff.1 went
    exact ih (.step before (turnSteps first)) later

/- All orders -/

/-- In whatever order the writes of a group go on, all of its files are written and the same tree is left, in which each
file has its text, or one of them fails in every order. -/
theorem ordersAgree {r : Request} {database : Database} {plan : Plan} {group : List PlannedFile}
    (planned : Plan.ofRequest root r database = .ok plan) (member : group ∈ plan.groups)
    (wf : s.disk.WellFormed) (clear : IsClear s.disk []) (quiet : s.Quiet)
    (runs : Runs root group (fun _ => False) (start s) x) (ended : Over group x)
    (runs' : Runs root group (fun _ => False) (start s) y) (ended' : Over group y) :
    (Written group x ∧ Written group y ∧ Alike x.session.disk y.session.disk ∧
      ∀ f ∈ group, x.session.disk.read f.path = .ok (encode f.text)) ∨ Failed group x ∧ Failed group y := by
  have within : ∀ f ∈ group, ∃ names, names ≠ [] ∧ root.Within names f.path := fun f inside =>
    (Scaffold.planWithin planned).2 f (List.mem_flatten.2 ⟨group, member, inside⟩)
  have apart := Scaffold.groupApart planned member
  by_cases written : Written group x
  · exact .inl ⟨written, orderWrites clear within apart wf quiet runs written runs' ended',
      orderAlike clear within apart wf quiet runs written runs' ended',
      sentReads (runsSent clear within apart wf quiet rfl runs) written⟩
  · refine .inr ⟨overFails runs ended written, overFails runs' ended' fun written' => written ?_⟩
    exact orderWrites clear within apart wf quiet runs' written' runs ended

/-- One file after the other, and all directories before the first file. -/
def orders : List (List Nat) := [[0, 0, 0, 1, 1, 1, 2, 2, 2, 3, 3, 3], [3, 2, 1, 0, 3, 2, 1, 0, 1, 3, 0, 2]]

def single : Request := ⟨some "p", some "p", [⟨["a"], [], []⟩]⟩

theorem ordersAgreeSingle : ∃ plan, Plan.ofRequest ⟨"/"⟩ single .postgresql = .ok plan ∧ plan.groups.length = 2 ∧
    ∀ group ∈ plan.groups, ∃ x y, Runs ⟨"/"⟩ group (fun _ => False) (start Scaffold.blank) x ∧
      Runs ⟨"/"⟩ group (fun _ => False) (start Scaffold.blank) y ∧
      Written group x ∧ Written group y ∧ Alike x.session.disk y.session.disk ∧
      ∀ f ∈ group, x.session.disk.read f.path = .ok (encode f.text) := by
  have checked : (match Plan.ofRequest ⟨"/"⟩ single .postgresql with
      | .ok plan => plan.groups.length == 2 && plan.groups.all fun group => orders.all fun order =>
          (order.foldlM (turn group) (start Scaffold.blank)).any fun x => decide (Written group x)
      | .error _ => false) = true := by decide +kernel
  split at checked
  · next plan planned =>
    obtain ⟨count, each⟩ := Bool.and_eq_true_iff.1 checked
    refine ⟨plan, planned, by simpa using count, fun group member => ?_⟩
    have ends := List.all_eq_true.1 (List.all_eq_true.1 each group member)
    obtain ⟨x, ran, written⟩ := (Option.any_eq_true ..).1 (ends _ List.mem_cons_self)
    obtain ⟨y, ran', written'⟩ := (Option.any_eq_true ..).1 (ends _ (List.mem_cons_of_mem _ List.mem_cons_self))
    have written := of_decide_eq_true written
    have written' := of_decide_eq_true written'
    have clear : IsClear Scaffold.blank.disk [] := by
      intro rel some target link
      simp [Scaffold.blank, Session.start, Disk.empty, Disk.get?, some] at link
    have runs : Runs ⟨"/"⟩ group (fun _ => False) (start Scaffold.blank) x := turnsRun .refl ran
    have runs' : Runs ⟨"/"⟩ group (fun _ => False) (start Scaffold.blank) y := turnsRun .refl ran'
    have agree := ordersAgree planned member (Disk.emptyWellFormed .usual) clear (fun _ => rfl) runs
      (writtenOver written) runs' (writtenOver written')
    exact ⟨x, y, runs, runs', agree.resolve_right fun fails => writtenFine written fails.1⟩
  · cases checked

end Flight
end ClassScaffold.Generator
