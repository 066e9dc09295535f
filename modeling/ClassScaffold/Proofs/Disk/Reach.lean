import ClassScaffold.Proofs.Disk.Walk
import ClassScaffold.Proofs.Path.Parts
/-! Where a path leads, by its parts alone, and how that stays as it is while a disk grows. Below a location
without symbolic links a path that goes on by names leads to the location of these names. -/
namespace ClassScaffold.Disk
open Text.Utf8 (encode)
open ClassScaffold.Path (Part partOf partsOf)
open Text (splitAt)

/- Disks that grow -/

structure Grows (d d' : Disk) : Prop where
  here : d'.here = d.here
  limits : d'.limits = d.limits
  directories : ∀ l, d.get? l = some .directory → d'.get? l = some .directory
  files : ∀ l c, d.get? l = some (.file c) → ∃ c', d'.get? l = some (.file c')
  links : ∀ l t, d'.get? l = some (.link t) ↔ d.get? l = some (.link t)

theorem growsRefl (d : Disk) : Grows d d :=
  ⟨rfl, rfl, fun _ h => h, fun _ c h => ⟨c, h⟩, fun _ _ => Iff.rfl⟩

theorem growsTrans {a b c : Disk} (first : Grows a b) (second : Grows b c) : Grows a c := by
  refine ⟨second.here.trans first.here, second.limits.trans first.limits,
    fun l h => second.directories l (first.directories l h), fun l contents h => ?_,
    fun l t => (second.links l t).trans (first.links l t)⟩
  obtain ⟨contents', found⟩ := first.files l contents h
  exact second.files l contents' found

theorem putGrows {d : Disk} {l : Location} (some : l ≠ []) {e : Entry}
    (kind : (d.get? l = none ∧ ∀ t, e ≠ .link t) ∨ ∃ c c', d.get? l = .some (.file c) ∧ e = .file c') :
    Grows d (d.put l e) := by
  refine ⟨rfl, rfl, fun q h => ?_, fun q c h => ?_, fun q t => ?_⟩ <;> rw [getPut d some]
  · split
    · next same =>
      rw [same] at h
      rcases kind with ⟨none, _⟩ | ⟨_, _, file, _⟩ <;> simp_all
    · exact h
  · split
    · next same =>
      rw [same] at h
      rcases kind with ⟨none, _⟩ | ⟨_, c', file, rfl⟩
      · simp_all
      · exact ⟨c', rfl⟩
    · exact ⟨c, h⟩
  · split
    · next same =>
      rw [same]
      rcases kind with ⟨none, noLink⟩ | ⟨_, _, file, rfl⟩
      · simp [none, noLink t]
      · simp [file]
    · exact Iff.rfl

theorem leadsGrows {d d' : Disk} (grows : Grows d d') {links : Nat} {base : Location} {steps : List Step}
    {l : Location} (leads : Leads d links base steps l) : Leads d' links base steps l := by
  induction leads with
  | done links base => exact .done links base
  | here _ ih => exact .here ih
  | inside _ ih => exact .inside ih
  | up _ ih => exact .up ih
  | directory short found _ ih =>
    exact .directory (grows.limits ▸ short) (grows.directories _ found) ih
  | file short found =>
    obtain ⟨c', found'⟩ := grows.files _ _ found
    exact .file (grows.limits ▸ short) found'
  | link short found _ ih => exact .link (grows.limits ▸ short) ((grows.links _ _).2 found) ih

theorem startDirectory {d : Disk} {base : Location} (directory : d.get? base = some .directory) (r : Route) :
    d.get? (r.start base) = some .directory := by
  unfold Route.start
  split
  · exact getRoot d
  · exact directory

theorem outerDirectory {d : Disk} (wf : d.WellFormed) {base : Location}
    (directory : d.get? base = some .directory) : d.get? base.tail = some .directory := by
  cases base with
  | nil => exact directory
  | cons name outer => exact wf.parents name outer (by simp [directory])

theorem leadsKind {d : Disk} (wf : d.WellFormed) {links : Nat} {base : Location} {steps : List Step}
    {l : Location} (directory : d.get? base = some .directory) (leads : Leads d links base steps l) :
    d.get? l = some .directory ∨
      (∃ c, d.get? l = some (.file c)) ∧ ∃ name, steps.getLast? = some (.down name) := by
  have later {step : Step} {rest : List Step} (ih : d.get? l = some .directory ∨
      (∃ c, d.get? l = some (.file c)) ∧ ∃ name, rest.getLast? = some (.down name)) :
      d.get? l = some .directory ∨
      (∃ c, d.get? l = some (.file c)) ∧ ∃ name, (step :: rest).getLast? = some (.down name) := by
    rcases ih with there | ⟨file, name, last⟩
    · exact .inl there
    · exact .inr ⟨file, name, by simp [List.getLast?_cons, last]⟩
  induction leads with
  | done _ base => exact .inl directory
  | here _ ih => exact later (ih directory later)
  | inside _ ih => exact later (ih directory later)
  | up _ ih => exact later (ih (outerDirectory wf directory) later)
  | directory _ found _ ih => exact later (ih found later)
  | file _ found => exact .inr ⟨⟨_, found⟩, _, rfl⟩
  | @link _ base name target rest l _ _ _ ih =>
    rcases ih (startDirectory directory _) later with there | ⟨file, last, found⟩
    · exact .inl there
    · cases rest with
      | nil => exact .inr ⟨file, name, rfl⟩
      | cons step others =>
        refine .inr ⟨file, last, ?_⟩
        rw [List.getLast?_append] at found
        simpa [List.getLast?_cons] using found

theorem insideDirectory {d : Disk} (wf : d.WellFormed) {links : Nat} {base : Location} {steps : List Step}
    {l : Location} (directory : d.get? base = some .directory)
    (leads : Leads d links base (steps ++ [.inside]) l) : d.get? l = some .directory := by
  rcases leadsKind wf directory leads with there | ⟨_, name, last⟩
  · exact there
  · simp at last

/- Parts as steps -/

def stepOfPart : Part → Option Step
  | .root | .current => none
  | .parent => some .up
  | .normal name => some (.down (encode name))

def way (ps : List Part) : List Step := ps.filterMap stepOfPart

def origin (d : Disk) (ps : List Part) : Location := if ps.head? = some .root then [] else d.here

def Reaches (d : Disk) (ps : List Part) (l : Location) : Prop :=
  Leads d linkLimit (d.origin ps) (way ps) l

theorem wayAppend (a b : List Part) : way (a ++ b) = way a ++ way b := List.filterMap_append

theorem wayNames (names : List String) :
    way (names.map .normal) = (names.map encode).map .down := by
  induction names with
  | nil => rfl
  | cons name rest ih =>
    simp only [way, List.map_cons] at ih ⊢
    simp [stepOfPart, ih]

theorem originAppend {d : Disk} {a b : List Part} (later : b.head? ≠ some .root) :
    d.origin (a ++ b) = d.origin a := by
  cases a with
  | nil => simp [origin, later]
  | cons first rest => rfl

theorem namesHead (names : List String) : (names.map Part.normal).head? ≠ some .root := by
  cases names <;> simp

theorem wayPiece (first : Bool) (piece : List Char) :
    way (partOf first piece).toList = (stepOf piece).toList.filter Step.isMove := by
  unfold partOf stepOf
  by_cases none : piece = []
  · simp [none, way]
  · by_cases dot : piece = ['.']
    · cases first <;> simp [dot, way, stepOfPart, Step.isMove]
    · by_cases dots : piece = ['.', '.']
      · rw [dots]
        rfl
      · simp only [none, dot, dots, if_false]
        rfl

theorem wayPieces (first : Bool) (pieces : List (List Char)) :
    way (partsOf first pieces) = (pieces.filterMap stepOf).filter Step.isMove := by
  induction pieces generalizing first with
  | nil => rfl
  | cons piece rest ih =>
    rw [partsOf, wayAppend, ih, wayPiece]
    cases found : stepOf piece with
    | none => simp [found]
    | some step =>
      rw [List.filterMap_cons_some found]
      exact (List.filter_append [step] (rest.filterMap stepOf)).symm

theorem noRoot (pieces : List (List Char)) (first : Bool) : .root ∉ partsOf first pieces := by
  induction pieces generalizing first with
  | nil => simp [partsOf]
  | cons piece rest ih =>
    intro member
    rcases List.mem_append.1 member with head | tail
    · rw [Option.mem_toList] at head
      unfold partOf at head
      split at head
      · contradiction
      · split at head
        · split at head <;> simp at head
        · split at head <;> simp at head
    · exact ih false tail

theorem routeParts (d : Disk) (p : Path) : (Route.ofText p.text).start d.here = d.origin p.parts ∧
    (Route.ofText p.text).all.filter Step.isMove = way p.parts := by
  have steps : (Route.ofText p.text).all.filter Step.isMove =
      ((splitAt '/' p.text.toList).filterMap stepOf).filter Step.isMove := by
    unfold Route.all
    split
    · simp [Route.ofText, Step.isMove]
    · rfl
  rw [steps]
  unfold Path.parts origin Route.start
  by_cases absolute : p.isAbsolute = true
  · have same : (Route.ofText p.text).absolute = true := absolute
    have root (ps : List Part) : way (.root :: ps) = way ps := rfl
    simp [absolute, same, root, ← wayPieces false]
  · have same : ¬ (Route.ofText p.text).absolute = true := absolute
    refine ⟨?_, by simp [absolute, ← wayPieces true]⟩
    have relative : (partsOf true (splitAt '/' p.text.toList)).head? ≠ some .root := fun head =>
      noRoot _ true (List.mem_of_head? head)
    simp [absolute, same, relative]

theorem routeText {d : Disk} {p : Path} {r : Route} (ok : d.route p = .ok r) :
    r = Route.ofText p.text := by
  unfold route at ok
  split at ok
  · contradiction
  · split at ok
    · contradiction
    · split at ok
      · cases ok
        rfl
      · contradiction

theorem findText {d : Disk} {p : Path} {l : Location} (found : d.find p = .ok l) :
    '\x00' ∉ p.text.toList ∧ p.text ≠ "" := by
  unfold find route at found
  split at found
  · contradiction
  · next clean =>
    split at found
    · contradiction
    · next some => exact ⟨by simpa using clean, by simpa using some⟩

theorem routeGrows {d d' : Disk} (grows : Grows d d') (p : Path) : d'.route p = d.route p := by
  unfold route
  rw [grows.limits]

theorem findLeads {d : Disk} {p : Path} {l : Location} : d.find p = .ok l ↔
    d.route p = .ok (Route.ofText p.text) ∧
      Leads d linkLimit ((Route.ofText p.text).start d.here) (Route.ofText p.text).all l := by
  unfold find walk
  cases routed : d.route p with
  | error e => simp [bind, Except.bind]
  | ok r =>
    rw [routeText routed]
    simp only [bind, Except.bind, true_and]
    exact ⟨walkLeads, leadsWalk⟩

theorem findGrows {d d' : Disk} (grows : Grows d d') {p : Path} {l : Location} (found : d.find p = .ok l) :
    d'.find p = .ok l := by
  obtain ⟨routed, leads⟩ := findLeads.1 found
  exact findLeads.2 ⟨(routeGrows grows p).trans routed, grows.here ▸ leadsGrows grows leads⟩

theorem readFinds {d : Disk} {p : Path} {c : Text.Utf8.Bytes} :
    d.read p = .ok c ↔ ∃ l, d.find p = .ok l ∧ d.get? l = some (.file c) := by
  unfold read
  cases found : d.find p with
  | error e => simp [bind, Except.bind]
  | ok l =>
    cases there : d.get? l with
    | none => simp [bind, Except.bind, contentsAt, there]
    | some entry => cases entry <;> simp [bind, Except.bind, contentsAt, there]

theorem findReaches {d : Disk} {p : Path} {l : Location} (found : d.find p = .ok l) :
    Reaches d p.parts l := by
  have leads := leadsMoves (findLeads.1 found).2
  rwa [(routeParts d p).1, (routeParts d p).2] at leads

theorem reachesUnique {d : Disk} {ps : List Part} {l l' : Location} (a : Reaches d ps l)
    (b : Reaches d ps l') : l = l' := leadsUnique a b

theorem reachesGrows {d d' : Disk} (grows : Grows d d') {ps : List Part} {l : Location}
    (reaches : Reaches d ps l) : Reaches d' ps l := by
  unfold Reaches origin at *
  rw [grows.here]
  exact leadsGrows grows reaches

theorem originDirectory {d : Disk} (wf : d.WellFormed) (ps : List Part) :
    d.get? (d.origin ps) = some .directory := by
  unfold origin
  split
  · exact getRoot d
  · exact wf.here

theorem isDirectoryReaches {d : Disk} {p : Path} (there : d.isDirectory p = true) :
    ∃ l, d.find p = .ok l ∧ d.get? l = some .directory := by
  unfold isDirectory at there
  split at there
  · next l found => exact ⟨l, found, by simpa using there⟩
  · contradiction

theorem reachesInit {d : Disk} (wf : d.WellFormed) {a b : List Part} {l : Location}
    (inner : b.head? ≠ some .root) (reaches : Reaches d (a ++ b) l) (there : d.get? l = some .directory) :
    ∃ mid, Reaches d a mid ∧ d.get? mid = some .directory := by
  unfold Reaches at reaches
  rw [originAppend inner, wayAppend] at reaches
  by_cases none : way b = []
  · rw [none, List.append_nil] at reaches
    exact ⟨l, reaches, there⟩
  · obtain ⟨mid, n, m, sum, before, _⟩ := leadsCut none reaches
    have directory := insideDirectory wf (originDirectory wf a) before
    have through := leadsInit before
    exact ⟨mid, leadsMore through (by omega), directory⟩

/- Names below a location -/

def IsClear (d : Disk) (l : Location) : Prop :=
  ∀ rel, rel ≠ [] → ∀ target, d.get? (rel ++ l) ≠ some (.link target)

theorem clearBelow {d : Disk} {l : Location} (clear : IsClear d l) (name : Name) :
    IsClear d (name :: l) := by
  intro rel some target
  have := clear (rel ++ [name]) (by simp) target
  rwa [List.append_assoc] at this

theorem leadsNames {d : Disk} {links : Nat} {base l : Location} (clear : IsClear d base)
    {names : List Name} (leads : Leads d links base (names.map .down) l) :
    l = names.reverse ++ base ∧
      ∀ a b, names = a ++ b → a ≠ [] → b ≠ [] → d.get? (a.reverse ++ base) = some .directory := by
  induction names generalizing base with
  | nil =>
    cases leads
    exact ⟨rfl, fun a b same some _ => absurd (List.append_eq_nil_iff.1 same.symm).1 some⟩
  | cons name rest ih =>
    generalize steps : (name :: rest).map Step.down = whole at leads
    cases leads with
    | directory _ found next =>
      simp only [List.map_cons, List.cons.injEq, Step.down.injEq] at steps
      obtain ⟨rfl, rfl⟩ := steps
      obtain ⟨same, inner⟩ := ih (clearBelow clear name) next
      refine ⟨by simp [same], fun a b whole some more => ?_⟩
      cases a with
      | nil => contradiction
      | cons x a =>
        obtain ⟨rfl, tail⟩ := List.cons.inj whole
        by_cases alone : a = []
        · simpa [alone] using found
        · simpa using inner a b tail alone more
    | file _ found =>
      simp only [List.map_cons, List.cons.injEq, Step.down.injEq, List.map_eq_nil_iff] at steps
      obtain ⟨rfl, rfl⟩ := steps
      refine ⟨rfl, fun a b whole some more => ?_⟩
      have lengths := congrArg List.length whole
      have := List.length_pos_iff.2 some
      have := List.length_pos_iff.2 more
      simp at lengths
      omega
    | link _ found _ =>
      simp only [List.map_cons, List.cons.injEq, Step.down.injEq] at steps
      obtain ⟨rfl, _⟩ := steps
      exact absurd found (clear [name] (by simp) _)
    | _ => simp at steps

theorem leadsThere {d : Disk} {l rel : Location} (wf : d.WellFormed) (clear : IsClear d l)
    (there : d.get? (rel ++ l) ≠ none) (allowed : ∀ name ∈ rel, d.limits.allowName name = true) :
    Leads d 0 l (rel.reverse.map .down) (rel ++ l) := by
  induction rel with
  | nil => exact .done 0 l
  | cons name rest ih =>
    have outer := wf.parents name (rest ++ l) there
    have before := ih (by simp [outer]) fun other member => allowed other (List.mem_cons_of_mem _ member)
    have short := allowed name List.mem_cons_self
    have last : Leads d 0 (rest ++ l) [.down name] (name :: (rest ++ l)) := by
      cases found : d.get? (name :: (rest ++ l)) with
      | none => exact absurd found there
      | some e =>
        cases e with
        | directory => exact .directory short found (.done 0 _)
        | file contents => exact .file short found
        | link target => exact absurd found (clear (name :: rest) (by simp) target)
    rw [List.reverse_cons, List.map_append]
    exact leadsJoin (leadsInside before outer) last

theorem reachesNames {d : Disk} {ps : List Part} {root l : Location} {names : List String}
    (clear : IsClear d root) (start : Reaches d ps root) (reaches : Reaches d (ps ++ names.map .normal) l) :
    l = (names.map encode).reverse ++ root ∧ ∀ a b, names.map encode = a ++ b → a ≠ [] → b ≠ [] →
      d.get? (a.reverse ++ root) = some .directory := by
  by_cases none : names = []
  · subst none
    have same := reachesUnique start (by simpa using reaches)
    refine ⟨by simp [same], fun a b whole some _ => ?_⟩
    exact absurd (List.append_eq_nil_iff.1 whole.symm).1 some
  · unfold Reaches at reaches
    rw [originAppend (namesHead names), wayAppend, wayNames] at reaches
    obtain ⟨mid, n, m, sum, before, after⟩ := leadsCut (by simpa using none) reaches
    have through := leadsInit before
    have same := leadsUnique through start
    subst same
    exact leadsNames clear after

end ClassScaffold.Disk
