import ClassScaffold.Proofs.Disk.Lookup
/-! Walking to something that is there, as a relation. A walk that leads somewhere leads nowhere else, can be
cut between two steps and put together again, and does not depend on the steps that only ask for a
directory. It still leads to the same place on a disk that has grown. -/
namespace ClassScaffold.Disk

inductive Leads (d : Disk) : Nat → Location → List Step → Location → Prop where
  | done (links base) : Leads d links base [] base
  | here {links base rest l} (next : Leads d links base rest l) : Leads d links base (.here :: rest) l
  | inside {links base rest l} (next : Leads d links base rest l) :
      Leads d links base (.inside :: rest) l
  | up {links base rest l} (next : Leads d links base.tail rest l) : Leads d links base (.up :: rest) l
  | directory {links base name rest l} (short : d.limits.allowName name = true)
      (found : d.get? (name :: base) = some .directory) (next : Leads d links (name :: base) rest l) :
      Leads d links base (.down name :: rest) l
  | file {links base name contents} (short : d.limits.allowName name = true)
      (found : d.get? (name :: base) = some (.file contents)) :
      Leads d links base [.down name] (name :: base)
  | link {links base name target rest l} (short : d.limits.allowName name = true)
      (found : d.get? (name :: base) = some (.link target))
      (next : Leads d links ((Route.ofText target).start base) ((Route.ofText target).all ++ rest) l) :
      Leads d (links + 1) base (.down name :: rest) l

/- The relation and the function -/

theorem walkWithLeads {d : Disk} {links : Nat} {follow : Location → List Step → Except Fault Location}
    (followed : ∀ {base name target rest l}, d.limits.allowName name = true →
      d.get? (name :: base) = some (.link target) →
      follow ((Route.ofText target).start base) ((Route.ofText target).all ++ rest) = .ok l →
      Leads d links base (.down name :: rest) l)
    {base : Location} {steps : List Step} {l : Location}
    (ok : walkWith d .reach follow base steps = .ok l) : Leads d links base steps l := by
  induction steps generalizing base with
  | nil =>
    cases ok
    exact .done links _
  | cons step rest ih =>
    cases step with
    | here => exact .here (ih ok)
    | inside => exact .inside (ih ok)
    | up => exact .up (ih ok)
    | down name =>
      simp only [walkWith, reduceCtorEq, false_and, if_false] at ok
      split at ok
      · contradiction
      · next short =>
        have short : d.limits.allowName name = true := by simpa using short
        split at ok
        · contradiction
        · next found => exact .directory short found (ih ok)
        · next contents found =>
          split at ok
          · next last =>
            cases ok
            rw [last]
            exact .file short found
          · contradiction
        · next target found => exact followed short found ok

theorem walkLeads {d : Disk} {links : Nat} {base : Location} {steps : List Step} {l : Location}
    (ok : d.walkThrough .reach links base steps = .ok l) : Leads d links base steps l := by
  induction links generalizing base steps l with
  | zero =>
    unfold walkThrough at ok
    exact walkWithLeads (fun _ _ impossible => by contradiction) ok
  | succ links ih =>
    unfold walkThrough at ok
    exact walkWithLeads (fun short found next => .link short found (ih next)) ok

theorem leadsWalk {d : Disk} {links : Nat} {base : Location} {steps : List Step} {l : Location}
    (leads : Leads d links base steps l) : d.walkThrough .reach links base steps = .ok l := by
  induction leads with
  | done links base => cases links <;> rfl
  | @here links _ _ _ next ih => cases links <;> exact ih
  | @inside links _ _ _ next ih => cases links <;> exact ih
  | @up links _ _ _ next ih => cases links <;> exact ih
  | @directory links _ _ _ _ short found next ih =>
    cases links <;> simpa [walkThrough, walkWith, short, found] using ih
  | @file links _ _ _ short found => cases links <;> simp [walkThrough, walkWith, short, found]
  | @link links _ _ _ _ _ short found next ih =>
    unfold walkThrough
    simpa [walkWith, short, found] using ih

theorem leadsMore {d : Disk} {links more : Nat} {base : Location} {steps : List Step} {l : Location}
    (leads : Leads d links base steps l) (enough : links ≤ more) : Leads d more base steps l := by
  induction leads generalizing more with
  | done _ base => exact .done more base
  | here _ ih => exact .here (ih enough)
  | inside _ ih => exact .inside (ih enough)
  | up _ ih => exact .up (ih enough)
  | directory short found _ ih => exact .directory short found (ih enough)
  | file short found => exact .file short found
  | link short found _ ih =>
    obtain ⟨less, rfl⟩ : ∃ less, more = less + 1 := ⟨more - 1, by omega⟩
    exact .link short found (ih (by omega))

theorem leadsUnique {d : Disk} {links links' : Nat} {base : Location} {steps : List Step} {l l' : Location}
    (a : Leads d links base steps l) (b : Leads d links' base steps l') : l = l' := by
  have first := leadsWalk (leadsMore a (Nat.le_max_left links links'))
  have second := leadsWalk (leadsMore b (Nat.le_max_right links links'))
  exact Except.ok.inj (first.symm.trans second)

/- Cutting a walk, and putting walks together -/

theorem leadsCut {d : Disk} {links : Nat} {base : Location} {a b : List Step} {l : Location}
    (some : b ≠ []) (leads : Leads d links base (a ++ b) l) :
    ∃ mid n m, n + m = links ∧ Leads d n base (a ++ [.inside]) mid ∧ Leads d m mid b l := by
  generalize whole : a ++ b = steps at leads
  have start {links base steps l} (leads : Leads d links base steps l) (same : b = steps) :
      ∃ mid n m, n + m = links ∧ Leads d n base ([] ++ [.inside]) mid ∧ Leads d m mid b l :=
    ⟨base, 0, links, Nat.zero_add _, .inside (.done _ _), same ▸ leads⟩
  induction leads generalizing a with
  | done _ base => exact absurd (List.append_eq_nil_iff.1 whole).2 some
  | here next ih =>
    cases a with
    | nil => exact start (.here next) whole
    | cons x a =>
      obtain ⟨rfl, rfl⟩ := List.cons.inj whole
      obtain ⟨mid, n, m, sum, before, after⟩ := ih rfl
      exact ⟨mid, n, m, sum, .here before, after⟩
  | inside next ih =>
    cases a with
    | nil => exact start (.inside next) whole
    | cons x a =>
      obtain ⟨rfl, rfl⟩ := List.cons.inj whole
      obtain ⟨mid, n, m, sum, before, after⟩ := ih rfl
      exact ⟨mid, n, m, sum, .inside before, after⟩
  | up next ih =>
    cases a with
    | nil => exact start (.up next) whole
    | cons x a =>
      obtain ⟨rfl, rfl⟩ := List.cons.inj whole
      obtain ⟨mid, n, m, sum, before, after⟩ := ih rfl
      exact ⟨mid, n, m, sum, .up before, after⟩
  | directory short found next ih =>
    cases a with
    | nil => exact start (.directory short found next) whole
    | cons x a =>
      obtain ⟨rfl, rfl⟩ := List.cons.inj whole
      obtain ⟨mid, n, m, sum, before, after⟩ := ih rfl
      exact ⟨mid, n, m, sum, .directory short found before, after⟩
  | file short found =>
    cases a with
    | nil => exact start (.file short found) whole
    | cons x a =>
      have none := (List.append_eq_nil_iff.1 (List.cons.inj whole).2).2
      exact absurd none some
  | link short found next ih =>
    cases a with
    | nil => exact start (.link short found next) whole
    | cons x a =>
      -- the steps of the target come before the cut, which is why `a` varies
      obtain ⟨rfl, rfl⟩ := List.cons.inj whole
      obtain ⟨mid, n, m, sum, before, after⟩ := ih (a := (Route.ofText _).all ++ a) (List.append_assoc ..)
      rw [List.append_assoc] at before
      exact ⟨mid, n + 1, m, by omega, .link short found before, after⟩

theorem leadsJoin {d : Disk} {links more : Nat} {base mid : Location} {a b : List Step} {l : Location}
    (before : Leads d links base (a ++ [.inside]) mid) (after : Leads d more mid b l) :
    Leads d (links + more) base (a ++ b) l := by
  generalize whole : a ++ [.inside] = steps at before
  have start {links base steps mid} (leads : Leads d links base steps mid) (same : [.inside] = steps)
      (after : Leads d more mid b l) : Leads d (links + more) base ([] ++ b) l := by
    subst same
    cases leads with
    | inside next =>
      cases next
      exact leadsMore after (Nat.le_add_left ..)
  induction before generalizing a with
  | done _ base => simp at whole
  | here next ih =>
    cases a with
    | nil => exact start (.here next) whole after
    | cons x a =>
      obtain ⟨rfl, rfl⟩ := List.cons.inj whole
      exact .here (ih after rfl)
  | inside next ih =>
    cases a with
    | nil => exact start (.inside next) whole after
    | cons x a =>
      obtain ⟨rfl, rfl⟩ := List.cons.inj whole
      exact .inside (ih after rfl)
  | up next ih =>
    cases a with
    | nil => exact start (.up next) whole after
    | cons x a =>
      obtain ⟨rfl, rfl⟩ := List.cons.inj whole
      exact .up (ih after rfl)
  | directory short found next ih =>
    cases a with
    | nil => exact start (.directory short found next) whole after
    | cons x a =>
      obtain ⟨rfl, rfl⟩ := List.cons.inj whole
      exact .directory short found (ih after rfl)
  | file short found =>
    cases a with
    | nil => exact start (.file short found) whole after
    | cons x a => simp at whole
  | link short found next ih =>
    cases a with
    | nil => exact start (.link short found next) whole after
    | cons x a =>
      obtain ⟨rfl, rfl⟩ := List.cons.inj whole
      have moved := ih (a := (Route.ofText _).all ++ a) after (List.append_assoc ..)
      rw [List.append_assoc] at moved
      rw [Nat.add_right_comm]
      exact .link short found moved

/- Steps that only ask for a directory -/

def Step.isMove : Step → Bool
  | .here | .inside => false
  | .up | .down _ => true

theorem leadsStill {d : Disk} {links : Nat} {base : Location} {step : Step} {rest : List Step}
    {l : Location} (still : step.isMove = false) :
    Leads d links base (step :: rest) l ↔ Leads d links base rest l := by
  cases step with
  | here =>
    refine ⟨fun leads => ?_, .here⟩
    cases leads with
    | here next => exact next
  | inside =>
    refine ⟨fun leads => ?_, .inside⟩
    cases leads with
    | inside next => exact next
  | up => contradiction
  | down => contradiction

theorem leadsWithout {d : Disk} {links : Nat} {base : Location} {a b : List Step} {step : Step}
    {l : Location} (still : step.isMove = false) (leads : Leads d links base (a ++ step :: b) l) :
    Leads d links base (a ++ b) l := by
  obtain ⟨mid, n, m, sum, before, after⟩ := leadsCut (by simp) leads
  rw [← sum]
  exact leadsJoin before ((leadsStill still).1 after)

theorem leadsInit {d : Disk} {links : Nat} {base : Location} {steps : List Step} {l : Location}
    (leads : Leads d links base (steps ++ [.inside]) l) : Leads d links base steps l := by
  simpa using leadsWithout rfl leads

theorem leadsMoves {d : Disk} {links : Nat} {base : Location} {steps : List Step} {l : Location}
    (leads : Leads d links base steps l) : Leads d links base (steps.filter Step.isMove) l := by
  have later (a b : List Step) (leads : Leads d links base (a ++ b) l) :
      Leads d links base (a ++ b.filter Step.isMove) l := by
    induction b generalizing a with
    | nil => simpa using leads
    | cons step rest ih =>
      cases moves : step.isMove with
      | true =>
        rw [List.filter_cons_of_pos moves, List.append_cons]
        exact ih _ (by rwa [← List.append_cons])
      | false =>
        rw [List.filter_cons_of_neg (by simp [moves])]
        exact ih a (leadsWithout moves leads)
  exact later [] steps leads

theorem leadsInside {d : Disk} {links : Nat} {base : Location} {steps : List Step} {l : Location}
    (leads : Leads d links base steps l) (there : d.get? l = some .directory) :
    Leads d links base (steps ++ [.inside]) l := by
  induction leads with
  | done links base => exact .inside (.done links base)
  | here _ ih => exact .here (ih there)
  | inside _ ih => exact .inside (ih there)
  | up _ ih => exact .up (ih there)
  | directory short found _ ih => exact .directory short found (ih there)
  | file short found =>
    rw [found] at there
    cases there
  | link short found _ ih =>
    have moved := ih there
    rw [List.append_assoc] at moved
    exact .link short found moved

end ClassScaffold.Disk
