import ClassScaffold.Proofs.Generator.Workspace
import Mathlib.Logic.Function.Basic
/-! Any number of requests that share the directory of their workspaces, on one machine. A request makes its
workspace, works in it and gives it up, one operation at a time, and between two operations of a request
there may be any operations of others. -/
namespace ClassScaffold.Workspace
open Generator (numbered removed)
open Session (Ends Program)
open Function (update)

/- One request -/

def below (shared : Path) (id : Uuid) : Workspace := ⟨shared.join (directoryName id)⟩

theorem belowWithin (shared : Path) (id : Uuid) : shared.Within [directoryName id] (below shared id).root :=
  withinJoin (withinSelf shared) (by simp) (Generator.directoryNameParts id)

inductive Stage
  | starting
  | naming
  | claiming (w : Workspace)
  | settling (w : Workspace)
  | failing (w : Workspace) (fault : FilingFault)
  | refused (fault : FilingFault)
  | holding (w : Workspace)
  | leaving (w : Workspace)
  | left
  deriving DecidableEq, Repr

namespace Stage

/-- The workspace whose root the request has made and has not removed. -/
def owned : Stage → Option Workspace
  | settling w | failing w _ | holding w | leaving w => some w
  | _ => none

def result? : Stage → Option (Except FilingFault Workspace)
  | holding w => some (.ok w)
  | refused fault => some (.error fault)
  | _ => none

/-- The next operation of a request that makes its workspace, or removes it. -/
def advance (shared : Path) : Stage → StateM Session Stage
  | starting => do
    match ← (Host.makeDirectories shared : StateM Session _) with
    | .ok () => pure naming
    | .error e => pure (refused (.createWorkspace shared e))
  | naming => do
    let id ← (Host.newId : StateM Session Uuid)
    pure (claiming (below shared id))
  | claiming w => do
    match ← (Host.makeDirectory w.root : StateM Session _) with
    | .ok () => pure (settling w)
    | .error e => pure (refused (.createWorkspace shared e))
  | settling w => do
    match ← (Host.makeDirectory w.project : StateM Session _) with
    | .ok () => pure (holding w)
    | .error e => pure (failing w (.createWorkspace shared e))
  | failing w fault => do
    (w.release : StateM Session Unit)
    pure (refused fault)
  | leaving w => do
    (w.release : StateM Session Unit)
    pure left
  | stage => pure stage

def advances (shared : Path) : Nat → Stage → StateM Session Stage
  | 0, stage => pure stage
  | n + 1, stage => do advances shared n (← stage.advance shared)

end Stage

/-- What one operation of a request comes to. -/
inductive Advanced (shared : Path) (s : Session) : Stage → Stage → Session → Prop
  | shares {t} (ran : (Host.makeDirectories shared : StateM Session _).run s = (.ok (), t)) :
      Advanced shared s .starting .naming t
  | sharesNot {e t} (ran : (Host.makeDirectories shared : StateM Session _).run s = (.error e, t)) :
      Advanced shared s .starting (.refused (.createWorkspace shared e)) t
  | names : Advanced shared s .naming (.claiming (below shared (s.ids s.idsTaken))) (numbered s)
  | claims {w t} (ran : (Host.makeDirectory w.root : StateM Session _).run s = (.ok (), t)) :
      Advanced shared s (.claiming w) (.settling w) t
  | claimsNot {w e t} (ran : (Host.makeDirectory w.root : StateM Session _).run s = (.error e, t)) :
      Advanced shared s (.claiming w) (.refused (.createWorkspace shared e)) t
  | settles {w t} (ran : (Host.makeDirectory w.project : StateM Session _).run s = (.ok (), t)) :
      Advanced shared s (.settling w) (.holding w) t
  | settlesNot {w e t} (ran : (Host.makeDirectory w.project : StateM Session _).run s = (.error e, t)) :
      Advanced shared s (.settling w) (.failing w (.createWorkspace shared e)) t
  | cleans {w fault} : Advanced shared s (.failing w fault) (.refused fault) (removed w s)
  | leaves {w} : Advanced shared s (.leaving w) .left (removed w s)
  | rests {stage} (still : stage.advance shared = pure stage) : Advanced shared s stage stage s

section
variable {shared : Path} {s t u : Session} {stage next : Stage}

theorem advancedRuns (advanced : Advanced shared s stage next t) :
    (stage.advance shared).run s = (next, t) := by
  cases advanced with
  | shares ran | sharesNot ran | claims ran | claimsNot ran | settles ran | settlesNot ran =>
    simp only [Stage.advance, StateT.run_bind, ran]
    rfl
  | names | cleans | leaves => rfl
  | rests still =>
    rw [still]
    rfl

theorem advanceCases (ran : (stage.advance shared).run s = (next, t)) : Advanced shared s stage next t := by
  have same {other : Stage} {v : Session} (advanced : Advanced shared s stage other v) :
      Advanced shared s stage next t := by
    have both := (advancedRuns advanced).symm.trans ran
    cases both
    exact advanced
  cases stage with
  | starting =>
    rcases made : (Host.makeDirectories shared : StateM Session _).run s with ⟨_ | _, v⟩
    · exact same (.sharesNot made)
    · exact same (.shares made)
  | naming => exact same .names
  | claiming w =>
    rcases made : (Host.makeDirectory w.root : StateM Session _).run s with ⟨_ | _, v⟩
    · exact same (.claimsNot made)
    · exact same (.claims made)
  | settling w =>
    rcases made : (Host.makeDirectory w.project : StateM Session _).run s with ⟨_ | _, v⟩
    · exact same (.settlesNot made)
    · exact same (.settles made)
  | failing w fault => exact same .cleans
  | leaving w => exact same .leaves
  | refused | holding | left => exact same (.rests rfl)

theorem advancesNext {n : Nat} {last : Stage} (advanced : Advanced shared s stage next t)
    (later : (Stage.advances shared n next).run t = (last, u)) :
    (Stage.advances shared (n + 1) stage).run s = (last, u) := by
  simp only [Stage.advances, StateT.run_bind, advancedRuns advanced]
  exact later

/-- To make a workspace is to advance until there is a result. -/
theorem createAdvances {r : Except FilingFault Workspace}
    (ends : Ends (create shared : Program FilingFault Workspace) s r t) :
    ∃ n last, (Stage.advances shared n .starting).run s = (last, t) ∧ last.result? = some r := by
  have created := Generator.createCases (g := ⟨shared, .postgresql⟩) ends
  have named {v : Session} (ran : (Host.makeDirectories shared : StateM Session _).run s = (.ok (), v)) :
      Advanced shared v .naming (.claiming (Generator.workspace ⟨shared, .postgresql⟩ s)) (numbered v) := by
    obtain ⟨ids, idsTaken⟩ := Generator.makeDirectoriesIds ran
    unfold Generator.workspace
    rw [← ids, ← idsTaken]
    exact .names
  cases created with
  | noSharedRoot stopped => exact ⟨1, .refused _, advancesNext (.sharesNot stopped) rfl, rfl⟩
  | noRoot ran stopped =>
    refine ⟨3, .refused _, advancesNext (.shares ran) (advancesNext (named ran) ?_), rfl⟩
    exact advancesNext (.claimsNot stopped) rfl
  | noProject ran made stopped =>
    refine ⟨5, .refused _, advancesNext (.shares ran) (advancesNext (named ran) ?_), rfl⟩
    exact advancesNext (.claims made) (advancesNext (.settlesNot stopped) (advancesNext .cleans rfl))
  | done ran made project =>
    refine ⟨4, .holding _, advancesNext (.shares ran) (advancesNext (named ran) ?_), rfl⟩
    exact advancesNext (.claims made) (advancesNext (.settles project) rfl)

end

/- Many requests -/

structure World where
  session : Session
  stages : Nat → Stage

namespace World

def start (s : Session) : World := ⟨s, fun _ => .starting⟩

def disk (x : World) : Disk := x.session.disk

def owned (x : World) (i : Nat) : Option Workspace := (x.stages i).owned

def advanced (x : World) (shared : Path) (i : Nat) : World :=
  let moved := ((x.stages i).advance shared).run x.session
  ⟨moved.2, update x.stages i moved.1⟩

end World

/-- One operation of a request in its workspace. -/
inductive Works (root : Path) (s : Session) : Session → Prop
  | makeDirectories {p names r t} (within : root.Within names p)
      (ran : (Host.makeDirectories p : StateM Session _).run s = (r, t)) : Works root s t
  | writeFile {p names contents r t} (within : root.Within names p) (some : names ≠ [])
      (ran : (Host.writeFile p contents : StateM Session _).run s = (r, t)) : Works root s t
  | look {α : Type} {o : Operation} {f : Disk → Except Disk.Fault α} {r t}
      (ran : (Session.look o f).run s = (r, t)) : Works root s t

/-- One operation of request `i`. What is given up is removed by the next one, and by no other: a workspace
that is dropped while it is released, or when it has been released, is not removed again. -/
inductive Step (shared : Path) (i : Nat) (x : World) : World → Prop
  | advance {next t} (ran : ((x.stages i).advance shared).run x.session = (next, t)) :
      Step shared i x ⟨t, update x.stages i next⟩
  | work {w t} (holds : x.stages i = .holding w) (works : Works w.root x.session t) :
      Step shared i x ⟨t, x.stages⟩
  | giveUp {w} (holds : x.stages i = .holding w) : Step shared i x ⟨x.session, update x.stages i (.leaving w)⟩
  | cancel {w} (settles : x.stages i = .settling w) :
      Step shared i x ⟨x.session, update x.stages i (.leaving w)⟩

inductive Runs (shared : Path) (who : Nat → Prop) (x : World) : World → Prop
  | refl : Runs shared who x x
  | step {i : Nat} {y z : World} (before : Runs shared who x y) (mover : who i) (next : Step shared i y z) :
      Runs shared who x z

variable {shared : Path}

theorem ownedUpdate {x : World} {i : Nat} {next : Stage} {t : Session} :
    (⟨t, update x.stages i next⟩ : World).owned i = next.owned := by simp [World.owned]

theorem stepStages {i j : Nat} {x y : World} (step : Step shared i x y) (other : j ≠ i) :
    y.stages j = x.stages j := by
  cases step with
  | advance | giveUp | cancel => exact Function.update_of_ne other ..
  | work => rfl

theorem runsAfter {who : Nat → Prop} {x y z : World} (first : Runs shared who x y) (later : Runs shared who y z) :
    Runs shared who x z := by
  induction later with
  | refl => exact first
  | step _ mover next ih => exact .step ih mover next

theorem runsAdvanced (shared : Path) (x : World) (schedule : List Nat) :
    Runs shared (fun _ => True) x (schedule.foldl (fun y i => y.advanced shared i) x) := by
  induction schedule generalizing x with
  | nil => exact .refl
  | cons i rest ih => exact runsAfter (.step .refl trivial (.advance rfl)) (ih _)

end ClassScaffold.Workspace
