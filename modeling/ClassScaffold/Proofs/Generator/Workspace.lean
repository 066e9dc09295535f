import ClassScaffold.Generator
import ClassScaffold.Proofs.Scaffold.Confined
/-! Where a workspace is, and what can come of making one. Whatever fails after its directory has been made
takes the directory away again. -/
namespace ClassScaffold
open Session (Ends Program)

namespace Generator

def workspace (g : Generator) (s : Session) : Workspace :=
  ⟨g.sharedRoot.join (Workspace.directoryName (s.ids s.idsTaken))⟩

/- Where a workspace is -/

theorem uuidDigit (id : Uuid) (place : Nat) : id.digit place < 16 := by
  unfold Uuid.digit
  dsimp only
  split
  · omega
  · split <;> omega

theorem uuidCut {lengths : List Nat} {digits part : List Char} (member : part ∈ Uuid.cut lengths digits) :
    ∀ c ∈ part, c ∈ digits := by
  induction lengths generalizing digits with
  | nil => simp [Uuid.cut] at member
  | cons n rest ih =>
    intro c inside
    rcases List.mem_cons.1 member with rfl | later
    · exact List.mem_of_mem_take inside
    · exact List.mem_of_mem_drop (ih later c inside)

theorem uuidNoSlash (id : Uuid) : '/' ∉ id.text.toList := by
  have digitApart : ∀ n : Fin 16, Nat.digitChar n ≠ '/' := by decide
  have digits : '/' ∉ id.digits := by
    intro member
    obtain ⟨n, among, same⟩ := List.mem_map.1 member
    obtain ⟨place, _, rfl⟩ := List.mem_map.1 among
    exact digitApart ⟨id.digit place, uuidDigit id place⟩ same
  have joined (parts : List (List Char)) (absent : ∀ part ∈ parts, '/' ∉ part) :
      '/' ∉ ['-'].intercalate parts := by
    induction parts with
    | nil => simp
    | cons part rest ih =>
      have tail := ih fun other h => absent other (List.mem_cons_of_mem _ h)
      cases rest with
      | nil => simpa using absent part List.mem_cons_self
      | cons next others =>
        rw [List.intercalate_cons_cons]
        simp [absent part List.mem_cons_self, tail]
  rw [Uuid.text, String.toList_ofList]
  exact joined _ fun part member inside => digits (uuidCut member _ inside)

theorem directoryNameParts (id : Uuid) :
    (⟨Workspace.directoryName id⟩ : Path).parts = [.normal (Workspace.directoryName id)] := by
  have plain : Path.Plain (Workspace.directoryName id).toList := by
    have stem : '/' ∉ Workspace.stem.toList := by decide
    have letter : 'u' ∈ Workspace.stem.toList := by decide
    refine plainOf ?_ (c := 'u') ?_ (by decide)
    · simp [Workspace.directoryName, stem, uuidNoSlash id]
    · simp [Workspace.directoryName, letter]
  have parts := partsPlain plain
  rwa [String.ofList_toList] at parts

theorem workspaceWithin (g : Generator) (s : Session) :
    g.sharedRoot.Within [Workspace.directoryName (s.ids s.idsTaken)] (g.workspace s).root :=
  withinJoin (withinSelf _) (by simp) (directoryNameParts _)

theorem projectWithin (w : Workspace) : w.root.Within ["project"] w.project :=
  withinJoin (withinSelf _) (by simp) (by decide)

theorem archiveWithin (w : Workspace) : w.root.Within ["project.zip"] w.archive :=
  withinJoin (withinSelf _) (by simp) (by decide)

/- Making it -/

def numbered (s : Session) : Session := { s with idsTaken := s.idsTaken + 1 }

def removed (w : Workspace) (s : Session) : Session :=
  s.record (.removeTree w.root) none (s.disk.remove w.root)

variable {s s' : Session} {p : Path} {w : Workspace}

inductive Created (p : Path) (w : Workspace) (s : Session) : Except FilingFault Workspace → Session → Prop where
  | noSharedRoot {e t} (stopped : (Host.makeDirectories p : StateM Session _).run s = (.error e, t)) :
      Created p w s (.error (.createWorkspace p e)) t
  | noRoot {e t u} (shared : (Host.makeDirectories p : StateM Session _).run s = (.ok (), t))
      (stopped : (Host.makeDirectory w.root : StateM Session _).run (numbered t) = (.error e, u)) :
      Created p w s (.error (.createWorkspace p e)) u
  | noProject {e t u v} (shared : (Host.makeDirectories p : StateM Session _).run s = (.ok (), t))
      (made : (Host.makeDirectory w.root : StateM Session _).run (numbered t) = (.ok (), u))
      (stopped : (Host.makeDirectory w.project : StateM Session _).run u = (.error e, v)) :
      Created p w s (.error (.createWorkspace p e)) (removed w v)
  | done {t u v} (shared : (Host.makeDirectories p : StateM Session _).run s = (.ok (), t))
      (made : (Host.makeDirectory w.root : StateM Session _).run (numbered t) = (.ok (), u))
      (project : (Host.makeDirectory w.project : StateM Session _).run u = (.ok (), v)) :
      Created p w s (.ok w) v

theorem makeDirectoriesIds {r : Except Disk.Fault Unit}
    (ends : (Host.makeDirectories p : StateM Session _).run s = (r, s')) :
    s'.ids = s.ids ∧ s'.idsTaken = s.idsTaken := by
  rcases Session.performCases ends with ⟨_, _, rfl⟩ | ⟨_, _, _, rfl⟩
  · exact ⟨rfl, rfl⟩
  · exact ⟨rfl, rfl⟩

theorem createCases {g : Generator} {r : Except FilingFault Workspace}
    (ends : Ends (Workspace.create g.sharedRoot : Program FilingFault _) s r s') :
    Created g.sharedRoot (g.workspace s) s r s' := by
  unfold Workspace.create at ends
  rcases Session.endsBind ends with ⟨e, failed, rfl⟩ | ⟨_, t, shared, ends⟩
  · obtain ⟨f, rfl, stopped⟩ := Session.attemptError failed
    exact .noSharedRoot stopped
  have shared := Session.attemptOk shared
  rcases Session.endsBind ends with ⟨e, failed, _⟩ | ⟨id, t', numbering, ends⟩
  · obtain ⟨_, _, impossible⟩ := Session.endsLift failed
    cases impossible
  obtain ⟨_, taken, same⟩ := Session.endsLift numbering
  cases same
  cases taken
  obtain ⟨ids, idsTaken⟩ := makeDirectoriesIds shared
  have same : (⟨g.sharedRoot.join (Workspace.directoryName (t.ids t.idsTaken))⟩ : Workspace) = g.workspace s := by
    rw [ids, idsTaken]
    rfl
  rw [same] at ends
  rcases Session.endsBind ends with ⟨e, failed, rfl⟩ | ⟨_, u, made, ends⟩
  · obtain ⟨f, rfl, stopped⟩ := Session.attemptError failed
    exact .noRoot shared stopped
  have made := Session.attemptOk made
  rcases Session.endsBind ends with ⟨e, failed, _⟩ | ⟨result, v, project, ends⟩
  · obtain ⟨_, _, impossible⟩ := Session.endsLift failed
    cases impossible
  obtain ⟨result, project, same⟩ := Session.endsLift project
  cases same
  cases result with
  | ok =>
    cases ends
    exact .done shared made project
  | error e =>
    cases ends
    exact .noProject shared made project

/- Working in it -/

inductive Generated (g : Generator) (w : Workspace) (r : Request) (s : Session) :
    Except Failure Stream → Session → Prop where
  | noWorkspace {e t} (stopped : Created g.sharedRoot w s (.error e) t) :
      Generated g w r s (.error ⟨.createWorkspace, .filing e⟩) t
  | stopped {f t u} (created : Created g.sharedRoot w s (.ok w) t)
      (failed : Ends (g.build w r : Program Failure _) t (.error f) u) :
      Generated g w r s (.error f) (removed w u)
  | done {contents t u} (created : Created g.sharedRoot w s (.ok w) t)
      (built : Ends (g.build w r : Program Failure _) t (.ok contents) u) :
      Generated g w r s (.ok (Stream.openOn (fileName r) contents w)) u

theorem generateCases {g : Generator} {r : Request} {result : Except Failure Stream}
    (ends : Ends (g.generate r : Program Failure _) s result s') :
    Generated g (g.workspace s) r s result s' := by
  unfold generate at ends
  rcases Session.endsBind ends with ⟨f, failed, rfl⟩ | ⟨w, t, made, ends⟩
  · obtain ⟨made, before, same⟩ := Session.endsAdapt failed
    cases made with
    | ok => cases same
    | error e =>
      cases same
      exact .noWorkspace (createCases before)
  obtain ⟨answer, created, same⟩ := Session.endsAdapt made
  cases answer with
  | error => cases same
  | ok =>
  cases same
  have created := createCases created
  obtain rfl : w = g.workspace s := by
    cases created
    rfl
  unfold generateIn Ends at ends
  rw [ExceptT.run_mk, StateT.run_bind] at ends
  rcases built : (g.build (g.workspace s) r : Program Failure _).run.run t with ⟨result, u⟩
  rw [built] at ends
  cases result with
  | ok contents =>
    cases ends
    exact .done created built
  | error f =>
    cases ends
    exact .stopped created built

theorem generatedOk {g : Generator} {r : Request} {stream : Stream}
    (generated : Generated g w r s (.ok stream) s') :
    ∃ contents t, Created g.sharedRoot w s (.ok w) t ∧
      Ends (g.build w r : Program Failure _) t (.ok contents) s' ∧
      stream = Stream.openOn (fileName r) contents w := by
  generalize ok : (.ok stream : Except Failure Stream) = result at generated
  cases generated with
  | noWorkspace stopped => cases ok
  | stopped created failed => cases ok
  | done created built => exact ⟨_, _, created, built, Except.ok.inj ok⟩

end Generator
end ClassScaffold
