import ClassScaffold.Generator
import ClassScaffold.Proofs.Session.Foreseen
import ClassScaffold.Request.Load
/-! Neither loading a request nor generating its archive depends on what will happen later. -/
namespace ClassScaffold
open Session

theorem Request.foreseenLoad (p : Path) : Foreseen (Request.load p : Program Request.LoadFault _).run := by
  unfold Request.load
  refine foreseenThen (foreseenAttempt (foreseenReadFile p)) fun bytes => ?_
  split
  · exact foreseenPure _
  · exact foreseenReturn _

theorem Workspace.foreseenCreate (p : Path) : Foreseen (Workspace.create p : Program FilingFault _).run := by
  unfold Workspace.create
  refine foreseenThen (foreseenAttempt (foreseenMakeDirectories p)) fun _ => ?_
  refine foreseenThen (foreseenLift foreseenNewId) fun id => ?_
  refine foreseenThen (foreseenAttempt (foreseenMakeDirectory _)) fun _ => ?_
  refine foreseenThen (foreseenLift (foreseenMakeDirectory _)) fun made => ?_
  cases made with
  | ok => exact foreseenPure _
  | error e => exact foreseenThen (foreseenLift (foreseenRemoveTree _)) fun _ => foreseenReturn _

theorem Scaffold.foreseenFill (root : Path) (r : Request) (database : Database) :
    Foreseen (Scaffold.fill root r database : Program FilingFault _).run := by
  unfold Scaffold.fill
  split
  · exact foreseenReturn _
  refine foreseenThen ?_ fun _ => foreseenPure _
  have directories (p : Path) : Foreseen (Scaffold.makeDirectories p : Program FilingFault Unit).run :=
    foreseenAttempt (foreseenMakeDirectories p)
  refine foreseenThen (foreseenForM directories _) fun _ => foreseenForM (fun f => ?_) _
  unfold Scaffold.write
  split
  · exact foreseenThen (directories _) fun _ => foreseenAttempt (foreseenWriteFile ..)
  · exact foreseenAttempt (foreseenWriteFile ..)

namespace Archive

theorem foreseenContents (source : Path) (n : Node) : Foreseen (contentsOf source n : Program ArchiveFault _).run := by
  unfold contentsOf
  split
  · exact foreseenThen (foreseenAttempt (foreseenEnterBelow ..)) fun _ => foreseenPure _
  · exact foreseenThen (foreseenAttempt (foreseenReadBelow ..)) fun _ => foreseenUnless fun _ => foreseenPure _

theorem foreseenCollect (source : Path) (taken : List String) (nodes : List Node) :
    Foreseen (collect source taken nodes : Program ArchiveFault _).run := by
  induction nodes generalizing taken with
  | nil => exact foreseenPure _
  | cons n rest ih =>
    unfold collect
    refine foreseenUnless fun _ => foreseenUnless fun _ => ?_
    exact foreseenThen (foreseenContents source n) fun _ => foreseenThen (ih _) fun _ => foreseenPure _

theorem foreseenPack (source archive : Path) : Foreseen (pack source archive : Program ArchiveFault _).run := by
  unfold pack
  refine foreseenThen (foreseenAttempt (foreseenWriteFile ..)) fun _ => ?_
  refine foreseenThen (foreseenAttempt (foreseenNodesBelow _)) fun nodes => ?_
  refine foreseenThen (foreseenCollect ..) fun entries => ?_
  exact foreseenThen (foreseenAttempt (foreseenWriteFile ..)) fun _ => foreseenPure _

end Archive

namespace Generator

theorem foreseenBuild (g : Generator) (w : Workspace) (r : Request) :
    Foreseen (g.build w r : Program Failure _).run := by
  unfold build
  refine foreseenThen (foreseenAdapt (Scaffold.foreseenFill ..)) fun _ => ?_
  exact foreseenThen (foreseenAdapt (Archive.foreseenPack ..)) fun _ => foreseenAttempt (foreseenReadFile _)

theorem foreseenGenerate (g : Generator) (r : Request) : Foreseen (g.generate r : Program Failure _).run := by
  unfold generate
  refine foreseenThen (foreseenAdapt (Workspace.foreseenCreate _)) fun w => ?_
  unfold generateIn
  refine foreseenBind (foreseenBuild g w r) fun built => ?_
  split
  · exact foreseenPure _
  · exact foreseenBind (foreseenRemoveTree _) fun _ => foreseenPure _

end Generator
end ClassScaffold
