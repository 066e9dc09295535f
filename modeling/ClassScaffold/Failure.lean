import ClassScaffold.Disk.Fault
import ClassScaffold.Path
/-!
What can go wrong on the way from a request to its archive. A failure names the phase in which it
happened and its cause; where the operating system is behind the cause, its answer is kept.
-/
namespace ClassScaffold

inductive Phase
  | createWorkspace
  | scaffold
  | package
  | stream
  deriving DecidableEq, Repr

def Phase.name : Phase → String
  | createWorkspace => "create-workspace"
  | scaffold => "scaffold"
  | package => "package"
  | stream => "stream"

inductive FilingFault
  | createWorkspace (path : Path) (fault : Disk.Fault)
  | createDirectory (path : Path) (fault : Disk.Fault)
  | write (path : Path) (fault : Disk.Fault)
  | invalidSegment (segment : Path.InvalidSegment)
  deriving DecidableEq, Repr

namespace FilingFault

def message : FilingFault → String
  | createWorkspace path fault =>
    "failed to create workspace under " ++ path.text ++ ": " ++ fault.message
  | createDirectory path fault =>
    "failed to create directory " ++ path.text ++ ": " ++ fault.message
  | write path fault => "failed to write " ++ path.text ++ ": " ++ fault.message
  | invalidSegment segment => segment.message

def sources : FilingFault → List String
  | createWorkspace _ fault | createDirectory _ fault | write _ fault => [fault.message]
  | invalidSegment _ => []

end FilingFault

inductive ArchiveFault
  | file (path : Path) (fault : Disk.Fault)
  | walk (path : Path) (fault : Disk.Fault)
  | duplicate (name : String)
  | interrupted (reason : String)
  deriving DecidableEq, Repr

namespace ArchiveFault

def walkMessage (path : Path) (fault : Disk.Fault) : String :=
  "IO error for operation on " ++ path.text ++ ": " ++ fault.message

def duplicateMessage (name : String) : String :=
  "invalid Zip archive: Duplicate filename: " ++ name

def message : ArchiveFault → String
  | file path fault => "archive I/O error on " ++ path.text ++ ": " ++ fault.message
  | walk path fault => "failed to walk workspace: " ++ walkMessage path fault
  | duplicate name => "zip error: " ++ duplicateMessage name
  | interrupted reason => "archive task did not complete: " ++ reason

def sources : ArchiveFault → List String
  | file _ fault => [fault.message]
  | walk path fault => [walkMessage path fault, fault.message]
  | duplicate name => [duplicateMessage name]
  | interrupted _ => []

end ArchiveFault

inductive Cause
  | filing (fault : FilingFault)
  | archive (fault : ArchiveFault)
  deriving DecidableEq, Repr

namespace Cause

def message : Cause → String
  | filing fault => fault.message
  | archive fault => fault.message

def chain : Cause → List String
  | filing fault => fault.message :: fault.sources
  | archive fault => fault.message :: fault.sources

end Cause

structure Failure where
  phase : Phase
  cause : Cause
  deriving DecidableEq, Repr

def Failure.message (f : Failure) : String :=
  "generation failed during " ++ f.phase.name ++ ": " ++ f.cause.message

end ClassScaffold
