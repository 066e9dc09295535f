import ClassScaffold.Archive.Zip
import ClassScaffold.Failure
import ClassScaffold.Host
/-!
Packing a tree into an archive. The archive is made before the tree is walked, and names in it are
relative to the root of the tree.
-/
namespace ClassScaffold.Archive
open Host (attempt)
open Text.Utf8 (Bytes)

variable {m : Type → Type} [Monad m] [Host m]

def tooLong : Disk.Fault := .other "Large file option has not been set"

def nameLimit : Nat := 65535

def nameTooLong : ArchiveFault := .interrupted "the name of an entry is too long"

/-- A directory that cannot be listed ends the walk once its own entry has been made. -/
def contentsOf (source : Path) (n : Node) : ExceptT ArchiveFault m Bytes := do
  let path := source.join n.path
  match n.kind with
  | .directory =>
    attempt (.walk path) (Host.enterBelow source n.location)
    pure []
  | .file =>
    let contents ← attempt (.file path) (Host.readBelow source n.location)
    if lengthLimit < contents.length then throw (.file path tooLong)
    pure contents

def collect (source : Path) (taken : List String) : List Node → ExceptT ArchiveFault m (List Entry)
  | [] => pure []
  | n :: rest => do
    if n.entryName ∈ taken then throw (.duplicate n.entryName)
    if nameLimit < (Text.Utf8.encode n.entryName).length then throw nameTooLong
    let contents ← contentsOf source n
    let others ← collect source (n.entryName :: taken) rest
    pure (⟨n.entryName, n.kind, contents⟩ :: others)

def pack (source archive : Path) : ExceptT ArchiveFault m Nat := do
  attempt (.file archive) (Host.writeFile archive [])
  let nodes ← attempt (.walk source) (Host.nodesBelow source)
  let entries ← collect source [] nodes
  attempt (.file archive) (Host.writeFile archive (Zip.encode entries))
  pure entries.length

end ClassScaffold.Archive
