import ClassScaffold.Archive.Entry
import ClassScaffold.Disk.Operation
/-!
Unpacking entries into a directory, in their order. A directory is made, and a file is written once the
directory around it has been made.
-/
namespace ClassScaffold.Archive

def made (d : Disk) (p : Path) : Except Disk.Fault Disk :=
  let (result, d) := d.makeDirectories p
  result.map fun _ => d

def unpackEntry (root : Path) (d : Disk) (e : Entry) : Except Disk.Fault Disk := do
  let p := root.join e.name
  match e.kind, p.parent? with
  | .directory, _ => made d p
  | .file, some parent => (← made d parent).write p e.contents
  | .file, none => d.write p e.contents

def unpack (root : Path) (d : Disk) (es : List Entry) : Except Disk.Fault Disk := es.foldlM (unpackEntry root) d

end ClassScaffold.Archive
