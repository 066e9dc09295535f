import ClassScaffold.Disk.Basic
/-!
The entries of an archive, and how the nodes of a tree become entries. The names of an archive are
texts: where a name on the disk is no text, its ill-formed units are replaced, so two nodes may want
the same name, and the second of them is refused.
-/
namespace ClassScaffold.Archive
open Text.Utf8 (Bytes)

inductive Kind
  | directory
  | file
  deriving DecidableEq, Repr

structure Entry where
  name : String
  kind : Kind
  contents : Bytes
  deriving DecidableEq, Repr

def Entry.mode (e : Entry) : Nat :=
  match e.kind with
  | .directory => 0o40755
  | .file => 0o100644

/-- The names of directories end in a separator, and no others. -/
def kindOf (name : String) : Kind := if name.toList.getLast? = some '/' then .directory else .file

/-- The greatest length that a record has room for. -/
def lengthLimit : Nat := 4294967295

structure Node where
  location : Disk.Location
  kind : Kind
  deriving DecidableEq, Repr

namespace Node

def path (n : Node) : String :=
  "/".intercalate (n.location.reverse.map Text.Utf8.decodeLossy)

def entryName (n : Node) : String :=
  match n.kind with
  | .directory => n.path ++ "/"
  | .file => n.path

end Node

def isBefore (a b : Disk.Location) : Bool :=
  List.lex a.reverse b.reverse fun (x y : Disk.Name) =>
    List.lex x y fun (c d : UInt8) => decide (c < d)

def inOrder (nodes : List Node) : List Node :=
  nodes.mergeSort fun a b => !isBefore b.location a.location

def nodesBelow (d : Disk) (l : Disk.Location) : List Node :=
  inOrder ((d.below l).map fun (l, e) => ⟨l, if e = .directory then .directory else .file⟩)

end ClassScaffold.Archive
