import ClassScaffold.Archive.Entry
import ClassScaffold.Path
import ClassScaffold.Uuid
/-!
What the generator asks of the machine that it runs on. Every operation answers with its result or
with what the operating system says. The nodes of a tree are told all at once; whether a directory among
them can be listed is told when it is entered.
-/
namespace ClassScaffold
open Text.Utf8 (Bytes)

class Host (m : Type → Type) where
  makeDirectory : Path → m (Except Disk.Fault Unit)
  makeDirectories : Path → m (Except Disk.Fault Unit)
  writeFile : Path → Bytes → m (Except Disk.Fault Unit)
  appendFile : Path → Bytes → m (Except Disk.Fault Unit)
  readFile : Path → m (Except Disk.Fault Bytes)
  nodesBelow : Path → m (Except Disk.Fault (List Archive.Node))
  readBelow : Path → Disk.Location → m (Except Disk.Fault Bytes)
  enterBelow : Path → Disk.Location → m (Except Disk.Fault Unit)
  removeTree : Path → m Unit
  grant : Nat → m (Except Disk.Fault Nat)
  newId : m Uuid

namespace Host

variable {m : Type → Type} [Monad m] {ε α : Type}

def attempt (fault : Disk.Fault → ε) (answer : m (Except Disk.Fault α)) : ExceptT ε m α :=
  ExceptT.mk do return (← answer).mapError fault

end Host
end ClassScaffold
