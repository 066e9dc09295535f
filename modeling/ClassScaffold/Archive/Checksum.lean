import ClassScaffold.Text.Utf8
/-!
The cyclic redundancy check of 32 bits that archives carry for every file.
-/
namespace ClassScaffold.Archive
open Text.Utf8 (Bytes)

def polynomial : UInt32 := 0xEDB88320

def checksumBit (sum : UInt32) : UInt32 :=
  if sum &&& 1 = 1 then (sum >>> 1) ^^^ polynomial else sum >>> 1

def checksumByte (sum : UInt32) (b : UInt8) : UInt32 :=
  Nat.repeat checksumBit 8 (sum ^^^ b.toUInt32)

def checksum (bytes : Bytes) : UInt32 := bytes.foldl checksumByte 0xFFFFFFFF ^^^ 0xFFFFFFFF

end ClassScaffold.Archive
