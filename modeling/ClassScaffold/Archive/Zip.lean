import ClassScaffold.Archive.Checksum
import ClassScaffold.Archive.Entry
/-!
Archives as bytes. Every entry is a local record, which has its name and its contents; a directory of
all entries follows, and a last record tells where that directory begins. Contents of files are a
sequence of blocks that are stored as they are; where all blocks together would be too long for the record,
the contents stand there by themselves. Reading goes through the local records.
-/
namespace ClassScaffold.Archive.Zip
open Text.Utf8 (Bytes)

def number : Nat → Nat → Bytes
  | 0, _ => []
  | width + 1, n => UInt8.ofNat (n % 256) :: number width (n / 256)

def value : Bytes → Nat
  | [] => 0
  | b :: rest => b.toNat + 256 * value rest

/- Contents as blocks -/

def blockLimit : Nat := 65535

def block (last : Bool) (contents : Bytes) : Bytes :=
  (if last then 1 else 0) :: number 2 contents.length ++ number 2 (blockLimit - contents.length)
    ++ contents

/-- At least one block, the last one marked; `count` bounds how many are needed. -/
def blocks : Nat → Bytes → Bytes
  | 0, contents => block true contents
  | count + 1, contents =>
    if contents.length ≤ blockLimit then block true contents
    else block false (contents.take blockLimit) ++ blocks count (contents.drop blockLimit)

def deflated (contents : Bytes) : Bytes := blocks (contents.length / blockLimit) contents

def split? (n : Nat) (bytes : Bytes) : Option (Bytes × Bytes) :=
  let front := bytes.take n
  if front.length = n then some (front, bytes.drop n) else none

def unblocked : Nat → Bytes → Option Bytes
  | 0, _ => none
  | count + 1, bytes =>
    match bytes with
    | mark :: a :: b :: _ :: _ :: rest =>
      (split? (value [a, b]) rest).bind fun (contents, after) =>
        if mark = 1 then some contents else (unblocked count after).map (contents ++ ·)
    | _ => none

def inflated (bytes : Bytes) : Option Bytes := unblocked bytes.length bytes

/- Records -/

def plainMethod : Nat := 0

def deflateMethod : Nat := 8

def method (e : Entry) : Nat :=
  match e.kind with
  | .directory => plainMethod
  | .file => if (deflated e.contents).length ≤ lengthLimit then deflateMethod else plainMethod

def stored (e : Entry) : Bytes := if method e = plainMethod then e.contents else deflated e.contents

def version : Nat := 20

def flags (name : String) : Nat := if name.toList.all fun c => c.toNat < 128 then 0 else 0x800

def time : Bytes := number 2 0 ++ number 2 0x21

def description (e : Entry) : Bytes :=
  number 2 version ++ number 2 (flags e.name) ++ number 2 (method e) ++ time
    ++ number 4 (checksum e.contents).toNat ++ number 4 (stored e).length
    ++ number 4 e.contents.length ++ number 2 (Text.Utf8.encode e.name).length ++ number 2 0

def localMark : Bytes := [0x50, 0x4B, 3, 4]

def directoryMark : Bytes := [0x50, 0x4B, 1, 2]

def endMark : Bytes := [0x50, 0x4B, 5, 6]

def localRecord (e : Entry) : Bytes :=
  localMark ++ description e ++ Text.Utf8.encode e.name ++ stored e

def system : Nat := 3

def directoryRecord (e : Entry) (place : Nat) : Bytes :=
  directoryMark ++ number 2 (version + 256 * system) ++ description e ++ number 2 0 ++ number 2 0
    ++ number 2 0 ++ number 4 (e.mode * 65536) ++ number 4 place ++ Text.Utf8.encode e.name

def localRecords (es : List Entry) : Bytes := es.flatMap localRecord

def directory : Nat → List Entry → Bytes
  | _, [] => []
  | place, e :: rest => directoryRecord e place ++ directory (place + (localRecord e).length) rest

/-- The greatest count that the last record can hold; it also stands for all counts above it. -/
def countLimit : Nat := 0xFFFF

def wideMark : Bytes := [0x50, 0x4B, 6, 6]

def wideVersion : Nat := 45

def wideEndRecord (count size place : Nat) : Bytes :=
  wideMark ++ number 8 44 ++ number 2 wideVersion ++ number 2 wideVersion ++ number 4 0
    ++ number 4 0 ++ number 8 count ++ number 8 count ++ number 8 size ++ number 8 place
    ++ [0x50, 0x4B, 6, 7] ++ number 4 0 ++ number 8 (place + size) ++ number 4 1

def endRecord (count size place : Nat) : Bytes :=
  let narrow := min count countLimit
  (if count < countLimit then [] else wideEndRecord count size place)
    ++ endMark ++ number 2 0 ++ number 2 0 ++ number 2 narrow ++ number 2 narrow ++ number 4 size
    ++ number 4 place ++ number 2 0

def encode (es : List Entry) : Bytes :=
  let records := localRecords es
  let directory := directory 0 es
  records ++ directory ++ endRecord es.length directory.length records.length

/- Reading -/

structure Header where
  method : Nat
  storedLength : Nat
  nameLength : Nat
  deriving DecidableEq, Repr

def headerLength : Nat := 26

def field (bytes : Bytes) (place width : Nat) : Nat := value ((bytes.drop place).take width)

def header (bytes : Bytes) : Header := ⟨field bytes 4 2, field bytes 14 4, field bytes 22 2⟩

def contents? (method : Nat) (stored : Bytes) : Option Bytes :=
  if method = plainMethod then some stored else inflated stored

def entry? (bytes : Bytes) : Option (Entry × Bytes) := do
  let (mark, rest) ← split? localMark.length bytes
  let (fields, rest) ← split? headerLength rest
  let h := header fields
  let (nameBytes, rest) ← split? h.nameLength rest
  let (storedBytes, rest) ← split? h.storedLength rest
  let name ← Text.Utf8.decode? nameBytes
  let contents ← contents? h.method storedBytes
  if mark != localMark then none else some (⟨name, kindOf name, contents⟩, rest)

def entriesFrom : Nat → Bytes → List Entry
  | 0, _ => []
  | count + 1, bytes =>
    match entry? bytes with
    | none => []
    | some (e, rest) => e :: entriesFrom count rest

def entries (bytes : Bytes) : List Entry := entriesFrom bytes.length bytes

end ClassScaffold.Archive.Zip
