import ClassScaffold.Proofs.Stream.Poll
/-! What the reader of an archive sees, whatever the polls and the answers to them are. A stream leaves its
open state with the file at its end or with the one error that can come, and is done when the removal of
the workspace answers that it is over; only then the end or the error is told. -/
namespace ClassScaffold.Stream
open Text.Utf8 (Bytes)

variable {name : String} {contents : Bytes} {w : Workspace} {h : List Event} {s : Stream}

/-- How far the history of a stream has come, with the state that it is in. -/
inductive Progress (name : String) (contents : Bytes) (w : Workspace) (h : List Event) : Stream → Prop
  | reading {left : Bytes} (whole : delivered h ++ left = contents) (clean : faults h = [])
      (silent : reported h = []) (kept : removals h = []) :
      Progress name contents w h (reading name contents.length w left)
  | removing {fault : Option Disk.Fault} (part : delivered h <+: contents)
      (whole : fault = none → delivered h = contents) (source : faults h = fault.toList)
      (silent : reported h = []) (begun : removals h = [w]) (waiting : ¬ Removed w h) :
      Progress name contents w h (removing name contents.length w fault)
  | finished {fault : Option Disk.Fault} (part : delivered h <+: contents)
      (whole : fault = none → delivered h = contents) (source : faults h = fault.toList)
      (told : reported h = fault.toList) (begun : removals h = [w]) (removed : Removed w h) :
      Progress name contents w h (finished name contents.length)

section
variable {left : Bytes} {fault : Option Disk.Fault} {p : Poll}

end

-- a read without room does not end the stream, nor does one whose removal still goes on
example : (history (openOn "a.zip" [80] ⟨⟨"/w"⟩⟩) [⟨0, .granted 4, true⟩, ⟨8, .granted 4, true⟩,
    ⟨8, .granted 4, false⟩, ⟨8, .pending, true⟩, ⟨8, .pending, true⟩]).map (·.turn.outcome) =
    [.delivered [], .delivered [80], .pending, .ended, .ended] := by decide

end ClassScaffold.Stream
