import ClassScaffold.Stream
import Mathlib.Data.List.Basic
/-! Polls of an archive stream and what they tell. A stream is open, or closed with the removal of its
workspace going on, or done, and in each state there are few things that a poll can do. -/
namespace ClassScaffold.Stream
open Text.Utf8 (Bytes)

/- Polls and what they tell -/

structure Poll where
  room : Nat
  answer : Answer
  gone : Bool
  deriving DecidableEq, Repr

structure Event where
  stream : Stream
  poll : Poll

namespace Outcome

def bytes : Outcome → Bytes
  | .delivered bytes => bytes
  | _ => []

def fault? : Outcome → Option Disk.Fault
  | .failed fault => some fault
  | _ => none

end Outcome

namespace Event

def turn (e : Event) : Turn := e.stream.poll e.poll.room e.poll.answer e.poll.gone

/-- Only an open file is asked, so only then there is an error of it. -/
def fault? (e : Event) : Option Disk.Fault :=
  match e.stream.unread, e.poll.answer with
  | some _, .failed fault => some fault
  | _, _ => none

end Event

def after (s : Stream) : List Poll → Stream
  | [] => s
  | p :: rest => after (Event.turn ⟨s, p⟩).stream rest

def history (s : Stream) : List Poll → List Event
  | [] => []
  | p :: rest => ⟨s, p⟩ :: history (Event.turn ⟨s, p⟩).stream rest

def delivered (h : List Event) : Bytes := h.flatMap (·.turn.outcome.bytes)

def faults (h : List Event) : List Disk.Fault := h.filterMap Event.fault?

def reported (h : List Event) : List Disk.Fault := h.filterMap (·.turn.outcome.fault?)

def removals (h : List Event) : List Workspace := h.filterMap (·.turn.removes)

/-- At some poll the removal, begun by then, answered that it is over. -/
def Removed (w : Workspace) (h : List Event) : Prop :=
  ∃ before e later, h = before ++ e :: later ∧ w ∈ removals (before ++ [e]) ∧ e.poll.gone = true

section
variable {h : List Event} {e : Event} {w : Workspace}

@[simp] theorem deliveredSnoc : delivered (h ++ [e]) = delivered h ++ e.turn.outcome.bytes := by simp [delivered]

@[simp] theorem faultsSnoc : faults (h ++ [e]) = faults h ++ e.fault?.toList := by
  cases same : e.fault? <;> simp [faults, same]

@[simp] theorem reportedSnoc : reported (h ++ [e]) = reported h ++ e.turn.outcome.fault?.toList := by
  cases same : e.turn.outcome.fault? <;> simp [reported, same]

@[simp] theorem removalsSnoc : removals (h ++ [e]) = removals h ++ e.turn.removes.toList := by
  cases same : e.turn.removes <;> simp [removals, same]

end

/- One poll in each state -/

section
variable {name : String} {length : Nat} {w : Workspace} {left : Bytes} {fault : Option Disk.Fault}

def outcomeOf : Option Disk.Fault → Outcome
  | some fault => .failed fault
  | none => .ended

@[simp] theorem bytesOutcomeOf (fault : Option Disk.Fault) : (outcomeOf fault).bytes = [] := by
  cases fault <;> rfl

@[simp] theorem faultOutcomeOf (fault : Option Disk.Fault) : (outcomeOf fault).fault? = fault := by
  cases fault <;> rfl

def reading (name : String) (length : Nat) (w : Workspace) (left : Bytes) : Stream :=
  ⟨name, length, some left, some w, none, none⟩

def removing (name : String) (length : Nat) (w : Workspace) (fault : Option Disk.Fault) : Stream :=
  ⟨name, length, none, none, some w, fault⟩

def finished (name : String) (length : Nat) : Stream := ⟨name, length, none, none, none, none⟩

theorem finishReading (gone : Bool) : (reading name length w left).finish fault gone =
    if gone then ⟨finished name length, some w, outcomeOf fault⟩
    else ⟨removing name length w fault, some w, .pending⟩ := by
  cases gone <;> cases fault <;> simp [finish, settle, reading, removing, finished, outcomeOf]

/-- What one poll makes of an open stream. -/
inductive Reads (name : String) (length : Nat) (w : Workspace) (left : Bytes) (p : Poll) : Turn → Prop
  | waits (answer : p.answer = .pending) :
      Reads name length w left p ⟨reading name length w left, none, .pending⟩
  | gives {bytes rest : Bytes} {count : Nat} (answer : p.answer = .granted count)
      (whole : bytes ++ rest = left) (some : 0 < p.room → bytes ≠ []) :
      Reads name length w left p ⟨reading name length w rest, none, .delivered bytes⟩
  | fails {fault : Disk.Fault} (answer : p.answer = .failed fault) :
      Reads name length w left p ((reading name length w left).finish (some fault) p.gone)
  | ends {count : Nat} (answer : p.answer = .granted count) (room : 0 < p.room) (whole : left = []) :
      Reads name length w left p ((reading name length w left).finish none p.gone)

theorem givenNothing {room count : Nat} (some : 0 < room) (none : given left room count = []) :
    left = [] := by
  rw [given, List.take_eq_nil_iff] at none
  exact none.resolve_left (by omega)

theorem givenWhole (left : Bytes) (room count : Nat) :
    given left room count ++ left.drop (given left room count).length = left :=
  List.prefix_iff_eq_append.1 (List.take_prefix _ _)

theorem pollReading (p : Poll) :
    Reads name length w left p (Event.turn ⟨reading name length w left, p⟩) := by
  cases answer : p.answer with
  | pending =>
    have same : Event.turn ⟨reading name length w left, p⟩ =
        ⟨reading name length w left, none, .pending⟩ := by simp [Event.turn, poll, reading, answer]
    rw [same]
    exact .waits answer
  | failed fault =>
    have same : Event.turn ⟨reading name length w left, p⟩ =
        (reading name length w left).finish (some fault) p.gone := by
      simp [Event.turn, poll, reading, answer]
    rw [same]
    exact .fails answer
  | granted count =>
    by_cases stop : 0 < p.room ∧ given left p.room count = []
    · have same : Event.turn ⟨reading name length w left, p⟩ =
          (reading name length w left).finish none p.gone := by
        simp [Event.turn, poll, reading, answer, stop]
      rw [same]
      exact .ends answer stop.1 (givenNothing stop.1 stop.2)
    · have same : Event.turn ⟨reading name length w left, p⟩ =
          ⟨reading name length w (left.drop (given left p.room count).length), none,
            .delivered (given left p.room count)⟩ := by
        simp only [Event.turn, poll, reading, answer, if_neg stop]
      rw [same]
      exact .gives answer (givenWhole left p.room count) fun room none => stop ⟨room, none⟩

end

end ClassScaffold.Stream
