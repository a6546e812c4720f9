import MiniTor.Theory.Window

/-!
# Event buffers (`common/src/metrics.rs`)

The ring buffer behind the activity logs of the services, generic over their events. Clock
readings are parameters, in nanoseconds.

- `EventBuffer.events_pushAll`: a buffer holds the last events it was given, with the time
  each was pushed at; one of capacity 0 holds the last one all the same.
-/

namespace MiniTor

open Theory

/-- Timestamped event for TUI display. -/
structure TuiEvent (E : Type) where
  elapsed : Nat
  kind : E
  deriving DecidableEq

/-- Ring buffer for TUI events with a fixed capacity. -/
structure EventBuffer (E : Type) where
  events : List (TuiEvent E)
  capacity : Nat
  startTime : Nat
  deriving DecidableEq

namespace EventBuffer

variable {E : Type}

def new (capacity startTime : Nat) : EventBuffer E := { events := [], capacity, startTime }

/-- Push a new event, dropping the oldest if at capacity. -/
def push (b : EventBuffer E) (now : Nat) (kind : E) : EventBuffer E :=
  let elapsed := now - b.startTime
  let events := if b.events.length ≥ b.capacity then b.events.tail else b.events
  { b with events := events ++ [{ elapsed, kind }] }

/-- The events as they are kept. -/
def stamp (startTime : Nat) (pushed : Nat × E) : TuiEvent E :=
  { elapsed := pushed.1 - startTime, kind := pushed.2 }

/-- The buffer after these pushes, each at its time. -/
def pushAll (b : EventBuffer E) (pushes : List (Nat × E)) : EventBuffer E :=
  pushes.foldl (fun b p => b.push p.1 p.2) b

theorem pushAll_eq (b : EventBuffer E) (pushes : List (Nat × E)) :
    b.pushAll pushes =
      { b with events := (pushes.map (stamp b.startTime)).foldl (pushBounded b.capacity) b.events } := by
  induction pushes generalizing b with
  | nil => rfl
  | cons p pushes ih =>
    show (b.push p.1 p.2).pushAll pushes = _
    rw [ih]
    rfl

/-- **A buffer holds the last events it was given.** -/
theorem events_pushAll (capacity startTime : Nat) (pushes : List (Nat × E)) :
    ((new capacity startTime).pushAll pushes).events =
      window (max 1 capacity) (pushes.map (stamp startTime)) := by
  rw [pushAll_eq]
  exact foldl_pushBounded capacity _

end EventBuffer

end MiniTor
