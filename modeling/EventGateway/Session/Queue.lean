import EventGateway.CloseCode
import EventGateway.Wire.Payload
/-!
# Outbound queues

What a session has still to be sent.  Dispatches and control replies stand in one queue and have a bound each.  Where
a dispatch finds no room, the oldest one gives way to it, or the session is closed; a control reply never gives way,
and the session is closed where it finds no room.
-/
namespace EventGateway

/-- What happens to a dispatch that finds the queue full. -/
inductive Overflow where
  /-- The oldest dispatch gives way; the session is closed once `threshold` overflows lie within `window` ms. -/
  | dropOldest (threshold window : Nat)
  | disconnect
deriving DecidableEq, Repr

/-- How many dispatches and control replies fit. -/
structure QueueConfig where
  capacity : Nat
  controlCapacity : Nat
  overflow : Overflow
deriving DecidableEq, Repr

inductive PushOutcome where
  | queued
  | queuedAfterDrop
  /-- The push has closed the session. -/
  | overflowed
  /-- The session was closing already, or is gone. -/
  | closed
deriving DecidableEq, Repr

namespace PushOutcome

def isQueued : PushOutcome → Bool
  | queued | queuedAfterDrop => true
  | overflowed | closed => false

/-- The number of dispatches lost by the push. -/
def dropped : PushOutcome → Nat
  | queuedAfterDrop | overflowed => 1
  | queued | closed => 0

end PushOutcome

/-- `dispatches` and `controls` count what stands in `items`; `missed` counts the dispatches lost since the last batch, of
which there are no more than pushes, so that 64 bits are as good as a natural number below that many; `overflows` are the
ticks at which the queue overflowed, the oldest first. -/
structure Queue where
  config : QueueConfig
  items : List Wire.Payload
  dispatches : Nat
  controls : Nat
  missed : Nat
  overflows : List Nat
  close : Option CloseCode
  closeTaken : Bool
  shut : Bool
deriving DecidableEq, Repr

/-- What is handed to the writer at once: the number of lost dispatches, the payloads, the code of the close frame that
follows them, and whether the session is gone. -/
structure Batch where
  missed : Nat
  items : List Wire.Payload
  close : Option CloseCode
  finished : Bool
deriving DecidableEq, Repr

namespace Queue

def new (config : QueueConfig) : Queue := ⟨config, [], 0, 0, 0, [], none, false, false⟩

def size (q : Queue) : Nat := q.items.length

def isEmpty (q : Queue) : Bool := q.items.isEmpty

def isClosing (q : Queue) : Bool := q.close.isSome || q.shut

def hasWork (q : Queue) : Bool :=
  !q.items.isEmpty || 0 < q.missed || (q.close.isSome && !q.closeTaken) || q.shut

/-! ## Pushing -/

/-- Closes for backpressure. -/
def overflowed (q : Queue) : Queue := { q with close := some .backpressureOverflow }

/-- **The oldest dispatch leaves the queue and `p` joins it**, so the count of dispatches stays as it is. -/
def replaceOldest (p : Wire.Payload) (q : Queue) : Queue :=
  { q with items := q.items.eraseP (!·.isCritical) ++ [p] }

/-- The overflows that still count at `now`, this one included. -/
def recentOverflows (now window : Nat) (overflows : List Nat) : List Nat :=
  overflows.dropWhile (fun t => window < now - t) ++ [now]

/-- A dispatch that finds no room is counted as missed: itself or the one that gives way. -/
def pushFull (now : Nat) (p : Wire.Payload) (q : Queue) : PushOutcome × Queue :=
  let missed := { q with missed := q.missed + 1 }
  match q.config.overflow with
  | .disconnect => (.overflowed, missed.overflowed)
  | .dropOldest threshold window =>
    let recent := recentOverflows now window q.overflows
    let counted := { missed with overflows := recent }
    if threshold ≤ recent.length then (.overflowed, counted.overflowed)
    else (.queuedAfterDrop, counted.replaceOldest p)

def push (now : Nat) (p : Wire.Payload) (q : Queue) : PushOutcome × Queue :=
  if q.isClosing then (.closed, q)
  else if p.isCritical then
    if q.controls < q.config.controlCapacity then
      (.queued, { q with items := q.items ++ [p], controls := q.controls + 1 })
    else (.overflowed, q.overflowed)
  else if q.dispatches < q.config.capacity then
    (.queued, { q with items := q.items ++ [p], dispatches := q.dispatches + 1 })
  else q.pushFull now p

/-! ## Closing -/

/-- Records the code to close with, unless the queue is closing already. -/
def closeWith (code : CloseCode) (q : Queue) : Bool × Queue :=
  if q.isClosing then (false, q) else (true, { q with close := some code })

/-- Discards what is queued, for good. -/
def shutdown (q : Queue) : Queue := { q with items := [], dispatches := 0, controls := 0, shut := true }

/-! ## Draining -/

/-- Everything there is to send, if there is anything. -/
def drain (q : Queue) : Option Batch × Queue :=
  if !q.hasWork then (none, q)
  else if q.shut then
    (some ⟨0, [], none, true⟩, { q with items := [], dispatches := 0, controls := 0, missed := 0 })
  else
    (some ⟨q.missed, q.items, if q.closeTaken then none else q.close, false⟩,
      { q with items := [], dispatches := 0, controls := 0, missed := 0, closeTaken := q.closeTaken || q.close.isSome })

end Queue
end EventGateway
