import Std.Data.ExtTreeMap
import EventGateway.Connection.Identity
import EventGateway.Event.Basic
import EventGateway.Moment
import EventGateway.Scope.Order
import EventGateway.Session.Queue
import EventGateway.Wire.Capabilities
import EventGateway.Wire.Encoding
import EventGateway.Wire.Version
/-!
# Sessions

An identified client: what was agreed with it, what it is subscribed to, what it has still to be sent, and the number
of the last dispatch that it was sent.
-/
namespace EventGateway

/-- A connection whose opening request was granted. -/
structure Connection where
  id : ConnectionId
  encoding : Wire.Encoding
  version : Wire.Version
deriving DecidableEq, Repr

/-- The filter of each scope subscribed to. -/
abbrev Subscriptions := Std.ExtTreeMap Scope EventKinds

structure Session where
  id : SessionId
  connection : Connection
  identity : Identity
  capabilities : Wire.Capabilities
  subscriptions : Subscriptions
  /-- The session is gone and takes no more subscriptions. -/
  released : Bool
  queue : Queue
  sequence : UInt64
  createdAt : Moment

/-- What the writer puts on the wire next. -/
structure Outgoing where
  envelopes : List Wire.Envelope
  close : Option CloseCode
  finished : Bool
deriving DecidableEq, Repr

namespace Session

def new (now : Moment) (id : SessionId) (connection : Connection) (identity : Identity)
    (capabilities : Wire.Capabilities) (queue : QueueConfig) : Session :=
  ⟨id, connection, identity, capabilities, ∅, false, .new queue, 0, now⟩

def user (s : Session) : Snowflake := s.identity.user

/-! ## Interest -/

/-- Whether a subscription to one of the scopes admits a kind of event. -/
def admits (s : Session) (scopes : List Scope) (kind : EventKinds) : Bool :=
  scopes.any (fun scope => s.subscriptions[scope]?.any (·.admits kind))

/-- **A session gets an event if its capabilities allow the kind and the filter of one of the scopes admits it.** -/
def wants (s : Session) (e : Event) : Bool :=
  s.capabilities.allows e.kind && !s.released && s.admits e.scopes e.kind

/-! ## The outgoing stream -/

def push (now : Nat) (p : Wire.Payload) (s : Session) : PushOutcome × Session :=
  let (outcome, queue) := s.queue.push now p
  (outcome, { s with queue })

def closeWith (code : CloseCode) (s : Session) : Bool × Session :=
  let (accepted, queue) := s.queue.closeWith code
  (accepted, { s with queue })

def shutdown (s : Session) : Session := { s with queue := s.queue.shutdown }

/-- Payloads with the numbers that follow `seq`; a payload that is not sequenced takes none. -/
def number (seq : UInt64) : List Wire.Payload → List Wire.Envelope × UInt64
  | [] => ([], seq)
  | p :: rest =>
    if p.isSequenced then
      let (envelopes, last) := number (seq + 1) rest
      (⟨seq + 1, p⟩ :: envelopes, last)
    else
      let (envelopes, last) := number seq rest
      (.unsequenced p :: envelopes, last)

/-- **The client is told first how many dispatches it has missed.** -/
def announced (b : Batch) : List Wire.Payload :=
  (if 0 < b.missed then [.eventsMissed (UInt64.ofNat b.missed)] else []) ++ b.items

def stamp (b : Batch) (s : Session) : Outgoing × Session :=
  if b.finished then (⟨[], none, true⟩, s)
  else
    let (envelopes, sequence) := number s.sequence (announced b)
    (⟨envelopes, b.close, false⟩, { s with sequence })

/-- What is to be sent now, if there is anything. -/
def nextOutgoing (s : Session) : Option Outgoing × Session :=
  match s.queue.drain with
  | (none, queue) => (none, { s with queue })
  | (some b, queue) =>
    let (out, s') := { s with queue }.stamp b
    (some out, s')

end Session
end EventGateway
