import EventGateway.Connection.Bootstrap
import EventGateway.Session.Basic
import EventGateway.Wire.Frame
/-!
# Links

One client as the gateway sees it: how far the connection has come, what has arrived and is not read yet, and all that
the client was sent.
-/
namespace EventGateway

inductive Message where
  | frame (f : Wire.Frame)
  | ping (payload : List UInt8)
  | pong (payload : List UInt8)
  | close
deriving DecidableEq, Repr

/-- In bytes; a closing message carries its code. -/
def Message.size : Message → Nat
  | frame f => f.size
  | ping payload => payload.length
  | pong payload => payload.length
  | close => 2

/-- Whether a transport takes a message: a frame may be as long as its limit, anything else has 125 bytes at most. -/
def Message.fits (limit : Nat) : Message → Bool
  | frame f => f.size ≤ limit
  | m => m.size ≤ min limit 125

/-- What comes out of a transport: messages, and at last perhaps a fault. -/
inductive Inbound where
  | message (m : Message)
  | fault
deriving DecidableEq, Repr

inductive Sent where
  | frame (f : Wire.Frame)
  | pong (payload : List UInt8)
  | close (code : CloseCode)
deriving DecidableEq, Repr

inductive Transport where
  | up
  | cut
deriving DecidableEq, Repr

/-- How far a connection has come.  The deadlines are in ticks. -/
inductive Phase where
  | identifying (connection : Connection) (deadline : Nat)
  /-- The verdict on an Identify comes at `verdictAt`, and until then nothing is read. -/
  | authenticating (connection : Connection) (who : Wire.Identify) (deadline verdictAt : Nat)
  | live (session : SessionId) (idleAt : Nat)
  /-- Nothing is read any more, and the writer is to send what is left and the close frame. -/
  | closing (session : SessionId)
  | ended
deriving DecidableEq, Repr

structure Link where
  phase : Phase
  bootstrap : Bootstrap
  inbox : List Inbound
  transport : Transport
  sent : List Sent
  /-- The tick at which the client was heard of last. -/
  heardAt : Nat
deriving DecidableEq, Repr

namespace Link

def isEnded (l : Link) : Bool := l.phase == .ended

/-- Writes to the transport, if it takes anything. -/
def send? (l : Link) (s : Sent) : Option Link :=
  if l.transport = .cut then none else some { l with sent := l.sent ++ [s] }

/-- Whether the reader is waiting for a message. -/
def isReading (l : Link) : Bool :=
  match l.phase with
  | .identifying .. | .live .. => true
  | _ => false

/-- When something is due although no message arrives. -/
def due? (l : Link) : Option Nat :=
  match l.phase with
  | .identifying _ deadline => some deadline
  | .authenticating _ _ deadline verdictAt => some (min deadline verdictAt)
  | .live _ idleAt => some idleAt
  | .closing _ | .ended => none

end Link
end EventGateway
