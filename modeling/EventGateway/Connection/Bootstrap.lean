import EventGateway.Connection.Error
import EventGateway.Text.Blank
/-!
# The first steps of a connection

From the upgrade of the request to the identified client.  Whatever happens on the connection is an input; the answer
is the next step to take, or the error that ends the connection.  No error is ever recovered from.
-/
namespace EventGateway

namespace Bootstrap

inductive State where
  | awaitingUpgrade
  | handshakeSent
  | awaitingIdentify
  | identified
  | closed
deriving DecidableEq, Repr, Inhabited

def State.text : State → String
  | awaitingUpgrade => "awaiting upgrade"
  | handshakeSent => "handshake sent"
  | awaitingIdentify => "awaiting identify"
  | identified => "identified"
  | closed => "closed"

inductive Input where
  | upgraded
  | handshakeDelivered
  | frame (p : Wire.Payload)
  | authenticated (who : Identity)
  | authRejected (reason : String)
  | timedOut
  | disconnected
deriving DecidableEq, Repr

def Input.text : Input → String
  | upgraded => "upgraded"
  | handshakeDelivered => "handshake delivered"
  | frame p => p.name
  | authenticated _ => "authenticated"
  | authRejected _ => "auth rejected"
  | timedOut => "timed out"
  | disconnected => "disconnected"

inductive Step where
  | sendHandshake
  | awaitIdentify
  | authenticate (who : Wire.Identify)
  | createSession (who : Identity)
  | dispatch (p : Wire.Payload)
  | closed
deriving DecidableEq, Repr

end Bootstrap

/-- `authenticating` says that the verdict on an Identify is still to come. -/
structure Bootstrap where
  state : Bootstrap.State
  authenticating : Bool
deriving DecidableEq, Repr

namespace Bootstrap

def new : Bootstrap := ⟨.awaitingUpgrade, false⟩

def isIdentified (b : Bootstrap) : Bool := b.state == .identified

def close (_ : Bootstrap) : Bootstrap := ⟨.closed, false⟩

/-- The answer to a frame that clients may send. -/
def onFrame (b : Bootstrap) (p : Wire.Payload) : Except ConnectionError Step × Bootstrap :=
  match b.state, p with
  | .closed, _ => (.error .closed, b)
  | .awaitingIdentify, .identify who =>
    if b.authenticating then (.error (.unexpectedPayload b.state.text p.name), b)
    else if Text.isAllBlank who.token then (.error (.malformedPayload "identify" "token is empty"), b)
    else (.ok (.authenticate who), { b with authenticating := true })
  | .identified, p =>
    if p.role = .command then (.ok (.dispatch p), b)
    else (.error (.unexpectedPayload b.state.text p.name), b)
  | _, _ => (.error (.unexpectedPayload b.state.text p.name), b)

/-- **A payload that only the server sends is refused as such in every state**, the closed one too. -/
def transition (b : Bootstrap) : Input → Except ConnectionError Step × Bootstrap
  | .disconnected => (.ok .closed, b.close)
  | .frame p => if p.isFromClient then b.onFrame p else (.error (.wrongDirection p.name), b)
  | input =>
    match b.state, input with
    | .closed, _ => (.error .closed, b)
    | .awaitingUpgrade, .upgraded => (.ok .sendHandshake, { b with state := .handshakeSent })
    | .handshakeSent, .handshakeDelivered => (.ok .awaitIdentify, { b with state := .awaitingIdentify })
    | .handshakeSent, .timedOut => (.error .identifyTimeout, b)
    | .awaitingIdentify, .timedOut => (.error .identifyTimeout, b)
    | .identified, .timedOut => (.error .idleTimeout, b)
    | .awaitingIdentify, .authenticated who =>
      if b.authenticating then (.ok (.createSession who), ⟨.identified, false⟩)
      else (.error (.invalidTransition b.state.text input.text), b)
    | .awaitingIdentify, .authRejected reason =>
      if b.authenticating then (.error (.authFailed reason), b)
      else (.error (.invalidTransition b.state.text input.text), b)
    | _, _ => (.error (.invalidTransition b.state.text input.text), b)

/-- Every error closes the connection. -/
def advance (b : Bootstrap) (input : Input) : Except ConnectionError Step × Bootstrap :=
  match b.transition input with
  | (.ok step, b') => (.ok step, b')
  | (.error e, b') => (.error e, b'.close)

end Bootstrap
end EventGateway
