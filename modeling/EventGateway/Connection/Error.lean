import EventGateway.Connection.Identity
import EventGateway.Wire.Fault
/-!
# Why a connection ends, or a session cannot be had
-/
namespace EventGateway

inductive ConnectionError where
  | wire (fault : Wire.Fault)
  | unexpectedPayload (state payload : String)
  | malformedPayload (payload reason : String)
  | wrongDirection (payload : String)
  | authFailed (reason : String)
  | identifyTimeout
  | idleTimeout
  | duplicateConnection (id : ConnectionId)
  | sessionNotFound (id : SessionId)
  | invalidTransition (state input : String)
  | closed
  | transport (why : String)
deriving DecidableEq, Repr

namespace ConnectionError

def message : ConnectionError → String
  | wire fault => fault.message
  | unexpectedPayload state payload => "Unexpected `" ++ payload ++ "` while " ++ state
  | malformedPayload payload reason => "Malformed `" ++ payload ++ "`: " ++ reason
  | wrongDirection payload => "`" ++ payload ++ "` may only be sent by the server"
  | authFailed reason => "Authentication failed: " ++ reason
  | identifyTimeout => "No Identify received in time"
  | idleTimeout => "Connection idle for too long"
  | duplicateConnection id => "Connection " ++ Text.ofNat id ++ " already owns a session"
  | sessionNotFound id => "Session " ++ id.text ++ " not found"
  | invalidTransition state input => "Invalid transition: " ++ input ++ " while " ++ state
  | closed => "Connection closed"
  | transport why => "Transport error: " ++ why

/-- The code that the client is sent; none where it is past being told. -/
def closeCode? : ConnectionError → Option CloseCode
  | wire fault => some fault.closeCode
  | unexpectedPayload .. | malformedPayload .. | wrongDirection _ => some .protocolViolation
  | authFailed _ => some .authFailure
  | identifyTimeout | idleTimeout => some .timeout
  | duplicateConnection _ | sessionNotFound _ | invalidTransition .. => some .unknownError
  | closed | transport _ => none

end ConnectionError
end EventGateway
