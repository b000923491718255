import EventGateway.Text.Decimal
/-!
# Close codes

Why the gateway ends a connection, as the close frame tells the client.
-/
namespace EventGateway

inductive CloseCode where
  | unknownError
  | protocolViolation
  | authFailure
  | timeout
  | versionUnsupported
  | backpressureOverflow
deriving DecidableEq, Repr

namespace CloseCode

def all : List CloseCode :=
  [unknownError, protocolViolation, authFailure, timeout, versionUnsupported, backpressureOverflow]

def number : CloseCode → UInt16
  | unknownError => 4000
  | protocolViolation => 4002
  | authFailure => 4004
  | timeout => 4009
  | versionUnsupported => 4012
  | backpressureOverflow => 4013

def ofNumber? (n : UInt16) : Option CloseCode := all.find? (·.number == n)

/-- The name is also the reason that the close frame gives. -/
def name : CloseCode → String
  | unknownError => "UNKNOWN_ERROR"
  | protocolViolation => "PROTOCOL_VIOLATION"
  | authFailure => "AUTH_FAILURE"
  | timeout => "TIMEOUT"
  | versionUnsupported => "VERSION_UNSUPPORTED"
  | backpressureOverflow => "BACKPRESSURE_OVERFLOW"

def description : CloseCode → String
  | unknownError => "Unknown error occurred"
  | protocolViolation => "Protocol violation"
  | authFailure => "Authentication failed"
  | timeout => "Timed out"
  | versionUnsupported => "Unsupported protocol version"
  | backpressureOverflow => "Outbound backpressure overflow"

/-- The word by which a code stands in documents and in the log. -/
def label : CloseCode → String
  | unknownError => "UnknownError"
  | protocolViolation => "ProtocolViolation"
  | authFailure => "AuthFailure"
  | timeout => "Timeout"
  | versionUnsupported => "VersionUnsupported"
  | backpressureOverflow => "BackpressureOverflow"

/-- **A client that comes back with the same version or the same token fares no better**, so those two codes, and a
violation of the protocol, do not invite it to. -/
def invitesReconnect : CloseCode → Bool
  | unknownError | timeout | backpressureOverflow => true
  | protocolViolation | authFailure | versionUnsupported => false

def text (c : CloseCode) : String :=
  c.name ++ " (" ++ Text.ofNat c.number.toNat ++ "): " ++ c.description

end CloseCode
end EventGateway
