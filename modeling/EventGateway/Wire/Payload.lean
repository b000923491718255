/-!
# Payloads

Everything that client and server say to each other, one payload in each frame.
-/
namespace EventGateway.Wire

/-- What a client says about itself. -/
structure Identify where
  token : String
  capabilities : UInt32
  agent : String
deriving DecidableEq, Repr

inductive Payload where
  | handshake (version revision capabilities : UInt32) (heartbeatInterval : UInt64)
  | identify (who : Identify)
  | ready (session user : UInt64) (version revision capabilities : UInt32)
  | subscribe (scope : String) (events : UInt32)
  | unsubscribe (scope : String)
  | sendMessage (channel : UInt64) (content : String)
  | startTyping (channel : UInt64)
  | updatePresence (status : String)
  | heartbeat (lastSeq : UInt64)
  | subscribed (scope : String) (events : UInt32)
  | unsubscribed (scope : String)
  | heartbeatAck (lastSeq : UInt64)
  | error (code message command : String)
  | messageCreated (channel message author : UInt64) (content : String) (timestamp : Int64)
  | messageUpdated (channel message : UInt64) (content : String) (timestamp : Int64)
  | messageDeleted (channel message : UInt64)
  | typingStarted (channel user : UInt64) (timestamp : Int64)
  | presenceUpdated (user : UInt64) (status : String)
  | eventsMissed (count : UInt64)
deriving DecidableEq, Repr

inductive Variant where
  | handshake
  | identify
  | ready
  | subscribe
  | unsubscribe
  | sendMessage
  | startTyping
  | updatePresence
  | heartbeat
  | subscribed
  | unsubscribed
  | heartbeatAck
  | error
  | messageCreated
  | messageUpdated
  | messageDeleted
  | typingStarted
  | presenceUpdated
  | eventsMissed
deriving DecidableEq, Repr

/-- The part that a payload plays in the protocol. -/
inductive Role where
  /-- From the client, and only before it is identified. -/
  | bootstrap
  /-- From the client, and only after it is identified. -/
  | command
  /-- From the server, without a sequence number, and never dropped. -/
  | control
  /-- From the server, with a sequence number, and dropped for a client that falls behind. -/
  | dispatch
deriving DecidableEq, Repr

namespace Variant

/-- In the order of their tags. -/
def all : List Variant :=
  [handshake, identify, ready, subscribe, unsubscribe, sendMessage, startTyping, updatePresence, heartbeat, subscribed,
    unsubscribed, heartbeatAck, error, messageCreated, messageUpdated, messageDeleted, typingStarted, presenceUpdated,
    eventsMissed]

def name : Variant → String
  | handshake => "handshake"
  | identify => "identify"
  | ready => "ready"
  | subscribe => "subscribe"
  | unsubscribe => "unsubscribe"
  | sendMessage => "send_message"
  | startTyping => "start_typing"
  | updatePresence => "update_presence"
  | heartbeat => "heartbeat"
  | subscribed => "subscribed"
  | unsubscribed => "unsubscribed"
  | heartbeatAck => "heartbeat_ack"
  | error => "error"
  | messageCreated => "message_created"
  | messageUpdated => "message_updated"
  | messageDeleted => "message_deleted"
  | typingStarted => "typing_started"
  | presenceUpdated => "presence_updated"
  | eventsMissed => "events_missed"

def ofName? (s : String) : Option Variant := all.find? (·.name == s)

/-- The field number in the envelope, next to the sequence number's 1. -/
def tag (v : Variant) : Nat := v.ctorIdx + 2

def ofTag? (n : Nat) : Option Variant := all.find? (·.tag == n)

def role : Variant → Role
  | identify => .bootstrap
  | subscribe | unsubscribe | sendMessage | startTyping | updatePresence | heartbeat => .command
  | handshake | ready | subscribed | unsubscribed | heartbeatAck | error => .control
  | messageCreated | messageUpdated | messageDeleted | typingStarted | presenceUpdated | eventsMissed => .dispatch

end Variant

namespace Payload

def variant : Payload → Variant
  | handshake .. => .handshake
  | identify .. => .identify
  | ready .. => .ready
  | subscribe .. => .subscribe
  | unsubscribe .. => .unsubscribe
  | sendMessage .. => .sendMessage
  | startTyping .. => .startTyping
  | updatePresence .. => .updatePresence
  | heartbeat .. => .heartbeat
  | subscribed .. => .subscribed
  | unsubscribed .. => .unsubscribed
  | heartbeatAck .. => .heartbeatAck
  | error .. => .error
  | messageCreated .. => .messageCreated
  | messageUpdated .. => .messageUpdated
  | messageDeleted .. => .messageDeleted
  | typingStarted .. => .typingStarted
  | presenceUpdated .. => .presenceUpdated
  | eventsMissed .. => .eventsMissed

def name (p : Payload) : String := p.variant.name

def role (p : Payload) : Role := p.variant.role

def isFromClient (p : Payload) : Bool := p.role == .bootstrap || p.role == .command

def isSequenced (p : Payload) : Bool := p.role == .dispatch

/-- Whether the payload is never dropped. -/
def isCritical (p : Payload) : Bool := !p.isSequenced

end Payload

/-- What one frame carries; what the server sends out of sequence has the number 0. -/
structure Envelope where
  seq : UInt64
  payload : Payload
deriving DecidableEq, Repr

namespace Envelope

def unsequenced (p : Payload) : Envelope := ⟨0, p⟩

end Envelope
end EventGateway.Wire
