import EventGateway.Wire.Payload
/-!
# Bodies of payloads

A payload as the list of its fields, by number.  Both encodings read and write this form: a field that is missing has
the default of its kind, and of a field given twice the later value counts.
-/
namespace EventGateway.Wire

/-- An `id` is an unsigned 64-bit number that a reader of JSON might not hold exactly, so JSON writes it as a text. -/
inductive FieldKind where
  | uint32
  | uint64
  | id
  | int64
  | text
deriving DecidableEq, Repr

inductive FieldValue where
  | uint32 (n : UInt32)
  | uint64 (n : UInt64)
  | int64 (n : Int64)
  | text (s : String)
deriving DecidableEq, Repr

def FieldValue.isDefault : FieldValue → Bool
  | uint32 n => n == 0
  | uint64 n => n == 0
  | int64 n => n == 0
  | text s => s.isEmpty

structure Field where
  name : String
  kind : FieldKind
deriving DecidableEq, Repr

/-- The fields of a variant; the first of them has the number 1. -/
def Variant.fields : Variant → List Field
  | .handshake =>
    [⟨"version", .uint32⟩, ⟨"revision", .uint32⟩, ⟨"capabilities", .uint32⟩, ⟨"heartbeat_interval_ms", .uint64⟩]
  | .identify => [⟨"token", .text⟩, ⟨"capabilities", .uint32⟩, ⟨"client_agent", .text⟩]
  | .ready =>
    [⟨"session_id", .id⟩, ⟨"user_id", .id⟩, ⟨"version", .uint32⟩, ⟨"revision", .uint32⟩, ⟨"capabilities", .uint32⟩]
  | .subscribe => [⟨"scope", .text⟩, ⟨"events", .uint32⟩]
  | .unsubscribe => [⟨"scope", .text⟩]
  | .sendMessage => [⟨"channel_id", .id⟩, ⟨"content", .text⟩]
  | .startTyping => [⟨"channel_id", .id⟩]
  | .updatePresence => [⟨"status", .text⟩]
  | .heartbeat => [⟨"last_seq", .uint64⟩]
  | .subscribed => [⟨"scope", .text⟩, ⟨"events", .uint32⟩]
  | .unsubscribed => [⟨"scope", .text⟩]
  | .heartbeatAck => [⟨"last_seq", .uint64⟩]
  | .error => [⟨"code", .text⟩, ⟨"message", .text⟩, ⟨"command", .text⟩]
  | .messageCreated =>
    [⟨"channel_id", .id⟩, ⟨"message_id", .id⟩, ⟨"author_id", .id⟩, ⟨"content", .text⟩, ⟨"timestamp_ms", .int64⟩]
  | .messageUpdated =>
    [⟨"channel_id", .id⟩, ⟨"message_id", .id⟩, ⟨"content", .text⟩, ⟨"edited_timestamp_ms", .int64⟩]
  | .messageDeleted => [⟨"channel_id", .id⟩, ⟨"message_id", .id⟩]
  | .typingStarted => [⟨"channel_id", .id⟩, ⟨"user_id", .id⟩, ⟨"timestamp_ms", .int64⟩]
  | .presenceUpdated => [⟨"user_id", .id⟩, ⟨"status", .text⟩]
  | .eventsMissed => [⟨"count", .uint64⟩]

/-- The values of numbered fields, the latest first. -/
abbrev Body := List (Nat × FieldValue)

namespace Body

def put (b : Body) (number : Nat) (v : FieldValue) : Body := (number, v) :: b

def uint32 (b : Body) (number : Nat) : UInt32 :=
  match b.lookup number with
  | some (.uint32 n) => n
  | _ => 0

def uint64 (b : Body) (number : Nat) : UInt64 :=
  match b.lookup number with
  | some (.uint64 n) => n
  | _ => 0

def int64 (b : Body) (number : Nat) : Int64 :=
  match b.lookup number with
  | some (.int64 n) => n
  | _ => 0

def text (b : Body) (number : Nat) : String :=
  match b.lookup number with
  | some (.text s) => s
  | _ => ""

/-- The payload that a body spells. -/
def payload (b : Body) : Variant → Payload
  | .handshake => .handshake (b.uint32 1) (b.uint32 2) (b.uint32 3) (b.uint64 4)
  | .identify => .identify ⟨b.text 1, b.uint32 2, b.text 3⟩
  | .ready => .ready (b.uint64 1) (b.uint64 2) (b.uint32 3) (b.uint32 4) (b.uint32 5)
  | .subscribe => .subscribe (b.text 1) (b.uint32 2)
  | .unsubscribe => .unsubscribe (b.text 1)
  | .sendMessage => .sendMessage (b.uint64 1) (b.text 2)
  | .startTyping => .startTyping (b.uint64 1)
  | .updatePresence => .updatePresence (b.text 1)
  | .heartbeat => .heartbeat (b.uint64 1)
  | .subscribed => .subscribed (b.text 1) (b.uint32 2)
  | .unsubscribed => .unsubscribed (b.text 1)
  | .heartbeatAck => .heartbeatAck (b.uint64 1)
  | .error => .error (b.text 1) (b.text 2) (b.text 3)
  | .messageCreated => .messageCreated (b.uint64 1) (b.uint64 2) (b.uint64 3) (b.text 4) (b.int64 5)
  | .messageUpdated => .messageUpdated (b.uint64 1) (b.uint64 2) (b.text 3) (b.int64 4)
  | .messageDeleted => .messageDeleted (b.uint64 1) (b.uint64 2)
  | .typingStarted => .typingStarted (b.uint64 1) (b.uint64 2) (b.int64 3)
  | .presenceUpdated => .presenceUpdated (b.uint64 1) (b.text 2)
  | .eventsMissed => .eventsMissed (b.uint64 1)

end Body

/-- The values of a payload's fields, in order. -/
def Payload.values : Payload → List FieldValue
  | .handshake version revision capabilities interval =>
    [.uint32 version, .uint32 revision, .uint32 capabilities, .uint64 interval]
  | .identify who => [.text who.token, .uint32 who.capabilities, .text who.agent]
  | .ready session user version revision capabilities =>
    [.uint64 session, .uint64 user, .uint32 version, .uint32 revision, .uint32 capabilities]
  | .subscribe scope events => [.text scope, .uint32 events]
  | .unsubscribe scope => [.text scope]
  | .sendMessage channel content => [.uint64 channel, .text content]
  | .startTyping channel => [.uint64 channel]
  | .updatePresence status => [.text status]
  | .heartbeat lastSeq => [.uint64 lastSeq]
  | .subscribed scope events => [.text scope, .uint32 events]
  | .unsubscribed scope => [.text scope]
  | .heartbeatAck lastSeq => [.uint64 lastSeq]
  | .error code message command => [.text code, .text message, .text command]
  | .messageCreated channel message author content timestamp =>
    [.uint64 channel, .uint64 message, .uint64 author, .text content, .int64 timestamp]
  | .messageUpdated channel message content timestamp =>
    [.uint64 channel, .uint64 message, .text content, .int64 timestamp]
  | .messageDeleted channel message => [.uint64 channel, .uint64 message]
  | .typingStarted channel user timestamp => [.uint64 channel, .uint64 user, .int64 timestamp]
  | .presenceUpdated user status => [.uint64 user, .text status]
  | .eventsMissed count => [.uint64 count]

end EventGateway.Wire
