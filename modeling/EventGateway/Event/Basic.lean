import EventGateway.EventKinds
import EventGateway.Scope.Basic
import EventGateway.Wire.Payload
/-!
# Events

What happens in channels and to users, and which sessions it concerns.
-/
namespace EventGateway

inductive Presence where
  | online
  | idle
  | doNotDisturb
  | offline
deriving DecidableEq, Repr, Inhabited

namespace Presence

def all : List Presence := [online, idle, doNotDisturb, offline]

def text : Presence → String
  | online => "online"
  | idle => "idle"
  | doNotDisturb => "dnd"
  | offline => "offline"

def parse? (s : String) : Option Presence := all.find? (·.text == s)

/-- Nobody is online before they say so. -/
def initial : Presence := offline

end Presence

inductive Event where
  | messageCreated (channel message author : Snowflake) (content : String) (timestamp : Int64)
  | messageUpdated (channel message : Snowflake) (content : String) (timestamp : Int64)
  | messageDeleted (channel message : Snowflake)
  | typingStarted (channel user : Snowflake) (timestamp : Int64)
  | presenceUpdated (user : Snowflake) (status : Presence)
deriving DecidableEq, Repr

namespace Event

/-- The scope that an event belongs to. -/
def scope : Event → Scope
  | messageCreated channel .. => .channel channel
  | messageUpdated channel .. => .channel channel
  | messageDeleted channel _ => .channel channel
  | typingStarted channel .. => .channel channel
  | presenceUpdated user _ => .user user

/-- **A change of presence is also news to those who follow the presence of everyone.** -/
def scopes (e : Event) : List Scope :=
  match e with
  | presenceUpdated .. => [e.scope, .presence]
  | _ => [e.scope]

def kind : Event → EventKinds
  | messageCreated .. => .messageCreate
  | messageUpdated .. => .messageUpdate
  | messageDeleted .. => .messageDelete
  | typingStarted .. => .typing
  | presenceUpdated .. => .presence

def name : Event → String
  | messageCreated .. => "MESSAGE_CREATED"
  | messageUpdated .. => "MESSAGE_UPDATED"
  | messageDeleted .. => "MESSAGE_DELETED"
  | typingStarted .. => "TYPING_STARTED"
  | presenceUpdated .. => "PRESENCE_UPDATED"

/-- What subscribers are sent. -/
def payload : Event → Wire.Payload
  | messageCreated channel message author content timestamp =>
    .messageCreated channel.toUInt64 message.toUInt64 author.toUInt64 content timestamp
  | messageUpdated channel message content timestamp =>
    .messageUpdated channel.toUInt64 message.toUInt64 content timestamp
  | messageDeleted channel message => .messageDeleted channel.toUInt64 message.toUInt64
  | typingStarted channel user timestamp => .typingStarted channel.toUInt64 user.toUInt64 timestamp
  | presenceUpdated user status => .presenceUpdated user.toUInt64 status.text

end Event
end EventGateway
