import EventGateway.Command.Error
import EventGateway.Event.Basic
/-!
# Commands

What an identified client asks for.  A payload with values that make no sense is a failed command, and no violation of
the protocol.
-/
namespace EventGateway

/-- A request that is the business of the channels and the users, and not of the session. -/
inductive Action where
  | sendMessage (channel : Snowflake) (content : String)
  | startTyping (channel : Snowflake)
  | updatePresence (status : Presence)
deriving DecidableEq, Repr

def Action.name : Action → String
  | sendMessage .. => "send_message"
  | startTyping _ => "start_typing"
  | updatePresence _ => "update_presence"

inductive Command where
  | subscribe (scope : Scope) (events : EventKinds)
  | unsubscribe (scope : Scope)
  | heartbeat (lastSeq : UInt64)
  | act (action : Action)
deriving DecidableEq, Repr

namespace Command

def name : Command → String
  | subscribe .. => "subscribe"
  | unsubscribe _ => "unsubscribe"
  | heartbeat _ => "heartbeat"
  | act action => action.name

def parseScope (s : String) : Except CommandError Scope :=
  (Scope.parse s).mapError (fun e => .invalidScope e.message)

def parseChannel (id : UInt64) : Except CommandError Snowflake :=
  if (Snowflake.ofUInt64 id).isPositive then .ok (.ofUInt64 id) else .error (.invalid "channel_id is required")

def parsePresence (s : String) : Except CommandError Presence :=
  (Presence.parse? s).elim (.error (.invalid ("unknown presence status `" ++ s ++ "`"))) .ok

def ofPayload : Wire.Payload → Except CommandError Command
  | .subscribe scope events => do return .subscribe (← parseScope scope) (.ofFilterBits events)
  | .unsubscribe scope => do return .unsubscribe (← parseScope scope)
  | .heartbeat lastSeq => .ok (.heartbeat lastSeq)
  | .sendMessage channel content => do return .act (.sendMessage (← parseChannel channel) content)
  | .startTyping channel => do return .act (.startTyping (← parseChannel channel))
  | .updatePresence status => do return .act (.updatePresence (← parsePresence status))
  | p => .error (.invalid ("`" ++ p.name ++ "` is not a command"))

end Command
end EventGateway
