import EventGateway.Scope.Basic
/-!
# Why a command fails

A command that fails leaves its session open; the client is told the code and the message.
-/
namespace EventGateway

inductive CommandError where
  | channelNotFound (id : Snowflake)
  | messageNotFound (id : Snowflake)
  | invalid (why : String)
  | invalidScope (why : String)
  | contentTooLong (max : Nat)
  | subscriptionDenied (scope : Scope)
  | cannotSendMessages
  | unavailable (why : String)
  | internal (why : String)
deriving DecidableEq, Repr

namespace CommandError

def message : CommandError → String
  | channelNotFound id => "Channel not found: " ++ id.text
  | messageNotFound id => "Message not found: " ++ id.text
  | invalid why => "Validation error: " ++ why
  | invalidScope why => "Invalid scope: " ++ why
  | contentTooLong max => "Content too long: max " ++ Text.ofNat max ++ " characters"
  | subscriptionDenied scope => "Not allowed to subscribe to " ++ scope.text
  | cannotSendMessages => "Cannot send messages in this channel"
  | unavailable why => "Collaborator unavailable: " ++ why
  | internal why => "Internal error: " ++ why

def code : CommandError → String
  | channelNotFound _ => "UNKNOWN_CHANNEL"
  | messageNotFound _ => "UNKNOWN_MESSAGE"
  | invalid _ => "VALIDATION_ERROR"
  | invalidScope _ => "INVALID_SCOPE"
  | contentTooLong _ => "CONTENT_TOO_LONG"
  | subscriptionDenied _ => "SUBSCRIPTION_DENIED"
  | cannotSendMessages => "CANNOT_SEND_MESSAGES"
  | unavailable _ => "UNAVAILABLE"
  | internal _ => "INTERNAL_ERROR"

def isNotFound : CommandError → Bool
  | channelNotFound _ | messageNotFound _ => true
  | _ => false

def isInvalid : CommandError → Bool
  | invalid _ | invalidScope _ | contentTooLong _ => true
  | _ => false

def isDenied : CommandError → Bool
  | subscriptionDenied _ | cannotSendMessages => true
  | _ => false

end CommandError
end EventGateway
