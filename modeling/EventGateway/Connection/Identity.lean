import EventGateway.Snowflake.Order
import EventGateway.Wire.Payload
/-!
# Who is connected

Connections are numbered by the gateway; a session carries the id that its client is told.
-/
namespace EventGateway

abbrev ConnectionId := Nat

abbrev SessionId := Snowflake

/-- The user that a client turned out to be, and what the client says about itself. -/
structure Identity where
  user : Snowflake
  agent : String
deriving DecidableEq, Repr

/-- Why a token is not accepted. -/
inductive AuthError where
  | missingToken
  | invalidToken
  | expired
  | unavailable (why : String)
deriving DecidableEq, Repr

def AuthError.message : AuthError → String
  | missingToken => "Missing identity token"
  | invalidToken => "Invalid identity token"
  | expired => "Identity token expired"
  | unavailable why => "Authentication backend unavailable: " ++ why

end EventGateway
