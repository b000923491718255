import EventGateway.Command.Error
import EventGateway.Connection.Identity
import EventGateway.Json.Render
/-!
# Failures

What may go wrong outside of a connection: with a token, with the configuration, or inside the service.
-/
namespace EventGateway

inductive Failure where
  | invalidToken
  | tokenExpired
  | missingAuth
  | validation (why : String)
  | internal (source : String)
  | command (e : CommandError)
  | config (why : String)
deriving DecidableEq, Repr

namespace Failure

/-- The source of an internal failure is for the operators only. -/
def message : Failure → String
  | invalidToken => "Invalid token"
  | tokenExpired => "Token expired"
  | missingAuth => "Missing authentication"
  | validation why => "Validation error: " ++ why
  | internal _ => "Internal server error"
  | command e => e.message
  | config why => "Configuration error: " ++ why

def source? : Failure → Option String
  | internal source => some source
  | _ => none

def code : Failure → String
  | invalidToken => "INVALID_TOKEN"
  | tokenExpired => "TOKEN_EXPIRED"
  | missingAuth => "MISSING_AUTH"
  | validation _ => "VALIDATION_ERROR"
  | internal _ => "INTERNAL_ERROR"
  | command e => e.code
  | config _ => "CONFIG_ERROR"

/-- The status of an HTTP answer. -/
def status : Failure → Nat
  | validation _ => 400
  | invalidToken | tokenExpired | missingAuth => 401
  | internal _ | config _ => 500
  | command e =>
    if e.isNotFound then 404 else if e.isDenied then 403 else if e.isInvalid then 400 else 500

def isAuth : Failure → Bool
  | invalidToken | tokenExpired | missingAuth => true
  | _ => false

/-- The body of an HTTP answer. -/
def response (f : Failure) : Json := .ofFields [("code", .str f.code), ("message", .str f.message)]

/-- What the failure means to a client that presents a token. -/
def authError : Failure → AuthError
  | missingAuth => .missingToken
  | tokenExpired => .expired
  | invalidToken => .invalidToken
  | f => .unavailable f.message

end Failure
end EventGateway
