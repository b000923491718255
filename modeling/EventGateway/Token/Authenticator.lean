import EventGateway.Moment
import EventGateway.Token.Basic
/-!
# Who a token stands for
-/
namespace EventGateway

inductive Authenticator where
  /-- Signed access tokens. -/
  | signed (secret : String)
  /-- A table of tokens and their users. -/
  | table (tokens : List (String × Snowflake))
deriving Repr

namespace Authenticator

def userOf (now : Moment) (token : String) : Authenticator → Except AuthError Snowflake
  | signed secret => do
    let c ← (Token.validate secret (now.unix / 1000) (Token.stripBearer token)).mapError Failure.authError
    c.user.mapError Failure.authError
  | table tokens =>
    let token := Token.stripBearer token
    if token = "" then .error .missingToken else (tokens.lookup token).elim (.error .invalidToken) .ok

def authenticate (now : Moment) (who : Wire.Identify) (a : Authenticator) : Except AuthError Identity := do
  return ⟨← a.userOf now who.token, who.agent⟩

end Authenticator
end EventGateway
