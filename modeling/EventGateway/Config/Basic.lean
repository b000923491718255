import EventGateway.Config.Environment
import EventGateway.Config.Settings
import EventGateway.Text.Decimal
/-!
# Configuration
-/
namespace EventGateway

/-- `tokenExpiry` is in seconds. -/
structure Config where
  name : String
  env : Environment
  host : String
  port : UInt16
  secret : String
  tokenExpiry : Int64
  gateway : Settings
  worker : UInt16
deriving DecidableEq, Repr

namespace Config

def standardName : String := "bonfire-gateway"

def standardHost : String := "0.0.0.0"

def standardPort : UInt16 := 3000

def standardExpiry : Int64 := 900

/-- Where the gateway listens. -/
def address (c : Config) : String := c.host ++ ":" ++ Text.ofNat c.port.toNat

end Config
end EventGateway
