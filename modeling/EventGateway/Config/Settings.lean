import EventGateway.Session.Queue
import EventGateway.Text.Blank
import EventGateway.Text.Lowercase
/-!
# Settings of the gateway

Timeouts, bounds, and what happens to clients that fall behind.
-/
namespace EventGateway

/-- What happens to a session whose queue is full. -/
inductive OverflowPolicy where
  | dropOldest
  | disconnect
deriving DecidableEq, Repr, Inhabited

namespace OverflowPolicy

def ofWord? : String → Option OverflowPolicy
  | "drop_oldest" => some dropOldest
  | "disconnect" => some disconnect
  | _ => none

def label : OverflowPolicy → String
  | dropOldest => "DropOldest"
  | disconnect => "Disconnect"

/-- In a variable the case does not matter, and a hyphen serves as well. -/
def parse (s : String) : Except String OverflowPolicy :=
  match Text.lower (Text.trim s) with
  | "drop_oldest" | "drop-oldest" => .ok dropOldest
  | "disconnect" => .ok disconnect
  | other => .error ("unknown overflow policy `" ++ other ++ "`")

end OverflowPolicy

/-- All times are in milliseconds. -/
structure Settings where
  versions : List String
  identifyTimeout : UInt64
  heartbeatInterval : UInt64
  heartbeatTimeout : UInt64
  closeGrace : UInt64
  maxFrameBytes : UInt64
  queueCapacity : UInt64
  controlQueueCapacity : UInt64
  overflowThreshold : UInt32
  overflowWindow : UInt64
  overflowPolicy : OverflowPolicy
deriving DecidableEq, Repr

inductive ConfigError where
  | missingVariable (name : String)
  | invalidValue (name why : String)
deriving DecidableEq, Repr

def ConfigError.message : ConfigError → String
  | missingVariable name => "Missing required environment variable: " ++ name
  | invalidValue name why => "Invalid value for " ++ name ++ ": " ++ why

namespace Settings

def standard : Settings :=
  ⟨["1.0", "2.0"], 10000, 41250, 90000, 1000, 65536, 256, 64, 64, 10000, .dropOldest⟩

def overflow (s : Settings) : Overflow :=
  match s.overflowPolicy with
  | .dropOldest => .dropOldest s.overflowThreshold.toNat s.overflowWindow.toNat
  | .disconnect => .disconnect

/-- **A queue holds at least one payload of each kind**, whatever the settings say. -/
def queue (s : Settings) : QueueConfig :=
  ⟨max s.queueCapacity.toNat 1, max s.controlQueueCapacity.toNat 1, s.overflow⟩

/-- A connection on which a longer frame arrives is cut, without a word. -/
def transportLimit (s : Settings) : Nat := 4 * s.maxFrameBytes.toNat

/-- The first setting that makes no sense, if there is one. -/
def fault? (s : Settings) : Option ConfigError :=
  if s.versions.isEmpty then some (.invalidValue "GATEWAY_SUPPORTED_VERSIONS" "at least one version is required")
  else if s.queueCapacity = 0 then some (.invalidValue "GATEWAY_QUEUE_CAPACITY" "must be greater than zero")
  else if s.controlQueueCapacity = 0 then
    some (.invalidValue "GATEWAY_CONTROL_QUEUE_CAPACITY" "must be greater than zero")
  else if s.overflowThreshold = 0 then some (.invalidValue "GATEWAY_OVERFLOW_THRESHOLD" "must be greater than zero")
  else if s.heartbeatTimeout ≤ s.heartbeatInterval then
    some (.invalidValue "GATEWAY_HEARTBEAT_TIMEOUT_MS" "must exceed the heartbeat interval")
  else none

def validate (s : Settings) : Except ConfigError Unit := s.fault?.elim (.ok ()) .error

end Settings
end EventGateway
