import EventGateway.Config.Basic
/-!
# Configuration from variables

The gateway is configured by the variables of its environment.
-/
namespace EventGateway

/-- The variables that are set; one whose bytes spell no text has no value. -/
abbrev Variables := List (String × Option String)

namespace Variables

/-- Every variable that is looked at. -/
def names : List String :=
  ["APP_ENV", "APP_NAME", "RUST_LOG", "JWT_SECRET", "JWT_ACCESS_TOKEN_EXPIRY", "WORKER_ID", "GATEWAY_HOST",
    "GATEWAY_PORT", "GATEWAY_SUPPORTED_VERSIONS", "GATEWAY_IDENTIFY_TIMEOUT_MS", "GATEWAY_HEARTBEAT_INTERVAL_MS",
    "GATEWAY_HEARTBEAT_TIMEOUT_MS", "GATEWAY_CLOSE_GRACE_MS", "GATEWAY_MAX_FRAME_BYTES", "GATEWAY_QUEUE_CAPACITY",
    "GATEWAY_CONTROL_QUEUE_CAPACITY", "GATEWAY_OVERFLOW_THRESHOLD", "GATEWAY_OVERFLOW_WINDOW_MS",
    "GATEWAY_OVERFLOW_POLICY"]

def value? (vars : Variables) (name : String) : Option String := (vars.lookup name).join

/-- **A variable that is blank, or spells no text, counts as not set.** -/
def read (vars : Variables) (name : String) (standard : α) (parse : String → Except String α) :
    Except ConfigError α :=
  match vars.value? name with
  | none => .ok standard
  | some raw =>
    if Text.isAllBlank raw then .ok standard
    else (parse (Text.trim raw)).mapError (.invalidValue name)

/-- The items between commas that are not blank. -/
def parseList (raw : String) : List String :=
  ((Text.splitOn ',' raw).map Text.trim).filter (· ≠ "")

def uint64 (s : String) : Except String UInt64 := (Text.Decimal.readUInt64 s).mapError (·.message)

def uint32 (s : String) : Except String UInt32 := (Text.Decimal.readUInt32 s).mapError (·.message)

def uint16 (s : String) : Except String UInt16 := (Text.Decimal.readUInt16 s).mapError (·.message)

def int64 (s : String) : Except String Int64 := (Text.Decimal.readInt64 s).mapError (·.message)

def settings (vars : Variables) : Except ConfigError Settings := do
  let std := Settings.standard
  let s : Settings := {
    versions := ((vars.value? "GATEWAY_SUPPORTED_VERSIONS").map parseList).getD std.versions
    identifyTimeout := ← vars.read "GATEWAY_IDENTIFY_TIMEOUT_MS" std.identifyTimeout uint64
    heartbeatInterval := ← vars.read "GATEWAY_HEARTBEAT_INTERVAL_MS" std.heartbeatInterval uint64
    heartbeatTimeout := ← vars.read "GATEWAY_HEARTBEAT_TIMEOUT_MS" std.heartbeatTimeout uint64
    closeGrace := ← vars.read "GATEWAY_CLOSE_GRACE_MS" std.closeGrace uint64
    maxFrameBytes := ← vars.read "GATEWAY_MAX_FRAME_BYTES" std.maxFrameBytes uint64
    queueCapacity := ← vars.read "GATEWAY_QUEUE_CAPACITY" std.queueCapacity uint64
    controlQueueCapacity := ← vars.read "GATEWAY_CONTROL_QUEUE_CAPACITY" std.controlQueueCapacity uint64
    overflowThreshold := ← vars.read "GATEWAY_OVERFLOW_THRESHOLD" std.overflowThreshold uint32
    overflowWindow := ← vars.read "GATEWAY_OVERFLOW_WINDOW_MS" std.overflowWindow uint64
    overflowPolicy := ← vars.read "GATEWAY_OVERFLOW_POLICY" std.overflowPolicy OverflowPolicy.parse }
  s.validate
  return s

end Variables

namespace Config

/-- **The settings of the gateway are checked before the rest is read**, and of what is wrong the first thing is
reported.  An environment that is not known counts as development. -/
def ofVariables (vars : Variables) : Except ConfigError Config := do
  let gateway ← vars.settings
  let port ← vars.read "GATEWAY_PORT" standardPort Variables.uint16
  let secret ← (vars.value? "JWT_SECRET").elim (.error (.missingVariable "JWT_SECRET")) .ok
  let tokenExpiry ← vars.read "JWT_ACCESS_TOKEN_EXPIRY" standardExpiry Variables.int64
  let worker ← vars.read "WORKER_ID" 0 Variables.uint16
  return {
    name := (vars.value? "APP_NAME").getD standardName
    env := ((vars.value? "APP_ENV").bind Environment.parse?).getD .development
    host := (vars.value? "GATEWAY_HOST").getD standardHost
    port, secret, tokenExpiry, gateway, worker }

end Config
end EventGateway
