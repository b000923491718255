import EventGateway.Config.Address
import EventGateway.Config.Variables
import EventGateway.Gateway.Basic
import EventGateway.Logging.Console
/-!
# Starting up

From the configuration to a gateway that is ready, or to the reason why there is none.
-/
namespace EventGateway

namespace Service

/-- A service for settings whose versions make sense. -/
def ofSettings (settings : Settings) (authenticator : Authenticator) (verdictDelay : Nat) (handler : CommandHandler) :
    Except Failure Service :=
  match Wire.VersionSet.parse settings.versions with
  | .error fault => .error (.config fault.message)
  | .ok versions => .ok ⟨settings, versions, .all, authenticator, verdictDelay, handler⟩

/-- Access tokens are signed with the secret, and nothing is kept of what is said. -/
def ofConfig (c : Config) : Except Failure (Service × Generator) := do
  let ids ← (Generator.new c.worker).mapError (fun e => .config e.message)
  let svc ← ofSettings c.gateway (.signed c.secret) 0 (LocalChannels.mk []).handler
  return (svc, ids)

/-- Everything that is checked before the gateway begins to listen. -/
def forListening (c : Config) : Except Failure (Service × Generator) :=
  if Address.isValid c.address then ofConfig c
  else .error (.config "Invalid listen address: invalid socket address syntax")

/-- The note on a service that has been set up from its configuration. -/
def ready (svc : Service) : Note :=
  ⟨.info, "Gateway state initialized",
    [("versions", .text ("[" ++ ", ".intercalate (svc.versions.versions.map Wire.Version.label) ++ "]")),
      ("queue_capacity", .number svc.settings.queueCapacity.toNat),
      ("overflow_policy", .text svc.settings.overflowPolicy.label)]⟩

end Service

namespace Gateway

/-- A gateway without connections, that takes in events from outside. -/
def new (svc : Service) (ids : Generator) (now : Moment) : Gateway :=
  (⟨now, .new ids svc.settings.queue, []⟩ : Gateway).note .info "Event intake started" []

end Gateway

namespace Startup

/-- The name under which the notes of the program are filtered. -/
def target : String := "bonfire_gateway"

/-- The notes of a start with some variables, the earliest first, and how it ends. -/
def run (vars : Variables) : Journal × Except String (Service × Generator) :=
  let starting : Note := ⟨.info, "Starting Bonfire Gateway...", []⟩
  let failed (why : String) : Note := ⟨.error, "Gateway failed to start", [("error", .text why)]⟩
  match Config.ofVariables vars with
  | .error e =>
    ([starting, ⟨.error, "Failed to load configuration", [("error", .text e.message)]⟩, failed e.message],
      .error e.message)
  | .ok c =>
    let loaded : Note := ⟨.info, "Configuration loaded",
      [("env", .text c.env.label), ("port", .number c.port.toNat),
        ("versions", .text (Text.quotedList c.gateway.versions))]⟩
    match Service.forListening c with
    | .error e => ([starting, loaded, failed e.message], .error e.message)
    | .ok (svc, ids) => ([starting, loaded, svc.ready], .ok (svc, ids))

/-- An environment that is not known counts as development. -/
def logging (vars : Variables) : Logging :=
  .ofEnvironment (((vars.value? "APP_ENV").bind Environment.parse?).getD .development)

/-- The lines that a start prints. -/
def lines (vars : Variables) : List LogLine :=
  let l := logging vars
  (run vars).1.filterMap (fun n => l.line? (l.filter (vars.value? "RUST_LOG")) target (.note n))

end Startup
end EventGateway
