import EventGateway.Gateway.Basic
import EventGateway.Json.Render
/-!
# Answers to plain requests
-/
namespace EventGateway

def Snapshot.json (s : Snapshot) : Json :=
  .ofFields [("published", .nat s.published.toNat), ("delivered", .nat s.delivered.toNat),
    ("dropped", .nat s.dropped.toNat), ("overflows", .nat s.overflows.toNat), ("commands", .nat s.commands.toNat),
    ("command_failures", .nat s.commandFailures.toNat)]

def Stats.json (s : Stats) : Json := s.snapshot.json

namespace Router

/-- How the gateway is doing. -/
def health (r : Router) : Json :=
  .ofFields [("status", .str "ok"), ("sessions", .nat r.registry.sessionCount),
    ("identities", .nat r.registry.identityCount), ("scopes", .nat r.registry.scopeCount), ("router", r.stats.json)]

end Router

namespace Gateway

/-- The status of the answer, and its body if there is one. -/
def answer (target : String) (g : Gateway) : Nat × Option String :=
  match Request.pathOf target with
  | "/health" => (200, some g.router.health.render)
  | "/gateway" => (400, none)
  | _ => (404, none)

end Gateway
end EventGateway
