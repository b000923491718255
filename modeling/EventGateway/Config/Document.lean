import EventGateway.Config.Basic
import EventGateway.Json.Record
/-!
# Configuration from a document

A record of five sections, all of them required.  The settings of the gateway are required too, the others have
defaults, but for the secret.
-/
namespace EventGateway

open Json (Refusal RecordFormat)

def Settings.member (s : Settings) (name : String) (v : Json) : Except Refusal Settings :=
  match name with
  | "supported_versions" => (v.asList Json.asText).map (fun x => { s with versions := x })
  | "identify_timeout_ms" => v.asUInt64.map (fun x => { s with identifyTimeout := x })
  | "heartbeat_interval_ms" => v.asUInt64.map (fun x => { s with heartbeatInterval := x })
  | "heartbeat_timeout_ms" => v.asUInt64.map (fun x => { s with heartbeatTimeout := x })
  | "close_grace_ms" => v.asUInt64.map (fun x => { s with closeGrace := x })
  | "max_frame_bytes" => v.asUInt64.map (fun x => { s with maxFrameBytes := x })
  | "queue_capacity" => v.asUInt64.map (fun x => { s with queueCapacity := x })
  | "control_queue_capacity" => v.asUInt64.map (fun x => { s with controlQueueCapacity := x })
  | "overflow_threshold" => v.asUInt32.map (fun x => { s with overflowThreshold := x })
  | "overflow_window_ms" => v.asUInt64.map (fun x => { s with overflowWindow := x })
  | "overflow_policy" => (v.asWord OverflowPolicy.ofWord?).map (fun x => { s with overflowPolicy := x })
  | _ => .error .malformed

def Settings.format : RecordFormat Settings :=
  ⟨["supported_versions", "identify_timeout_ms", "heartbeat_interval_ms", "heartbeat_timeout_ms", "close_grace_ms",
    "max_frame_bytes", "queue_capacity", "control_queue_capacity", "overflow_threshold", "overflow_window_ms",
    "overflow_policy"], false, Settings.member⟩

namespace Config

/-- What a document has nothing to say about. -/
def standard : Config :=
  ⟨standardName, .development, standardHost, standardPort, "", standardExpiry, .standard, 0⟩

def app : RecordFormat Config :=
  ⟨["name", "env"], false, fun c name v =>
    match name with
    | "name" => v.asText.map (fun x => { c with name := x })
    | _ => (v.asWord Environment.ofWord?).map (fun x => { c with env := x })⟩

def server : RecordFormat Config :=
  ⟨["host", "port"], false, fun c name v =>
    match name with
    | "host" => v.asText.map (fun x => { c with host := x })
    | _ => v.asUInt16.map (fun x => { c with port := x })⟩

def jwt : RecordFormat Config :=
  ⟨["secret", "access_token_expiry"], false, fun c name v =>
    match name with
    | "secret" => v.asText.map (fun x => { c with secret := x })
    | _ => v.asInt64.map (fun x => { c with tokenExpiry := x })⟩

def snowflake : RecordFormat Config :=
  ⟨["worker_id"], false, fun c _ v => v.asUInt16.map (fun x => { c with worker := x })⟩

def sections : List String := ["app", "server", "jwt", "gateway", "snowflake"]

def document : RecordFormat Config :=
  ⟨sections, false, fun c name v =>
    match name with
    | "app" => app.readAll [] c v
    | "server" => server.readAll [] c v
    | "jwt" => jwt.readAll ["secret"] c v
    | "gateway" => (Settings.format.readAll Settings.format.names c.gateway v).map (fun x => { c with gateway := x })
    | _ => snowflake.readAll [] c v⟩

def ofJson (v : Json) : Except Refusal Config := document.readAll sections standard v

/-- Nothing is checked but the form. -/
def read (s : String) : Except Refusal Config := Json.readText ofJson s

end Config
end EventGateway
