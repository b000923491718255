import EventGateway.Command.Handler
import EventGateway.Session.Registry
/-!
# The router

Events go out to the sessions that want them, and commands come in from the sessions.  Whatever a command brings about
is published when it has been carried out; a command that fails is answered with an error.
-/
namespace EventGateway

/-- What the router has done so far, in natural numbers; what is reported of it has 64 bits (`Stats.snapshot`). -/
structure Stats where
  published : Nat
  /-- Dispatches that found a place in a queue. -/
  delivered : Nat
  /-- Dispatches that gave way or found no place. -/
  dropped : Nat
  overflows : Nat
  commands : Nat
  commandFailures : Nat
deriving DecidableEq, Repr

/-- The counters as they are reported. -/
structure Snapshot where
  published : UInt64
  delivered : UInt64
  dropped : UInt64
  overflows : UInt64
  commands : UInt64
  commandFailures : UInt64
deriving DecidableEq, Repr

namespace Stats

def zero : Stats := ⟨0, 0, 0, 0, 0, 0⟩

/-- **A counter starts again at zero** when its 64 bits are used up. -/
def snapshot (s : Stats) : Snapshot where
  published := .ofNat s.published
  delivered := .ofNat s.delivered
  dropped := .ofNat s.dropped
  overflows := .ofNat s.overflows
  commands := .ofNat s.commands
  commandFailures := .ofNat s.commandFailures

def countCommand (s : Stats) (failed : Bool) : Stats :=
  { s with commands := s.commands + 1, commandFailures := s.commandFailures + failed.toNat }

/-- Counts a published event by what became of it in each queue. -/
def countPublish (s : Stats) (outcomes : List PushOutcome) : Stats :=
  { s with
    published := s.published + 1
    delivered := s.delivered + outcomes.countP (·.isQueued)
    dropped := s.dropped + outcomes.foldl (fun n o => n + o.dropped) 0
    overflows := s.overflows + outcomes.count .overflowed }

end Stats

structure Router where
  registry : Registry
  stats : Stats
  journal : Journal

namespace Router

def new (ids : Generator) (queue : QueueConfig) : Router := ⟨.new ids queue, .zero, []⟩

def note (r : Router) (level : Level) (message : String) (details : List (String × Detail)) : Router :=
  { r with journal := r.journal.write level message details }

/-! ## Sessions -/

def create (now : Moment) (connection : Connection) (identity : Identity) (capabilities : Wire.Capabilities)
    (r : Router) : Except ConnectionError (Session × Router) := do
  let (s, registry) ← r.registry.create now connection identity capabilities
  return (s, { r with registry }.note .debug "Session created"
    [("session_id", .text s.id.text), ("connection_id", .text (Text.ofNat connection.id)),
      ("user_id", .text s.user.text)])

def destroy (id : SessionId) (r : Router) : Option (Session × Router) := do
  let (s, registry) ← r.registry.destroy id
  return (s, { r with registry }.note .debug "Session destroyed"
    [("session_id", .text id.text), ("user_id", .text s.user.text)])

/-- Notes what a session does about a scope, unless it is nothing. -/
def noteScope (message : String) (id : SessionId) (scope : Scope) (changed : Bool) (r : Router) : Router :=
  if changed then r.note .trace message [("session_id", .text id.text), ("scope", .text scope.text)] else r

def subscribe (id : SessionId) (scope : Scope) (kinds : EventKinds) (r : Router) :
    Except ConnectionError (Bool × Router) := do
  let (changed, registry) ← r.registry.subscribe id scope kinds
  return (changed, { r with registry }.noteScope "Session subscribed" id scope changed)

def unsubscribe (id : SessionId) (scope : Scope) (r : Router) : Except ConnectionError (Bool × Router) := do
  let (changed, registry) ← r.registry.unsubscribe id scope
  return (changed, { r with registry }.noteScope "Session unsubscribed" id scope changed)

/-! ## Queues -/

/-- Puts a payload into the queue of a session; to one that nobody knows, it is as to one that is gone. -/
def enqueue (now : Moment) (id : SessionId) (p : Wire.Payload) (r : Router) : PushOutcome × Router :=
  match r.registry.modify? id (·.push now.ticks p) with
  | some (outcome, registry) => (outcome, { r with registry })
  | none => (.closed, r)

/-- The number of payloads in the queue of a session. -/
def queued (r : Router) (id : SessionId) : Nat := (r.registry.handle? id).elim 0 (·.queue.size)

/-- Notes that a push has closed a session. -/
def noteOverflow (id : SessionId) (message : String) (outcome : PushOutcome) (r : Router) : Router :=
  if outcome = .overflowed then
    r.note .warn message [("session_id", .text id.text), ("queued", .number (r.queued id))]
  else r

/-- Sends a control reply. -/
def reply (now : Moment) (id : SessionId) (p : Wire.Payload) (r : Router) : PushOutcome × Router :=
  let (outcome, r) := r.enqueue now id p
  (outcome, r.noteOverflow id "Control replies backed up, closing session" outcome)

def closeWith (id : SessionId) (code : CloseCode) (r : Router) : Bool × Router :=
  match r.registry.modify? id (·.closeWith code) with
  | some (accepted, registry) => (accepted, { r with registry })
  | none => (false, r)

/-- What a session is to be sent now, if there is anything. -/
def nextOutgoing (id : SessionId) (r : Router) : Option Outgoing × Router :=
  match r.registry.modify? id (·.nextOutgoing) with
  | some (out, registry) => (out, { r with registry })
  | none => (none, r)

/-! ## Publishing -/

/-- How far an event has come: the sessions it was brought to, whether they want it or not, and what became of each
push, the earliest first. -/
structure Fanout where
  seen : List SessionId
  outcomes : List (SessionId × PushOutcome)
  router : Router

namespace Fanout

/-- **A session is asked once**, although two scopes may lead to it. -/
def visit (now : Moment) (e : Event) (f : Fanout) (s : Session) : Fanout :=
  if f.seen.contains s.id then f
  else if s.wants e then
    let (outcome, r) := f.router.enqueue now s.id e.payload
    ⟨s.id :: f.seen, f.outcomes ++ [(s.id, outcome)],
      r.noteOverflow s.id "Outbound queue overflowed, closing session" outcome⟩
  else { f with seen := s.id :: f.seen }

def visitScope (now : Moment) (e : Event) (f : Fanout) (scope : Scope) : Fanout :=
  (f.router.registry.subscribers scope).foldl (visit now e) f

/-- The number of queues in which the event found a place. -/
def delivered (f : Fanout) : Nat := f.outcomes.countP (·.2.isQueued)

end Fanout

/-- Brings an event to the subscribers of some scopes, one scope after the other. -/
def fanOut (now : Moment) (e : Event) (scopes : List Scope) (r : Router) : Fanout :=
  scopes.foldl (Fanout.visitScope now e) ⟨[], [], r⟩

/-- Publishes an event, and answers with the number of queues in which it found a place. -/
def publish (now : Moment) (e : Event) (r : Router) : Nat × Router :=
  let f := r.fanOut now e e.scopes
  (f.delivered, { f.router with stats := f.router.stats.countPublish (f.outcomes.map Prod.snd) }.note .trace
    "Event published"
    [("event", .text e.name), ("scope", .text e.scope.text), ("delivered", .number f.delivered)])

def publishAll (now : Moment) : List Event → Router → Router
  | [], r => r
  | e :: rest, r => publishAll now rest (r.publish now e).2

/-! ## Commands -/

/-- Tells a session that its command has failed. -/
def reportFailure (now : Moment) (id : SessionId) (command : String) (e : CommandError) (r : Router) : Router :=
  let r := r.note .debug "Command failed"
    [("session_id", .text id.text), ("command", .text command), ("code", .text e.code), ("error", .text e.message)]
  (r.reply now id (.error e.code e.message command)).2

/-- Has an action carried out, and answers with the events that come of it. -/
def perform (handler : CommandHandler) (now : Moment) (s : Session) (action : Action) (r : Router) :
    Except CommandError (List Event) × Router :=
  let (result, ids) := handler.execute now r.registry.ids s.identity action
  (result, { r with registry := { r.registry with ids } })

/-- Carries out a command of a session. -/
def execute (handler : CommandHandler) (now : Moment) (s : Session) (command : Command) (r : Router) :
    Except CommandError Unit × Router :=
  match command with
  | .subscribe scope events =>
    let (notes, verdict) := handler.authorize s.identity scope
    let r := { r with journal := notes ++ r.journal }
    match verdict with
    | .error e => (.error e, r)
    | .ok () =>
      match r.subscribe s.id scope events with
      | .error e => (.error (.unavailable e.message), r)
      | .ok (_, r) => (.ok (), (r.reply now s.id (.subscribed scope.text events.bits)).2)
  | .unsubscribe scope =>
    match r.unsubscribe s.id scope with
    | .error e => (.error (.unavailable e.message), r)
    | .ok (_, r) => (.ok (), (r.reply now s.id (.unsubscribed scope.text)).2)
  | .heartbeat lastSeq =>
    let r := r.note .trace "Heartbeat"
      [("session_id", .text s.id.text), ("client_seq", .number lastSeq.toNat),
        ("server_seq", .number s.sequence.toNat)]
    (.ok (), (r.reply now s.id (.heartbeatAck s.sequence)).2)
  | .act action =>
    match r.perform handler now s action with
    | (.error e, r) => (.error e, r)
    | (.ok events, r) => (.ok (), r.publishAll now events)

/-- Carries out a command, counts it, and reports its failure to the session. -/
def submit (handler : CommandHandler) (now : Moment) (id : SessionId) (command : Command) (r : Router) :
    Except CommandError Unit × Router :=
  match r.registry.handle? id with
  | none => (.error (.unavailable (ConnectionError.sessionNotFound id).message), r)
  | some s =>
    match r.execute handler now s command with
    | (.ok (), r) => (.ok (), { r with stats := r.stats.countCommand false })
    | (.error e, r) =>
      (.error e, { r with stats := r.stats.countCommand true }.reportFailure now id command.name e)

/-- **A payload that makes no command is reported too, but not counted.** -/
def handle (handler : CommandHandler) (now : Moment) (id : SessionId) (p : Wire.Payload) (r : Router) :
    Except CommandError Unit × Router :=
  match Command.ofPayload p with
  | .ok command => r.submit handler now id command
  | .error e => (.error e, r.reportFailure now id p.name e)

end Router
end EventGateway
