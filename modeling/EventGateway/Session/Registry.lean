import Std.Data.ExtTreeSet
import EventGateway.Connection.Error
import EventGateway.Session.Basic
import EventGateway.Snowflake.Generator
/-!
# The registry of sessions

The live sessions, found by id, connection, user or scope.  A session that is destroyed leaves all of these; whoever
still holds on to it finds it closed for good.
-/
namespace EventGateway

open Std (ExtTreeMap ExtTreeSet TransOrd)

/-- The sessions that belong to each key; a key to which none belongs is not in the index. -/
abbrev SessionIndex (κ : Type) [Ord κ] := ExtTreeMap κ (ExtTreeSet SessionId)

namespace SessionIndex

variable {κ : Type} [Ord κ] [TransOrd κ]

def add (index : SessionIndex κ) (key : κ) (id : SessionId) : SessionIndex κ :=
  index.alter key (fun found => some ((found.getD ∅).insert id))

/-- A key that loses its last session leaves the index. -/
def remove (index : SessionIndex κ) (key : κ) (id : SessionId) : SessionIndex κ :=
  index.alter key (fun found => found.bind (fun ids => if (ids.erase id).isEmpty then none else some (ids.erase id)))

def ids (index : SessionIndex κ) (key : κ) : List SessionId := (index[key]?.getD ∅).toList

end SessionIndex

/-- `retired` holds the sessions that were destroyed. -/
structure Registry where
  sessions : ExtTreeMap SessionId Session
  retired : ExtTreeMap SessionId Session
  byConnection : ExtTreeMap ConnectionId SessionId
  byIdentity : SessionIndex Snowflake
  byScope : SessionIndex Scope
  ids : Generator
  queue : QueueConfig

namespace Registry

def new (ids : Generator) (queue : QueueConfig) : Registry := ⟨∅, ∅, ∅, ∅, ∅, ids, queue⟩

/-! ## Looking up -/

def session? (r : Registry) (id : SessionId) : Option Session := r.sessions[id]?

/-- A session, live or not. -/
def handle? (r : Registry) (id : SessionId) : Option Session := r.sessions[id]? <|> r.retired[id]?

def ofConnection? (r : Registry) (id : ConnectionId) : Option Session := do
  r.session? (← r.byConnection[id]?)

def subscribers (r : Registry) (scope : Scope) : List Session := (r.byScope.ids scope).filterMap r.session?

def ofIdentity (r : Registry) (user : Snowflake) : List Session := (r.byIdentity.ids user).filterMap r.session?

def sessionCount (r : Registry) : Nat := r.sessions.size

/-- The number of users with a session. -/
def identityCount (r : Registry) : Nat := r.byIdentity.size

/-- The number of scopes with a subscriber. -/
def scopeCount (r : Registry) : Nat := r.byScope.size

/-! ## Changing one session -/

/-- Puts back a session that was looked up, live or not. -/
def put (r : Registry) (s : Session) : Registry :=
  if r.sessions.contains s.id then { r with sessions := r.sessions.insert s.id s }
  else { r with retired := r.retired.insert s.id s }

/-- Applies a change that has an answer. -/
def modify? (r : Registry) (id : SessionId) (f : Session → α × Session) : Option (α × Registry) := do
  let s ← r.handle? id
  let (a, s') := f s
  return (a, r.put s')

/-! ## Coming and going -/

/-- A session for an identified client, unless its connection has one already. -/
def create (now : Moment) (connection : Connection) (identity : Identity) (capabilities : Wire.Capabilities)
    (r : Registry) : Except ConnectionError (Session × Registry) :=
  if r.byConnection.contains connection.id then .error (.duplicateConnection connection.id)
  else
    let (id, ids) := r.ids.next now.age
    let s := Session.new now id connection identity capabilities r.queue
    .ok (s, { r with
      sessions := r.sessions.insert id s
      byConnection := r.byConnection.insert connection.id id
      byIdentity := r.byIdentity.add identity.user id
      ids })

/-- The session as it was and as it is from now on: without subscriptions, and its queue shut. -/
def retire (s : Session) : Session := { s.shutdown with subscriptions := ∅, released := true }

def destroy (id : SessionId) (r : Registry) : Option (Session × Registry) := do
  let s ← r.session? id
  return (s, { r with
    sessions := r.sessions.erase id
    retired := r.retired.insert id (retire s)
    byConnection :=
      if r.byConnection[s.connection.id]? = some id then r.byConnection.erase s.connection.id else r.byConnection
    byIdentity := r.byIdentity.remove s.user id
    byScope := s.subscriptions.keys.foldl (fun index scope => index.remove scope id) r.byScope })

/-! ## Subscribing -/

/-- Adds or replaces a subscription, and says whether that changed anything. -/
def subscribe (id : SessionId) (scope : Scope) (kinds : EventKinds) (r : Registry) :
    Except ConnectionError (Bool × Registry) :=
  match r.session? id with
  | none => .error (.sessionNotFound id)
  | some s =>
    if s.released then .error (.sessionNotFound id)
    else .ok (s.subscriptions[scope]? ≠ some kinds, { r with
      sessions := r.sessions.insert id { s with subscriptions := s.subscriptions.insert scope kinds }
      byScope := r.byScope.add scope id })

/-- Removes a subscription, and says whether it was there. -/
def unsubscribe (id : SessionId) (scope : Scope) (r : Registry) : Except ConnectionError (Bool × Registry) :=
  match r.session? id with
  | none => .error (.sessionNotFound id)
  | some s =>
    if s.released then .error (.sessionNotFound id)
    else if s.subscriptions.contains scope then
      .ok (true, { r with
        sessions := r.sessions.insert id { s with subscriptions := s.subscriptions.erase scope }
        byScope := r.byScope.remove scope id })
    else .ok (false, r)

end Registry
end EventGateway
