import EventGateway.Gateway.Basic
/-!
# A schedule

The gateway leaves open in which order readers and writers have their turns.  This is one such order: after everything
that happens each reader reads what has arrived, then each writer sends what there is, and then time may pass to the
next moment at which something is due.  A verdict that is due at the same moment as a deadline comes first.
-/
namespace EventGateway.Gateway

/-- Whether the verdict on an Identify is due. -/
def verdictDue (g : Gateway) (l : Link) : Bool :=
  match l.phase with
  | .authenticating _ _ _ verdictAt => verdictAt ≤ g.now.ticks
  | _ => false

/-- Reads what has arrived.  A session that comes to be is first told that it is ready. -/
def catchUp (svc : Service) (id : ConnectionId) : Nat → Gateway → Gateway
  | 0, g => g
  | fuel + 1, g =>
    match g.link? id with
    | none => g
    | some l =>
      if g.verdictDue l then catchUp svc id fuel ((g.verdict svc id).flush id)
      else if l.isReading && !l.inbox.isEmpty then catchUp svc id fuel (g.read svc id)
      else g

/-- A message is one step of `catchUp`, and so is a verdict. -/
def steps (l : Link) : Nat := l.inbox.length + 2

def ids (g : Gateway) : List ConnectionId := g.links.map (·.1)

/-- What is due, but for a verdict. -/
def overdue (g : Gateway) (l : Link) : Bool := l.due?.any (· ≤ g.now.ticks)

/-- Lets a deadline that has passed take effect. -/
def enforce (svc : Service) (id : ConnectionId) (g : Gateway) : Gateway :=
  match g.link? id with
  | some l => if g.overdue l then g.expire svc id else g
  | none => g

/-- Lets everybody have a turn. -/
def settle (svc : Service) (g : Gateway) : Gateway :=
  let g := g.links.foldl (fun g x => g.catchUp svc x.1 (steps x.2)) g
  let g := g.ids.foldl (fun g id => g.flush id) g
  let g := g.ids.foldl (fun g id => g.enforce svc id) g
  g.ids.foldl (fun g id => g.flush id) g

/-- The next moment up to `limit` at which something is due. -/
def nextDue (g : Gateway) (limit : Nat) : Option Nat :=
  ((g.links.filterMap (·.2.due?)).filter (· ≤ limit)).min?

/-- Time passes up to `limit`; `fuel` bounds the number of moments at which something is due. -/
def passTo (svc : Service) (limit : Nat) : Nat → Gateway → Gateway
  | 0, g => { g with now := g.now.after (limit - g.now.ticks) }
  | fuel + 1, g =>
    match g.nextDue limit with
    | some t => passTo svc limit fuel ({ g with now := g.now.after (t - g.now.ticks) }.settle svc)
    | none => { g with now := g.now.after (limit - g.now.ticks) }

/-- Each link has a verdict, an idle time and one deadline at most. -/
def wait (svc : Service) (ms : Nat) (g : Gateway) : Gateway :=
  g.passTo svc (g.now.ticks + ms) (3 * g.links.length + 1)

end EventGateway.Gateway
