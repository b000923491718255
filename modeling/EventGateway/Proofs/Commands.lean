import EventGateway.Proofs.Moves
/-!
# Commands — what a submitted command does

`Executed` lists what carrying out a command can do, and `Submitted` adds the report of a failure.  Nothing below opens
`execute` or `submit` again.
-/
namespace EventGateway

namespace Command

/-- **The payloads that make a command**, and what each of them makes. -/
inductive Made : Wire.Payload → Command → Prop where
  | subscribe (text : String) (events : UInt32) (scope : Scope) (h : Scope.parse text = .ok scope) :
    Made (.subscribe text events) (.subscribe scope (.ofFilterBits events))
  | unsubscribe (text : String) (scope : Scope) (h : Scope.parse text = .ok scope) :
    Made (.unsubscribe text) (.unsubscribe scope)
  | heartbeat (lastSeq : UInt64) : Made (.heartbeat lastSeq) (.heartbeat lastSeq)
  | sendMessage (channel : UInt64) (content : String) (id : Snowflake) :
    Made (.sendMessage channel content) (.act (.sendMessage id content))
  | startTyping (channel : UInt64) (id : Snowflake) : Made (.startTyping channel) (.act (.startTyping id))
  | updatePresence (text : String) (status : Presence) : Made (.updatePresence text) (.act (.updatePresence status))

theorem made_of_ofPayload {p : Wire.Payload} {command : Command} (h : ofPayload p = .ok command) : Made p command := by
  have hscope : ∀ {text : String} {f : Scope → Command}, (do return f (← parseScope text)) = Except.ok command →
      ∃ scope, Scope.parse text = .ok scope ∧ f scope = command := by
    intro text f h
    cases hparse : Scope.parse text with
    | error e =>
      rw [parseScope, hparse] at h
      cases h
    | ok scope =>
      rw [parseScope, hparse] at h
      exact ⟨scope, rfl, Except.ok.inj h⟩
  have hmade : ∀ {α : Type} {x : Except CommandError α} {f : α → Command},
      (do return f (← x)) = Except.ok command → ∃ a, f a = command := by
    intro α x f h
    cases x with
    | error => cases h
    | ok a => exact ⟨a, Except.ok.inj h⟩
  cases p with
  | subscribe text events =>
    obtain ⟨scope, hparse, rfl⟩ := hscope h
    exact .subscribe text events scope hparse
  | unsubscribe text =>
    obtain ⟨scope, hparse, rfl⟩ := hscope h
    exact .unsubscribe text scope hparse
  | heartbeat lastSeq =>
    cases h
    exact .heartbeat lastSeq
  | sendMessage channel content =>
    obtain ⟨id, rfl⟩ := hmade h
    exact .sendMessage channel content id
  | startTyping channel =>
    obtain ⟨id, rfl⟩ := hmade h
    exact .startTyping channel id
  | updatePresence text =>
    obtain ⟨status, rfl⟩ := hmade h
    exact .updatePresence text status
  | _ => cases h

/-- A command has the name of the payload that it is made of. -/
theorem name_of_ofPayload {p : Wire.Payload} {command : Command} (h : ofPayload p = .ok command) :
    command.name = p.name := by
  cases made_of_ofPayload h <;> rfl

/-- The moves that a command takes its own session through when it is carried out; an action has none of its own. -/
def moves (now : Moment) : Command → List Session.Move
  | subscribe scope kinds => [.subscribe scope kinds, .push now.ticks (.subscribed scope.text kinds.bits)]
  | unsubscribe scope => [.unsubscribe scope, .push now.ticks (.unsubscribed scope.text)]
  | heartbeat _ => [.heartbeat now.ticks]
  | act _ => []

variable {now : Moment} {command : Command}

theorem isReport_moves : ∀ m ∈ command.moves now, m.isReport = false := by
  cases command <;> simp [moves, Session.Move.isReport]

theorem moves_quiet (a : Account) (s : Session) : a.moves s (command.moves now) = a := by
  cases command <;> rfl

end Command

namespace Router

/-- **What carrying out a command can do**, its answer and the registry after it: it fails, and no session notices; or
the registry changes and a reply follows; or events are published. -/
inductive Executed (handler : CommandHandler) (now : Moment) (s : Session) (r : Router) :
    Command → Except CommandError Unit → Registry → Prop where
  | refused (command : Command) (e : CommandError) (hcommand : ∀ action, command ≠ .act action) :
    Executed handler now s r command (.error e) r.registry
  | failed (action : Action) (e : CommandError) (r₁ : Router) (h : r.perform handler now s action = (.error e, r₁)) :
    Executed handler now s r (.act action) (.error e) r₁.registry
  | subscribed (scope : Scope) (kinds : EventKinds) (r₀ r₁ : Router) (changed : Bool) (h₀ : r₀.registry = r.registry)
    (h : r₀.subscribe s.id scope kinds = .ok (changed, r₁)) :
    Executed handler now s r (.subscribe scope kinds) (.ok ())
      (r₁.registry.changed s.id (·.push now.ticks (.subscribed scope.text kinds.bits)))
  | unsubscribed (scope : Scope) (r₁ : Router) (changed : Bool) (h : r.unsubscribe s.id scope = .ok (changed, r₁)) :
    Executed handler now s r (.unsubscribe scope) (.ok ())
      (r₁.registry.changed s.id (·.push now.ticks (.unsubscribed scope.text)))
  | heartbeat (lastSeq : UInt64) :
    Executed handler now s r (.heartbeat lastSeq) (.ok ())
      (r.registry.changed s.id (·.push now.ticks (.heartbeatAck s.sequence)))
  | acted (action : Action) (events : List Event) (r₁ : Router)
    (h : r.perform handler now s action = (.ok events, r₁)) :
    Executed handler now s r (.act action) (.ok ()) (r₁.publishAll now events).registry

theorem executed (handler : CommandHandler) (now : Moment) (s : Session) (command : Command) (r : Router) :
    Executed handler now s r command (r.execute handler now s command).1
      (r.execute handler now s command).2.registry := by
  cases command with
  | subscribe scope kinds =>
    simp only [execute]
    split
    · exact .refused _ _ (fun _ h => by cases h)
    · split
      · exact .refused _ _ (fun _ h => by cases h)
      · rename_i h
        rw [registry_reply]
        refine .subscribed scope kinds _ _ _ ?_ h
        rfl
  | unsubscribe scope =>
    simp only [execute]
    split
    · exact .refused _ _ (fun _ h => by cases h)
    · rename_i h
      rw [registry_reply]
      exact .unsubscribed scope _ _ h
  | heartbeat lastSeq =>
    simp only [execute]
    rw [registry_reply]
    exact .heartbeat lastSeq
  | act action =>
    simp only [execute]
    split <;> rename_i r₁ h
    · exact .failed action _ r₁ h
    · exact .acted action _ r₁ h

theorem registry_reportFailure (now : Moment) (id : SessionId) (command : String) (e : CommandError) (r : Router) :
    (r.reportFailure now id command e).registry =
      r.registry.changed id (·.push now.ticks (.error e.code e.message command)) := by
  unfold reportFailure
  rw [registry_reply]
  rfl

/-- **What submitting a command does to the registry.** -/
inductive Submitted (handler : CommandHandler) (now : Moment) (i : SessionId) (r : Router) (command : Command) :
    Registry → Prop where
  | unknown (h : r.registry.handle? i = none) : Submitted handler now i r command r.registry
  | reported (s : Session) (hs : r.registry.handle? i = some s) (e : CommandError) (registry : Registry)
    (h : Executed handler now s r command (.error e) registry) :
    Submitted handler now i r command
      (registry.changed i (·.push now.ticks (.error e.code e.message command.name)))
  | done (s : Session) (hs : r.registry.handle? i = some s) (registry : Registry)
    (h : Executed handler now s r command (.ok ()) registry) : Submitted handler now i r command registry

theorem submitted (handler : CommandHandler) (now : Moment) (i : SessionId) (command : Command) (r : Router) :
    Submitted handler now i r command (r.submit handler now i command).2.registry := by
  unfold submit
  split
  · rename_i h
    exact .unknown h
  · rename_i s hs
    have hexecuted := executed handler now s command r
    split <;> rename_i r₁ h
    · rw [h] at hexecuted
      exact .done s hs _ hexecuted
    · rw [h] at hexecuted
      dsimp only
      rw [registry_reportFailure]
      exact .reported s hs _ _ hexecuted

/-! ## The registry stays consistent -/

theorem consistent_withIds {r : Registry} (hr : r.Consistent) (ids : Generator) :
    Registry.Consistent { r with ids } :=
  ⟨hr.live_id, hr.live_released, hr.retired_id, hr.retired_released, hr.indexed⟩

theorem registry_perform {handler : CommandHandler} {now : Moment} {s : Session} {action : Action} {r r' : Router}
    {result : Except CommandError (List Event)} (h : r.perform handler now s action = (result, r')) :
    r'.registry = { r.registry with ids := r'.registry.ids } := by
  have hr' : r' = (r.perform handler now s action).2 := by rw [h]
  rw [hr']; rfl

theorem consistent_pushed {r : Registry} (hr : r.Consistent) (id : SessionId) (now : Nat) (p : Wire.Payload) :
    (r.changed id (·.push now p)).Consistent ∧ (r.changed id (·.push now p)).queue = r.queue :=
  ⟨hr.changed (fun s => s.sameStanding_push _ _), Registry.queue_changed⟩

/-! ## What operations keep -/

/-- **A property of registries that every operation keeps**, but for the one that lets a session in. -/
structure Kept (P : Registry → Prop) : Prop where
  changed : ∀ {α : Type} {r : Registry} {id : SessionId} {f : Session → α × Session},
    (∀ s : Session, s.SameStanding (f s).2) → P r → P (r.changed id f)
  destroy : ∀ {r r' : Registry} {id : SessionId} {s : Session}, r.destroy id = some (s, r') → P r → P r'
  subscribe : ∀ {r r' : Registry} {id : SessionId} {scope : Scope} {kinds : EventKinds} {changed : Bool},
    r.subscribe id scope kinds = .ok (changed, r') → P r → P r'
  unsubscribe : ∀ {r r' : Registry} {id : SessionId} {scope : Scope} {changed : Bool},
    r.unsubscribe id scope = .ok (changed, r') → P r → P r'
  withIds : ∀ {r : Registry} (ids : Generator), P r → P { r with ids }

namespace Kept

variable {P : Registry → Prop} {r : Router}

theorem pushed (hP : Kept P) {r : Registry} (id : SessionId) (now : Nat) (p : Wire.Payload) (hr : P r) :
    P (r.changed id (·.push now p)) :=
  hP.changed (fun s => s.sameStanding_push now p) hr

theorem publish (hP : Kept P) (now : Moment) (e : Event) (hr : P r.registry) : P (r.publish now e).2.registry :=
  fanOut_induction (fun _ id h => hP.pushed id now.ticks e.payload h) e.scopes hr

theorem publishAll (hP : Kept P) (now : Moment) : ∀ (es : List Event) {r : Router}, P r.registry →
    P (publishAll now es r).registry
  | [], _, hr => hr
  | e :: es, _, hr => hP.publishAll now es (hP.publish now e hr)

variable {handler : CommandHandler} {now : Moment} {command : Command} {registry : Registry}

theorem execute (hP : Kept P) {s : Session} {answer : Except CommandError Unit} (hr : P r.registry)
    (h : Executed handler now s r command answer registry) : P registry := by
  cases h with
  | refused => exact hr
  | failed action e r₁ h =>
    rw [registry_perform h]
    exact hP.withIds _ hr
  | subscribed scope kinds r₀ r₁ changed h₀ h => exact hP.pushed _ _ _ (hP.subscribe (subscribe_ok h) (h₀ ▸ hr))
  | unsubscribed scope r₁ changed h => exact hP.pushed _ _ _ (hP.unsubscribe (unsubscribe_ok h) hr)
  | heartbeat => exact hP.pushed _ _ _ hr
  | acted action events r₁ h =>
    refine hP.publishAll now events ?_
    rw [registry_perform h]
    exact hP.withIds _ hr

theorem submit (hP : Kept P) {i : SessionId} (hr : P r.registry) (h : Submitted handler now i r command registry) :
    P registry := by
  cases h with
  | unknown => exact hr
  | reported s hs e registry h => exact hP.pushed _ _ _ (hP.execute hr h)
  | done s hs registry h => exact hP.execute hr h

end Kept

theorem kept_consistent : Kept Registry.Consistent where
  changed hf hr := hr.changed hf
  destroy h hr := hr.destroy h
  subscribe h hr := hr.subscribe h
  unsubscribe h hr := hr.unsubscribe h
  withIds ids hr := consistent_withIds hr ids

/-- Sessions to come get the same queue. -/
theorem kept_queue (queue : QueueConfig) : Kept (·.queue = queue) where
  changed _ hr := Registry.queue_changed.trans hr
  destroy h hr := by
    obtain ⟨-, _, rfl⟩ := Registry.destroy_some h
    exact hr
  subscribe h hr := by
    obtain ⟨_, -, rfl⟩ := Registry.subscribe_ok h
    exact hr
  unsubscribe h hr := by
    obtain ⟨_, -, ⟨-, rfl⟩ | ⟨-, rfl⟩⟩ := Registry.unsubscribe_ok h <;> exact hr
  withIds _ hr := hr

theorem consistent_submit {r : Router} (hr : r.registry.Consistent) (handler : CommandHandler) (now : Moment)
    (i : SessionId) (command : Command) : (r.submit handler now i command).2.registry.Consistent :=
  kept_consistent.submit hr (submitted handler now i command r)

/-! ## Actions -/

section Actions

variable {handler : CommandHandler} {now : Moment} {i : SessionId} {r r₁ : Router} {s : Session} {action : Action}

/-- A command of somebody whom nobody knows is dropped. -/
theorem submit_of_handle?_eq_none (h : r.registry.handle? i = none) (command : Command) :
    (r.submit handler now i command).2 = r := by
  unfold submit
  rw [h]

/-- **An action that fails is reported**, and leaves nothing but the ids that were taken. -/
theorem submit_act_failed {e : CommandError} (hs : r.registry.handle? i = some s)
    (h : r.perform handler now s action = (.error e, r₁)) : r.submit handler now i (.act action) =
      (.error e, { r₁ with stats := r₁.stats.countCommand true }.reportFailure now i action.name e) := by
  simp only [submit, hs, execute, h]
  rfl

/-- **An action that is carried out is answered by nothing but the events that come of it.** -/
theorem submit_act_done {events : List Event} (hs : r.registry.handle? i = some s)
    (h : r.perform handler now s action = (.ok events, r₁)) : r.submit handler now i (.act action) =
      (.ok (), { r₁.publishAll now events with stats := (r₁.publishAll now events).stats.countCommand false }) := by
  simp only [submit, hs, execute, h]

end Actions

/-! ## Frames -/

section Frames

variable {handler : CommandHandler} {now : Moment} {i : SessionId} {p : Wire.Payload} {r : Router}

/-- A payload that makes a command is handled as that command. -/
theorem handle_of_ofPayload {command : Command} (h : Command.ofPayload p = .ok command) :
    r.handle handler now i p = r.submit handler now i command := by
  rw [handle, h]

/-- A payload that makes none is a failure of its own. -/
theorem handle_of_ofPayload_eq_error {e : CommandError} (h : Command.ofPayload p = .error e) :
    r.handle handler now i p = (.error e, r.reportFailure now i p.name e) := by
  rw [handle, h]

end Frames

end Router
end EventGateway
