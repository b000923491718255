import EventGateway.Proofs.Commands
/-!
# Runs — a router, one whole operation after the other

`Step` has one constructor for each operation, and `step_moves` says once what a step does to any one session: it
begins it, or takes it through a few moves.  What holds of a session along every run is then shown one move at a time
(`run_invariant`).
-/
namespace EventGateway.Router

/-- One whole operation on a router and its sessions. -/
inductive Step where
  | create (now : Moment) (connection : Connection) (identity : Identity) (capabilities : Wire.Capabilities)
  | destroy (id : SessionId)
  | subscribe (id : SessionId) (scope : Scope) (kinds : EventKinds)
  | unsubscribe (id : SessionId) (scope : Scope)
  | publish (now : Moment) (e : Event)
  | enqueue (now : Moment) (id : SessionId) (p : Wire.Payload)
  | reply (now : Moment) (id : SessionId) (p : Wire.Payload)
  | close (id : SessionId) (code : CloseCode)
  | drain (id : SessionId)
  | submit (handler : CommandHandler) (now : Moment) (id : SessionId) (command : Command)

/-- The router after an operation; one that is refused leaves it as it was. -/
def step (r : Router) : Step → Router
  | .create now connection identity capabilities =>
    (r.create now connection identity capabilities).toOption.elim r (·.2)
  | .destroy id => (r.destroy id).elim r (·.2)
  | .subscribe id scope kinds => (r.subscribe id scope kinds).toOption.elim r (·.2)
  | .unsubscribe id scope => (r.unsubscribe id scope).toOption.elim r (·.2)
  | .publish now e => (r.publish now e).2
  | .enqueue now id p => (r.enqueue now id p).2
  | .reply now id p => (r.reply now id p).2
  | .close id code => (r.closeWith id code).2
  | .drain id => (r.nextOutgoing id).2
  | .submit handler now id command => (r.submit handler now id command).2

def run (r : Router) (steps : List Step) : Router := steps.foldl step r

/-! ## What a run does to one session's account -/

/-- Whether a step begins a session with this id. -/
def begins (r : Router) (id : SessionId) : Step → Bool
  | .create now connection identity capabilities =>
    (r.create now connection identity capabilities).toOption.any (·.1.id == id)
  | _ => false

/-- The events of a step that are pushed to a session and do not find it closing. -/
def pushed (r : Router) (id : SessionId) : Step → List Event
  | .publish now e => pushedOf now id [e] r
  | .submit handler now i (.act action) =>
    match r.registry.handle? i with
    | none => []
    | some s =>
      match r.perform handler now s action with
      | (.error _, _) => []
      | (.ok events, r) => pushedOf now id events r
  | _ => []

/-- What a step hands to the writer of a session. -/
def handed (r : Router) (id : SessionId) : Step → List Wire.Envelope
  | .drain i => if i = id then (r.nextOutgoing i).1.elim [] (·.envelopes) else []
  | _ => []

/-- The account after a step.  A session that begins has nothing on its account, whoever had its id before. -/
def record (r : Router) (id : SessionId) (x : Step) (a : Account) : Account :=
  if r.begins id x then .empty else ⟨a.pushed ++ r.pushed id x, a.sent ++ r.handed id x⟩

/-- The account of a session after a run. -/
def account (id : SessionId) : List Step → Router → Account → Account
  | [], _, a => a
  | x :: xs, r, a => account id xs (r.step x) (r.record id x a)

/-! ## Steps -/

/-- **The moves that a step can take one session through.**  A command that is carried out is two of them: what it
does, and the reply. -/
inductive Step.Moves (id : SessionId) : Step → List Session.Move → Prop where
  | untouched (x : Step) : Moves id x []
  | destroy : Moves id (.destroy id) [.retire]
  | subscribe (scope : Scope) (kinds : EventKinds) : Moves id (.subscribe id scope kinds) [.subscribe scope kinds]
  | unsubscribe (scope : Scope) : Moves id (.unsubscribe id scope) [.unsubscribe scope]
  | publish (now : Moment) (e : Event) : Moves id (.publish now e) [.offer now.ticks e]
  | enqueue (now : Moment) (p : Wire.Payload) : Moves id (.enqueue now id p) [.push now.ticks p]
  | reply (now : Moment) (p : Wire.Payload) : Moves id (.reply now id p) [.push now.ticks p]
  | close (code : CloseCode) : Moves id (.close id code) [.close code]
  | drain : Moves id (.drain id) [.drain]
  | failed (handler : CommandHandler) (now : Moment) (command : Command) (e : CommandError) :
    Moves id (.submit handler now id command) [.push now.ticks (.error e.code e.message command.name)]
  | subscribed (handler : CommandHandler) (now : Moment) (scope : Scope) (kinds : EventKinds) :
    Moves id (.submit handler now id (.subscribe scope kinds))
      [.subscribe scope kinds, .push now.ticks (.subscribed scope.text kinds.bits)]
  | unsubscribed (handler : CommandHandler) (now : Moment) (scope : Scope) :
    Moves id (.submit handler now id (.unsubscribe scope))
      [.unsubscribe scope, .push now.ticks (.unsubscribed scope.text)]
  | heartbeat (handler : CommandHandler) (now : Moment) (lastSeq : UInt64) :
    Moves id (.submit handler now id (.heartbeat lastSeq)) [.heartbeat now.ticks]
  | acted (handler : CommandHandler) (now : Moment) (i : SessionId) (action : Action) (events : List Event) :
    Moves id (.submit handler now i (.act action)) (events.map (.offer now.ticks))

/-- **What operations keep is kept by every step**, if it holds once a session is let in. -/
theorem Kept.step {P : Registry → Prop} (hP : Kept P) {r : Router} {x : Step}
    (hcreate : ∀ {now connection identity capabilities s},
      r.registry.create now connection identity capabilities = .ok (s, (r.step x).registry) → P (r.step x).registry)
    (hr : P r.registry) : P (r.step x).registry := by
  cases x with
  | create now connection identity capabilities =>
    simp only [Router.step] at hcreate ⊢
    cases h : r.create now connection identity capabilities with
    | error => exact hr
    | ok sr =>
      rw [h] at hcreate
      exact hcreate (create_ok h)
  | destroy i =>
    simp only [Router.step]
    cases h : r.destroy i with
    | none => exact hr
    | some sr => exact hP.destroy (destroy_some h) hr
  | subscribe i scope kinds =>
    simp only [Router.step]
    cases h : r.subscribe i scope kinds with
    | error => exact hr
    | ok cr => exact hP.subscribe (subscribe_ok h) hr
  | unsubscribe i scope =>
    simp only [Router.step]
    cases h : r.unsubscribe i scope with
    | error => exact hr
    | ok cr => exact hP.unsubscribe (unsubscribe_ok h) hr
  | publish now e => exact hP.publish now e hr
  | enqueue now i p =>
    simp only [Router.step, registry_enqueue]
    exact hP.pushed _ _ _ hr
  | reply now i p =>
    simp only [Router.step, registry_reply]
    exact hP.pushed _ _ _ hr
  | close i code =>
    simp only [Router.step, registry_closeWith]
    exact hP.changed (fun s => s.sameStanding_closeWith code) hr
  | drain i =>
    simp only [Router.step, registry_nextOutgoing]
    exact hP.changed (fun s => s.sameStanding_nextOutgoing) hr
  | submit handler now i command => exact hP.submit hr (submitted handler now i command r)

/-- **Every step keeps the registry consistent**, and sessions to come get the same queue. -/
theorem consistent_step {r : Router} (hr : r.registry.Consistent) (x : Step) :
    (r.step x).registry.Consistent ∧ (r.step x).registry.queue = r.registry.queue := by
  refine ⟨kept_consistent.step (fun h => hr.create h) hr, (kept_queue r.registry.queue).step (fun h => ?_) rfl⟩
  obtain ⟨_, _, _, hr'⟩ := Registry.create_ok h
  rw [hr']

/-- What a step does to the session `id`, its account included, if it takes it through the moves `ms`. -/
structure Undergoes (id : SessionId) (r : Router) (x : Step) (ms : List Session.Move) : Prop where
  handle? : (r.step x).registry.handle? id = (r.registry.handle? id).map (ms.foldl Session.move)
  account : ∀ (a : Account) (s : Session), r.registry.handle? id = some s →
    (⟨a.pushed ++ r.pushed id x, a.sent ++ r.handed id x⟩ : Account) = a.moves s ms

/-- A step that passes nothing between the router and the session, as its moves do not. -/
theorem undergoes_quiet {id : SessionId} {r : Router} {x : Step} {ms : List Session.Move}
    (hpushed : r.pushed id x = []) (hhanded : r.handed id x = []) (hquiet : ∀ (a : Account) s, a.moves s ms = a)
    (h : (r.step x).registry.handle? id = (r.registry.handle? id).map (ms.foldl Session.move)) :
    Undergoes id r x ms := by
  refine ⟨h, fun a s _ => ?_⟩
  rw [hpushed, hhanded, List.append_nil, List.append_nil, hquiet]

theorem undergoes_nil {id : SessionId} {r : Router} {x : Step} (hpushed : r.pushed id x = [])
    (hhanded : r.handed id x = []) (h : (r.step x).registry.handle? id = r.registry.handle? id) :
    Undergoes id r x [] :=
  undergoes_quiet hpushed hhanded (fun _ _ => rfl) (by rw [h]; exact (Option.map_id_apply).symm)

/-- A step that takes session `i` through some moves, and no other session through any. -/
theorem undergoes_at {id : SessionId} {r : Router} {x : Step} (i : SessionId) (ms : List Session.Move)
    (hx : id = i → Step.Moves id x ms) (hpushed : r.pushed id x = []) (hhanded : r.handed id x = [])
    (hquiet : ∀ (a : Account) s, a.moves s ms = a)
    (h : (r.step x).registry.handle? id =
      if id = i then (r.registry.handle? id).map (ms.foldl Session.move) else r.registry.handle? id) :
    ∃ ms, Step.Moves id x ms ∧ Undergoes id r x ms := by
  by_cases hid : id = i
  · exact ⟨ms, hx hid, undergoes_quiet hpushed hhanded hquiet (h.trans (if_pos hid))⟩
  · exact ⟨[], .untouched x, undergoes_nil hpushed hhanded (h.trans (if_neg hid))⟩

/-- Two moves of one session, one after the other. -/
theorem ite_map_map (c : Prop) [Decidable c] (m m' : Session.Move) (found : Option Session) :
    (if c then (if c then found.map (·.move m) else found).map (·.move m') else if c then found.map (·.move m) else
      found) = if c then found.map ([m, m'].foldl Session.move) else found := by
  by_cases h : c
  · simp only [if_pos h, Option.map_map]; rfl
  · simp only [if_neg h]

/-- A command that fails changes no session. -/
theorem Executed.handle?_of_error {handler : CommandHandler} {now : Moment} {s : Session} {r : Router}
    {command : Command} {e : CommandError} {registry : Registry}
    (h : Executed handler now s r command (.error e) registry) (id : SessionId) :
    registry.handle? id = r.registry.handle? id := by
  cases h with
  | refused => rfl
  | failed action e r₁ h => rw [registry_perform h]; rfl

/-- A command that is carried out takes its session through its moves. -/
theorem Step.Moves.ofCommand (handler : CommandHandler) (now : Moment) (i : SessionId) (command : Command) :
    Step.Moves i (.submit handler now i command) (command.moves now) := by
  cases command with
  | subscribe scope kinds => exact .subscribed handler now scope kinds
  | unsubscribe scope => exact .unsubscribed handler now scope
  | heartbeat lastSeq => exact .heartbeat handler now lastSeq
  | act action => exact .untouched _

/-- **What a command that is carried out does to the sessions**: its own one goes through a few moves, or all of them
are offered the events. -/
theorem Executed.handle?_of_ok {handler : CommandHandler} {now : Moment} {i : SessionId} {s : Session} {r : Router}
    {command : Command} {registry : Registry} (h : Executed handler now s r command (.ok ()) registry)
    (hr : r.registry.Consistent) (hs : r.registry.handle? i = some s) :
    ((∀ action, command ≠ .act action) ∧ ∀ id, registry.handle? id =
      if id = i then (r.registry.handle? id).map ((command.moves now).foldl Session.move)
      else r.registry.handle? id) ∨
    ∃ action events r₁, command = .act action ∧ r.perform handler now s action = (.ok events, r₁) ∧
      r₁.registry.Consistent ∧ r₁.registry.handle? = r.registry.handle? ∧
      registry = (r₁.publishAll now events).registry := by
  have hid : s.id = i := hr.handle_id hs
  cases h with
  | subscribed scope kinds r₀ r₁ changed h₀ h =>
    refine .inl ⟨(fun _ h => by cases h), fun id => ?_⟩
    rw [hid, handle?_pushed (Registry.Consistent.subscribe (h₀ ▸ hr) (subscribe_ok h)), handle?_subscribe h, h₀, hid]
    exact ite_map_map _ _ _ _
  | unsubscribed scope r₁ changed h =>
    refine .inl ⟨(fun _ h => by cases h), fun id => ?_⟩
    rw [hid, handle?_pushed (hr.unsubscribe (unsubscribe_ok h)), handle?_unsubscribe h, hid]
    exact ite_map_map _ _ _ _
  | heartbeat lastSeq =>
    refine .inl ⟨(fun _ h => by cases h), fun id => ?_⟩
    rw [hid, handle?_pushed hr]
    split
    · rename_i hi
      rw [hi, hs]; rfl
    · rfl
  | acted action events r₁ h =>
    have hr₁ := registry_perform h
    exact .inr ⟨action, events, r₁, rfl, h, hr₁ ▸ consistent_withIds hr _, by rw [hr₁]; rfl, rfl⟩

theorem submit_moves {r : Router} (hr : r.registry.Consistent) (handler : CommandHandler) (now : Moment)
    (i : SessionId) (command : Command) (id : SessionId) :
    ∃ ms, Step.Moves id (.submit handler now i command) ms ∧ Undergoes id r (.submit handler now i command) ms := by
  generalize hregistry : (r.submit handler now i command).2.registry = registry
  have hstep : (r.step (.submit handler now i command)).registry = registry := hregistry
  have hsubmitted : Submitted handler now i r command registry := hregistry ▸ submitted handler now i command r
  -- Only an action that is carried out pushes events.
  have hquiet : (∀ action, command ≠ .act action) → r.pushed id (.submit handler now i command) = [] := by
    intro hcommand
    cases command with
    | act action => exact absurd rfl (hcommand action)
    | _ => rfl
  cases hsubmitted with
  | unknown h =>
    refine ⟨[], .untouched _, undergoes_nil ?_ rfl (by rw [hstep])⟩
    cases command with
    | act action => simp only [pushed, h]
    | _ => rfl
  | reported s hs e registry h =>
    refine undergoes_at i [.push now.ticks (.error e.code e.message command.name)]
      (fun hid => hid ▸ .failed handler now command e) ?_ rfl (fun _ _ => rfl) ?_
    · cases h with
      | refused _ _ hcommand => exact hquiet hcommand
      | failed action e r₁ h => simp only [pushed, hs, h]
    · rw [hstep, handle?_pushed (kept_consistent.execute hr h), h.handle?_of_error]
      rfl
  | done s hs _ h =>
    rcases h.handle?_of_ok hr hs with ⟨hcommand, hhandle⟩ | ⟨action, events, r₁, rfl, hperform, hc, hsame, rfl⟩
    · exact undergoes_at i (command.moves now) (fun hid => hid ▸ Step.Moves.ofCommand handler now i command)
        (hquiet hcommand) rfl Command.moves_quiet (hstep ▸ hhandle id)
    · refine ⟨events.map (.offer now.ticks), .acted handler now i action events, ?_, fun a t ht => ?_⟩
      · rw [hstep, handle?_publishAll now id events hc, hsame]
      · rw [← pushedOf_eq_moves now id events a hc ((congrFun hsame id).trans ht)]
        simp only [pushed, handed, hs, hperform, List.append_nil]

/-- **What a step does to a session.**  Unless it begins the session, it takes it through a few moves. -/
theorem step_moves {r : Router} (hr : r.registry.Consistent) (x : Step) (id : SessionId) (hx : r.begins id x = false) :
    ∃ ms, x.Moves id ms ∧ Undergoes id r x ms := by
  cases x with
  | create now connection identity capabilities =>
    refine ⟨[], .untouched _, undergoes_nil rfl rfl ?_⟩
    simp only [begins, step] at hx ⊢
    cases h : r.create now connection identity capabilities with
    | error => rfl
    | ok sr =>
      rw [h] at hx
      have hid : id ≠ sr.1.id := fun he => by simp [Except.toOption, he] at hx
      exact (Registry.handle?_create (create_ok h) id).trans (if_neg hid)
  | destroy i =>
    cases h : r.destroy i with
    | none => exact ⟨[], .untouched _, undergoes_nil rfl rfl (by simp only [step, h]; rfl)⟩
    | some sr =>
      refine undergoes_at i [.retire] (fun hid => hid ▸ .destroy) rfl rfl (fun _ _ => rfl) ?_
      simp only [step, h]
      have hdestroy := destroy_some h
      refine (Registry.handle?_destroy hdestroy id).trans ?_
      split
      · rename_i hid
        rw [hid, Registry.handle?_of_session? (Registry.destroy_some hdestroy).1]; rfl
      · rfl
  | subscribe i scope kinds =>
    cases h : r.subscribe i scope kinds with
    | error => exact ⟨[], .untouched _, undergoes_nil rfl rfl (by simp only [step, h]; rfl)⟩
    | ok cr =>
      refine undergoes_at i [.subscribe scope kinds] (fun hid => hid ▸ .subscribe scope kinds) rfl rfl
        (fun _ _ => rfl) ?_
      simp only [step, h]
      exact handle?_subscribe h id
  | unsubscribe i scope =>
    cases h : r.unsubscribe i scope with
    | error => exact ⟨[], .untouched _, undergoes_nil rfl rfl (by simp only [step, h]; rfl)⟩
    | ok cr =>
      refine undergoes_at i [.unsubscribe scope] (fun hid => hid ▸ .unsubscribe scope) rfl rfl (fun _ _ => rfl) ?_
      simp only [step, h]
      exact handle?_unsubscribe h id
  | publish now e =>
    refine ⟨[.offer now.ticks e], .publish now e, handle?_publish now e hr id, fun a s hs => ?_⟩
    rw [show r.handed id (.publish now e) = [] from rfl, List.append_nil]
    exact pushedOf_eq_moves now id [e] a hr hs
  | enqueue now i p =>
    exact undergoes_at i [.push now.ticks p] (fun hid => hid ▸ .enqueue now p) rfl rfl (fun _ _ => rfl)
      (handle?_enqueue hr now i p id)
  | reply now i p =>
    exact undergoes_at i [.push now.ticks p] (fun hid => hid ▸ .reply now p) rfl rfl (fun _ _ => rfl)
      (handle?_reply hr now i p id)
  | close i code =>
    exact undergoes_at i [.close code] (fun hid => hid ▸ .close code) rfl rfl (fun _ _ => rfl)
      (handle?_closeWith hr i code id)
  | drain i =>
    by_cases hid : id = i
    · subst hid
      refine ⟨[.drain], .drain, (handle?_nextOutgoing hr id id).trans (if_pos rfl), fun a s hs => ?_⟩
      rw [handed, if_pos rfl, nextOutgoing_fst_of_handle? hs, show r.pushed id (.drain id) = [] from rfl,
        List.append_nil]
      rfl
    · exact ⟨[], .untouched _, undergoes_nil rfl (if_neg fun he => hid he.symm)
        ((handle?_nextOutgoing hr i id).trans (if_neg hid))⟩
  | submit handler now i command => exact submit_moves hr handler now i command id

/-! ## Runs -/

theorem consistent_run : ∀ (steps : List Step) {r : Router}, r.registry.Consistent →
    (r.run steps).registry.Consistent
  | [], _, hr => hr
  | x :: xs, _, hr => consistent_run xs (consistent_step hr x).1

theorem queue_run : ∀ (steps : List Step) {r : Router}, r.registry.Consistent →
    (r.run steps).registry.queue = r.registry.queue
  | [], _, _ => rfl
  | x :: xs, _, hr => (queue_run xs (consistent_step hr x).1).trans (consistent_step hr x).2

/-- A step that begins a session begins it with an empty queue, for whom it was asked for. -/
theorem handle?_step_of_begins {r : Router} {id : SessionId} {x : Step} (hx : r.begins id x = true) :
    ∃ now connection identity capabilities, x = .create now connection identity capabilities ∧
      (r.step x).registry.handle? id = some (.new now id connection identity capabilities r.registry.queue) := by
  cases x with
  | create now connection identity capabilities =>
    simp only [begins, step] at hx ⊢
    cases h : r.create now connection identity capabilities with
    | error => rw [h] at hx; cases hx
    | ok sr =>
      rw [h] at hx
      have hid : sr.1.id = id := by simpa [Except.toOption] using hx
      have hcreate := create_ok h
      obtain ⟨i, _, hs, -⟩ := Registry.create_ok hcreate
      have hi : i = id := by rw [← hid, hs]; rfl
      refine ⟨now, connection, identity, capabilities, rfl, ?_⟩
      rw [← hi, ← hs]
      refine (Registry.handle?_create hcreate i).trans (if_pos ?_)
      rw [hid, hi]
  | _ => cases hx

section Invariant

variable {P : Account → Session → Prop} {id : SessionId} {queue : QueueConfig}

theorem step_invariant (hnew : ∀ now connection identity capabilities,
      P .empty (.new now id connection identity capabilities queue))
    {r : Router} {a : Account} {x : Step} (hr : r.registry.Consistent) (hqueue : r.registry.queue = queue)
    (hmoves : ∀ ms, x.Moves id ms → ∀ a s, P a s → P (a.moves s ms) (ms.foldl Session.move s))
    (hP : ∀ s, r.registry.handle? id = some s → P a s) (s : Session)
    (hs : (r.step x).registry.handle? id = some s) : P (r.record id x a) s := by
  unfold record
  split
  · rename_i hx
    obtain ⟨now, connection, identity, capabilities, -, hnew'⟩ := handle?_step_of_begins hx
    rw [hs, hqueue] at hnew'
    rw [Option.some.inj hnew']
    exact hnew now connection identity capabilities
  · rename_i hx
    obtain ⟨ms, hms, hundergoes⟩ := step_moves hr x id (by simpa using hx)
    rw [hundergoes.handle?] at hs
    obtain ⟨t, ht, rfl⟩ := Option.map_eq_some_iff.1 hs
    rw [hundergoes.account a t ht]
    exact hmoves ms hms a t (hP t ht)

/-- **What a session begins with and every move keeps is so at every point of every run.** -/
theorem run_invariant (hnew : ∀ now connection identity capabilities,
      P .empty (.new now id connection identity capabilities queue)) :
    ∀ (steps : List Step) {r : Router} {a : Account}, r.registry.Consistent → r.registry.queue = queue →
      (∀ x ∈ steps, ∀ ms, x.Moves id ms → ∀ a s, P a s → P (a.moves s ms) (ms.foldl Session.move s)) →
      (∀ s, r.registry.handle? id = some s → P a s) →
      ∀ s, (r.run steps).registry.handle? id = some s → P (account id steps r a) s
  | [], _, _, _, _, _, hP => hP
  | x :: xs, r, a, hr, hqueue, hmoves, hP => by
    obtain ⟨hr', hqueue'⟩ := consistent_step hr x
    exact run_invariant hnew xs hr' (hqueue'.trans hqueue) (fun y hy => hmoves y (List.mem_cons_of_mem _ hy))
      (step_invariant hnew hr hqueue (hmoves x List.mem_cons_self) hP)

end Invariant

/-! ## Publishing after a run -/

/-- The answer to a publication is the number of reached sessions whose push found a place. -/
theorem fanOut_delivered (now : Moment) (e : Event) {scopes : List Scope} (hscopes : e.scopes ⊆ scopes) {r : Router}
    (hr : r.registry.Consistent) : (r.fanOut now e scopes).delivered = (r.fanOut now e scopes).reached.countP
      (fun id => (r.registry.session? id).any (fun s => (s.push now.ticks e.payload).1.isQueued)) := by
  obtain ⟨hprogress, -⟩ := fanOut_spec now e hscopes hr
  rw [Fanout.delivered, Fanout.reached, List.countP_map]
  refine List.countP_congr fun x hx => ?_
  obtain ⟨s, hs, hout⟩ := hprogress.outcome x hx
  simp [hs, hout]

/-- **Publishing reaches the right sessions, once each.**  After any run, an event is pushed once to each live session
whose capabilities allow it and whose filter of one of its scopes admits it, and no other session changes; the answer
is the number of those whose push found a place.  The order in which the scopes are visited makes no difference. -/
theorem publish_reaches_wanting (ids : Generator) (queue : QueueConfig) (steps : List Step) (now : Moment) (e : Event) :
    let r := (new ids queue).run steps
    let f := r.fanOut now e e.scopes
    let r' := (r.publish now e).2
    f.reached.Nodup ∧
    (∀ id, id ∈ f.reached ↔ ∃ s, r.registry.session? id = some s ∧ s.capabilities.allows e.kind = true ∧
      ∃ scope ∈ e.scopes, ∃ kinds, s.subscriptions[scope]? = some kinds ∧ kinds.admits e.kind = true) ∧
    (∀ id ∈ f.reached, r'.registry.session? id =
      (r.registry.session? id).map (fun s => (s.push now.ticks e.payload).2)) ∧
    (∀ id, id ∉ f.reached → r'.registry.handle? id = r.registry.handle? id) ∧
    (r.publish now e).1 = f.reached.countP
      (fun id => (r.registry.session? id).any (fun s => (s.push now.ticks e.payload).1.isQueued)) ∧
    ∀ scopes, scopes.Perm e.scopes → (r.fanOut now e scopes).reached.Perm f.reached ∧
      (r.fanOut now e scopes).delivered = (r.publish now e).1 ∧
      ∀ id, (r.fanOut now e scopes).router.registry.session? id = r'.registry.session? id := by
  intro r f r'
  have hr : r.registry.Consistent := consistent_run steps (Registry.consistent_new ids queue)
  obtain ⟨hprogress, hreached⟩ := fanOut_spec now e (List.Subset.refl e.scopes) hr
  have hdelivered := fanOut_delivered now e (List.Subset.refl e.scopes) hr
  refine ⟨hprogress.nodup, fun id => ?_, fun id hid => ?_, fun id hid => ?_, hdelivered, fun scopes hperm => ?_⟩
  · rw [hreached]
    constructor
    · rintro ⟨s, hs, hw⟩
      obtain ⟨hallows, -, hscope⟩ := s.wants_iff.1 hw
      exact ⟨s, hs, hallows, hscope⟩
    · rintro ⟨s, hs, hallows, hscope⟩
      exact ⟨s, hs, s.wants_iff.2 ⟨hallows, hr.live_released hs, hscope⟩⟩
  · exact (hprogress.session? id).trans (if_pos hid)
  · rw [handle?_publish now e hr]
    cases hs : r.registry.session? id with
    | some s =>
      have hw : ¬ s.wants e = true := fun hw => hid ((hreached id).2 ⟨s, hs, hw⟩)
      rw [Registry.handle?_of_session? hs, Option.map_some, Session.offer, if_neg hw]
    | none =>
      rw [Registry.handle?_of_session?_eq_none hs]
      cases hg : r.registry.retired[id]? with
      | none => rfl
      | some s => rw [Option.map_some, Session.offer_of_released (hr.retired_released hg)]
  · have hscopes : e.scopes ⊆ scopes := hperm.symm.subset
    obtain ⟨hprogress', hreached'⟩ := fanOut_spec now e hscopes hr
    have hsame : (r.fanOut now e scopes).reached.Perm f.reached :=
      (List.perm_ext_iff_of_nodup hprogress'.nodup hprogress.nodup).2
        (fun id => (hreached' id).trans (hreached id).symm)
    refine ⟨hsame, ?_, fun id => ?_⟩
    · rw [fanOut_delivered now e hscopes hr, hsame.countP_eq]
      exact hdelivered.symm
    · rw [session?_fanOut now e hscopes hr]
      exact (session?_fanOut now e (List.Subset.refl e.scopes) hr id).symm

/-- Two sessions follow a user and everyone's presence.  The first one's filters admit presence for everyone only, and
it gets the change of presence once; the second one's do not admit it, and it gets nothing. -/
theorem publish_reaches_wanting_once :
    let client (n : Nat) := Step.create ⟨0, 0⟩ ⟨n, .json, ⟨2, 0⟩⟩ ⟨⟨7⟩, "agent"⟩ .all
    let steps := [client 1, client 2, .subscribe ⟨4097⟩ (.user ⟨5⟩) .messages, .subscribe ⟨4097⟩ .presence .presence,
      .subscribe ⟨4098⟩ (.user ⟨5⟩) .messages, .subscribe ⟨4098⟩ .presence .typing]
    let r := (new ⟨1, 0, 0⟩ ⟨1, 1, .disconnect⟩).run steps
    let e := Event.presenceUpdated ⟨5⟩ .online
    [.presence, .user ⟨5⟩].Perm e.scopes ∧ (r.fanOut ⟨0, 0⟩ e e.scopes).reached = [⟨4097⟩] ∧
      (r.publish ⟨0, 0⟩ e).1 = 1 ∧ (r.fanOut ⟨0, 0⟩ e [.presence, .user ⟨5⟩]).delivered = 1 := by
  intro client steps r e
  have hperm : [.presence, .user ⟨5⟩].Perm e.scopes := .swap _ _ _
  have hreached : (r.fanOut ⟨0, 0⟩ e e.scopes).reached = [⟨4097⟩] := by decide +kernel
  have hanswer : (r.publish ⟨0, 0⟩ e).1 = 1 := by decide +kernel
  obtain ⟨-, -, -, -, -, horder⟩ :=
    publish_reaches_wanting ⟨1, 0, 0⟩ ⟨1, 1, .disconnect⟩ steps ⟨0, 0⟩ e
  exact ⟨hperm, hreached, hanswer, (horder _ hperm).2.1.trans hanswer⟩

end EventGateway.Router
