import EventGateway.Proofs.Indexes
import EventGateway.Proofs.Isolation
/-!
# Freshness — no session is given the id of another one

The generator is shared with whoever carries out the commands, who takes ids from it and does nothing else to it
(`Collaborator`).  So along every run the ids that are known have been issued, and a session that begins gets one that
is not known yet (`Sound.fresh`), until the clock of the generator has outgrown the bits that an id has for it.
-/
namespace EventGateway

namespace Generator

/-- **A generator from which some ids have been taken**, or none. -/
inductive Drawn (g : Generator) : Generator → Prop where
  | nothing : Drawn g g
  | next (now : Int) {g' : Generator} (h : Drawn g g') : Drawn g (g'.next now).2

theorem Drawn.time_le {g g' : Generator} (h : g.Drawn g') : g.time ≤ g'.time := by
  induction h with
  | nothing => exact Nat.le_refl _
  | next now _ ih => exact Nat.le_trans ih (time_le_next now _)

theorem HasIssued.drawn {g g' : Generator} {id : Snowflake} (h : g.HasIssued id) (hdrawn : g.Drawn g') :
    g'.HasIssued id := by
  induction hdrawn with
  | nothing => exact h
  | next now _ ih => exact ih.next now

end Generator

/-- A handler that leaves the generator to others as it should. -/
structure Collaborator extends CommandHandler where
  draws : ∀ (now : Moment) (ids : Generator) (who : Identity) (action : Action),
    ids.Drawn (execute now ids who action).2

namespace LocalChannels

theorem execute_draws (c : LocalChannels) (now : Moment) (ids : Generator) (who : Identity) (action : Action) :
    ids.Drawn (c.execute now ids who action).2 := by
  cases action with
  | sendMessage channel content =>
    simp only [execute]
    split
    · exact .nothing
    · exact .next now.age .nothing
  | startTyping channel => exact .nothing
  | updatePresence status => exact .nothing

def collaborator (c : LocalChannels) : Collaborator := ⟨c.handler, c.execute_draws⟩

end LocalChannels

namespace Registry

/-- A connection that has a session. -/
def Holds (r : Registry) (c : ConnectionId) : Prop := r.byConnection[c]? ≠ none

end Registry

namespace Router

/-- Whoever carries out a command takes ids and does nothing else to the generator. -/
def Step.Draws : Step → Prop
  | .submit handler .. => ∀ (now : Moment) (ids : Generator) (who : Identity) (action : Action),
    ids.Drawn (handler.execute now ids who action).2
  | _ => True

/-- Whether a session is asked for, and for this connection. -/
def Step.isFor (c : ConnectionId) : Step → Bool
  | .create _ connection .. => connection.id == c
  | _ => false

/-! ## What a step leaves to the next one -/

theorem publishAll_keeps (now : Moment) : ∀ (es : List Event) (r : Router),
    (publishAll now es r).registry.byConnection = r.registry.byConnection ∧
      (publishAll now es r).registry.ids = r.registry.ids
  | [], _ => ⟨rfl, rfl⟩
  | e :: es, r => by
    obtain ⟨hconnection, hids⟩ := publish_keeps now e r
    obtain ⟨hconnection', hids'⟩ := publishAll_keeps now es (r.publish now e).2
    exact ⟨hconnection'.trans hconnection, hids'.trans hids⟩

theorem Executed.keeps {handler : CommandHandler} {now : Moment} {s : Session} {r : Router} {command : Command}
    {answer : Except CommandError Unit} {registry : Registry}
    (hdraws : ∀ (now : Moment) (ids : Generator) (who : Identity) (action : Action),
      ids.Drawn (handler.execute now ids who action).2)
    (h : Executed handler now s r command answer registry) :
    registry.byConnection = r.registry.byConnection ∧ r.registry.ids.Drawn registry.ids := by
  have hperform : ∀ {action result r₁}, r.perform handler now s action = (result, r₁) →
      r₁.registry.byConnection = r.registry.byConnection ∧ r.registry.ids.Drawn r₁.registry.ids := by
    intro action result r₁ h
    have hids : r₁.registry.ids = (handler.execute now r.registry.ids s.identity action).2 := by
      rw [show r₁ = (r.perform handler now s action).2 by rw [h]]
      rfl
    rw [registry_perform h, hids]
    exact ⟨rfl, hdraws ..⟩
  cases h with
  | refused => exact ⟨rfl, .nothing⟩
  | failed action e r₁ h => exact hperform h
  | subscribed scope kinds r₀ r₁ changed h₀ h =>
    obtain ⟨_, _, hr₁⟩ := Registry.subscribe_ok (subscribe_ok h)
    rw [Registry.byConnection_changed, Registry.ids_changed, hr₁, h₀]
    exact ⟨rfl, .nothing⟩
  | unsubscribed scope r₁ changed h =>
    rw [Registry.byConnection_changed, Registry.ids_changed]
    obtain ⟨_, _, ⟨_, hr₁⟩ | ⟨_, hr₁⟩⟩ := Registry.unsubscribe_ok (unsubscribe_ok h) <;> rw [hr₁] <;>
      exact ⟨rfl, .nothing⟩
  | heartbeat =>
    rw [Registry.byConnection_changed, Registry.ids_changed]
    exact ⟨rfl, .nothing⟩
  | acted action events r₁ h =>
    obtain ⟨hconnection, hids⟩ := publishAll_keeps now events r₁
    rw [hconnection, hids]
    exact hperform h

theorem submit_keeps {handler : CommandHandler} {now : Moment} {id : SessionId} {command : Command}
    (hdraws : (Step.submit handler now id command).Draws) (r : Router) :
    (r.submit handler now id command).2.registry.byConnection = r.registry.byConnection ∧
      r.registry.ids.Drawn (r.submit handler now id command).2.registry.ids := by
  generalize hregistry : (r.submit handler now id command).2.registry = registry
  have hsubmitted : Submitted handler now id r command registry := hregistry ▸ submitted handler now id command r
  cases hsubmitted with
  | unknown => exact ⟨rfl, .nothing⟩
  | reported s hs e registry h =>
    rw [Registry.byConnection_changed, Registry.ids_changed]
    exact h.keeps hdraws
  | done s hs registry h => exact h.keeps hdraws

theorem create_keeps {r : Router} {now : Moment} {connection : Connection} {identity : Identity}
    {capabilities : Wire.Capabilities} {s : Session} {r' : Router}
    (h : r.create now connection identity capabilities = .ok (s, r')) :
    (∀ c, r'.registry.Holds c → r.registry.Holds c ∨ connection.id = c) ∧ r.registry.ids.Drawn r'.registry.ids := by
  obtain ⟨-, -, hids⟩ := Registry.create_grants (create_ok h)
  obtain ⟨id, ids, -, hr'⟩ := Registry.create_ok (create_ok h)
  refine ⟨fun c hc => ?_, by rw [hids]; exact .next _ .nothing⟩
  by_cases hfor : connection.id = c
  · exact .inr hfor
  · left
    rw [Registry.Holds, hr', getElem?_insert_eq, if_neg (Ne.symm hfor)] at hc
    exact hc

theorem destroy_keeps {r : Router} {id : SessionId} {s : Session} {r' : Router} (h : r.destroy id = some (s, r')) :
    (∀ c, r'.registry.Holds c → r.registry.Holds c) ∧ r.registry.ids.Drawn r'.registry.ids := by
  obtain ⟨_, _, hr'⟩ := Registry.destroy_some (destroy_some h)
  have hids : r'.registry.ids = r.registry.ids := by rw [hr']
  refine ⟨fun c hc => ?_, by rw [hids]; exact .nothing⟩
  rw [Registry.Holds, Registry.byConnection_destroy (destroy_some h)] at hc
  split at hc
  · rw [getElem?_erase_eq] at hc
    split at hc
    · exact absurd rfl hc
    · exact hc
  · exact hc

/-- **A connection has a session only if it had one before or is given one, and ids are only taken.** -/
theorem step_keeps {r : Router} {x : Step} (hx : x.Draws) :
    (∀ c, (r.step x).registry.Holds c → r.registry.Holds c ∨ x.isFor c = true) ∧
      r.registry.ids.Drawn (r.step x).registry.ids := by
  have hsame : ∀ {r' : Registry}, r'.byConnection = r.registry.byConnection ∧ r.registry.ids.Drawn r'.ids →
      (∀ c, r'.Holds c → r.registry.Holds c ∨ x.isFor c = true) ∧ r.registry.ids.Drawn r'.ids := fun h =>
    ⟨fun c hc => .inl (by rwa [Registry.Holds, h.1] at hc), h.2⟩
  have hchanged : ∀ {α : Type} (id : SessionId) (f : Session → α × Session),
      (∀ c, (r.registry.changed id f).Holds c → r.registry.Holds c ∨ x.isFor c = true) ∧
        r.registry.ids.Drawn (r.registry.changed id f).ids := fun id f =>
    hsame ⟨Registry.byConnection_changed, by rw [Registry.ids_changed]; exact .nothing⟩
  cases x with
  | create now connection identity capabilities =>
    simp only [step]
    cases h : r.create now connection identity capabilities with
    | error => exact hsame ⟨rfl, .nothing⟩
    | ok sr =>
      obtain ⟨hheld, hdrawn⟩ := create_keeps h
      exact ⟨fun c hc => (hheld c hc).imp_right fun hfor => by simp [Step.isFor, hfor], hdrawn⟩
  | destroy id =>
    simp only [step]
    cases h : r.destroy id with
    | none => exact hsame ⟨rfl, .nothing⟩
    | some sr =>
      obtain ⟨hheld, hdrawn⟩ := destroy_keeps h
      exact ⟨fun c hc => .inl (hheld c hc), hdrawn⟩
  | subscribe id scope kinds =>
    simp only [step]
    cases h : r.subscribe id scope kinds with
    | error => exact hsame ⟨rfl, .nothing⟩
    | ok cr =>
      obtain ⟨_, _, hr'⟩ := Registry.subscribe_ok (subscribe_ok h)
      refine @hsame cr.2.registry ?_
      rw [hr']
      exact ⟨rfl, .nothing⟩
  | unsubscribe id scope =>
    simp only [step]
    cases h : r.unsubscribe id scope with
    | error => exact hsame ⟨rfl, .nothing⟩
    | ok cr =>
      refine @hsame cr.2.registry ?_
      obtain ⟨_, _, ⟨_, hr'⟩ | ⟨_, hr'⟩⟩ := Registry.unsubscribe_ok (unsubscribe_ok h) <;> rw [hr'] <;>
        exact ⟨rfl, .nothing⟩
  | publish now e =>
    obtain ⟨hconnection, hids⟩ := publish_keeps now e r
    exact hsame ⟨hconnection, hids ▸ .nothing⟩
  | enqueue now id p =>
    simp only [step, registry_enqueue]
    exact hchanged ..
  | reply now id p =>
    simp only [step, registry_reply]
    exact hchanged ..
  | close id code =>
    simp only [step, registry_closeWith]
    exact hchanged ..
  | drain id =>
    simp only [step, registry_nextOutgoing]
    exact hchanged ..
  | submit handler now id command => exact hsame (submit_keeps hx r)

/-! ## Sound routers -/

/-- **What every run of a router keeps**, if ids are only taken: the registry is consistent, its ids were issued, and
sessions to come get the queue of the settings. -/
structure Sound (queue : QueueConfig) (r : Router) : Prop where
  consistent : r.registry.Consistent
  issued : r.registry.Issued
  queue_eq : r.registry.queue = queue

theorem sound_new (ids : Generator) (queue : QueueConfig) : (new ids queue).Sound queue :=
  ⟨Registry.consistent_new ids queue, Registry.issued_new ids queue, rfl⟩

variable {queue : QueueConfig}

theorem Sound.of_registry {r r' : Router} (hr : r.Sound queue) (h : r'.registry = r.registry) : r'.Sound queue :=
  ⟨h ▸ hr.consistent, h ▸ hr.issued, h ▸ hr.queue_eq⟩

theorem Sound.step {r : Router} (hr : r.Sound queue) {x : Step} (hx : x.Draws) : (r.step x).Sound queue := by
  obtain ⟨hconsistent, hqueue⟩ := consistent_step hr.consistent x
  obtain ⟨-, hdrawn⟩ := step_keeps (r := r) hx
  refine ⟨hconsistent, fun id hknown => ?_, hqueue.trans hr.queue_eq⟩
  cases hbegins : r.begins id x with
  | true =>
    -- The session has just been given the id.
    cases x with
    | create now connection identity capabilities =>
      simp only [begins, Router.step] at hbegins ⊢
      cases h : r.create now connection identity capabilities with
      | error => rw [h] at hbegins; cases hbegins
      | ok sr =>
        rw [h] at hbegins
        have hid : sr.1.id = id := by simpa [Except.toOption] using hbegins
        obtain ⟨-, hissued, hids⟩ := Registry.create_grants (create_ok h)
        show sr.2.registry.ids.HasIssued id
        rw [← hid, hissued, hids]
        exact Generator.hasIssued_next _ _
    | _ => cases hbegins
  | false =>
    obtain ⟨ms, -, hundergoes⟩ := step_moves hr.consistent x id hbegins
    refine (hr.issued id fun hnone => hknown ?_).drawn hdrawn
    rw [hundergoes.handle?, hnone]
    rfl

/-- **Nobody is known by the id of a session that begins.** -/
theorem Sound.fresh {r : Router} (hr : r.Sound queue) {x : Step} {id : SessionId} (hbegins : r.begins id x = true)
    (hfits : (r.step x).registry.ids.Fits) : r.registry.handle? id = none := by
  cases x with
  | create now connection identity capabilities =>
    simp only [begins, Router.step] at hbegins hfits
    cases h : r.create now connection identity capabilities with
    | error => rw [h] at hbegins; cases hbegins
    | ok sr =>
      rw [h] at hbegins hfits
      have hid : sr.1.id = id := by simpa [Except.toOption] using hbegins
      rw [← hid]
      exact hr.issued.fresh (create_ok h) hfits
  | _ => cases hbegins

/-! ## Sessions of which a step is not one -/

/-- **A step that is not one of a session itself only offers it events.** -/
theorem Step.Moves.isOffer {id : SessionId} {x : Step} {ms : List Session.Move} (h : x.Moves id ms)
    (hx : x.isOf id = false) : ∀ m ∈ ms, m.isOffer = true := by
  cases h with
  | untouched => exact fun _ h => by cases h
  | publish => exact fun m hm => by rw [List.mem_singleton.1 hm]; rfl
  | acted _ now _ _ events => exact Session.Move.isOffer_offers now.ticks events
  | _ => simp [Step.isOf] at hx

/-! ## Some steps in a row -/

theorem Sound.run : ∀ (xs : List Step) {r : Router}, r.Sound queue → (∀ x ∈ xs, x.Draws) → (r.run xs).Sound queue
  | [], _, hr, _ => hr
  | x :: xs, _, hr, h => Sound.run xs (hr.step (h x List.mem_cons_self)) (fun y hy => h y (List.mem_cons_of_mem _ hy))

theorem run_keeps : ∀ (xs : List Step) {r : Router}, (∀ x ∈ xs, x.Draws) →
    (∀ c, (r.run xs).registry.Holds c → r.registry.Holds c ∨ ∃ x ∈ xs, x.isFor c = true) ∧
      r.registry.ids.time ≤ (r.run xs).registry.ids.time
  | [], _, _ => ⟨fun _ h => .inl h, Nat.le_refl _⟩
  | x :: xs, r, h => by
    obtain ⟨hholds, hdrawn⟩ := step_keeps (r := r) (h x List.mem_cons_self)
    obtain ⟨hholds', htime⟩ := run_keeps xs (r := r.step x) (fun y hy => h y (List.mem_cons_of_mem _ hy))
    refine ⟨fun c hc => ?_, Nat.le_trans hdrawn.time_le htime⟩
    rcases hholds' c hc with hc | ⟨y, hy, hfor⟩
    · rcases hholds c hc with hc | hfor
      · exact .inl hc
      · exact .inr ⟨x, List.mem_cons_self, hfor⟩
    · exact .inr ⟨y, List.mem_cons_of_mem _ hy, hfor⟩

/-- **A session that is known undergoes each step of a run**: nobody takes its id. -/
theorem Sound.moves {r : Router} (hr : r.Sound queue) {x : Step} {id : SessionId} {s : Session}
    (hs : r.registry.handle? id = some s) (hfits : (r.step x).registry.ids.Fits) :
    ∃ ms, x.Moves id ms ∧ (r.step x).registry.handle? id = some (ms.foldl Session.move s) := by
  have hbegins : r.begins id x = false := by
    refine Bool.eq_false_iff.2 fun hbegins => ?_
    rw [hr.fresh hbegins hfits] at hs
    cases hs
  obtain ⟨ms, hms, hundergoes⟩ := step_moves hr.consistent x id hbegins
  exact ⟨ms, hms, by rw [hundergoes.handle?, hs]; rfl⟩

/-- **Steps of others only offer events to a session.** -/
theorem Sound.offered {xs : List Step} {r : Router} {id : SessionId} {s : Session} (hr : r.Sound queue)
    (hdraws : ∀ x ∈ xs, x.Draws) (hothers : ∀ x ∈ xs, x.isOf id = false) (hfits : (r.run xs).registry.ids.Fits)
    (hs : r.registry.handle? id = some s) : ∃ ms : List Session.Move, (∀ m ∈ ms, m.isOffer = true) ∧
      (r.run xs).registry.handle? id = some (ms.foldl Session.move s) := by
  induction xs generalizing r s with
  | nil => exact ⟨[], by simp, hs⟩
  | cons x xs ih =>
    have hdraws' : ∀ y ∈ xs, y.Draws := fun y hy => hdraws y (List.mem_cons_of_mem _ hy)
    have hfits' : (r.step x).registry.ids.Fits := Generator.Fits.mono hfits (run_keeps xs hdraws').2
    obtain ⟨ms, hms, hs'⟩ := hr.moves hs hfits'
    obtain ⟨ms', hms', hs''⟩ := ih (hr.step (hdraws x List.mem_cons_self)) hdraws'
      (fun y hy => hothers y (List.mem_cons_of_mem _ hy)) hfits hs'
    refine ⟨ms ++ ms', fun m hm => ?_, by rw [List.foldl_append]; exact hs''⟩
    rcases List.mem_append.1 hm with hm | hm
    · exact hms.isOffer (hothers x List.mem_cons_self) m hm
    · exact hms' m hm

end Router
end EventGateway
