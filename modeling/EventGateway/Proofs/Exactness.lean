import EventGateway.Proofs.Retirement
/-!
# Exactness — what a router keeps of its sessions, and what it keeps about them

Whatever a router does, its indexes go on saying what the live sessions say (`Sound.exact_run`): what moves a stream on
changes nothing that they speak of.  What is on record of a session are the `Terms` on which it came, which it keeps,
and whether it is gone; steps that ask for no session leave the record as it is, but for what they destroy
(`record?_run`).
-/
namespace EventGateway

namespace Session

/-- What a session was created for, and with. -/
structure Terms where
  identity : Identity
  connection : Connection
  capabilities : Wire.Capabilities

def terms (s : Session) : Terms := ⟨s.identity, s.connection, s.capabilities⟩

theorem SameStanding.terms_eq {s s' : Session} (h : s.SameStanding s') : s'.terms = s.terms := by rw [h]; rfl

/-- **No move changes the terms.** -/
theorem terms_move (s : Session) (m : Move) : (s.move m).terms = s.terms := by
  cases m with
  | offer now e =>
    rw [move, offer]
    split <;> rfl
  | drain => exact s.sameStanding_nextOutgoing.terms_eq
  | unsubscribe scope =>
    rw [move]
    split <;> rfl
  | _ => rfl

theorem terms_moves : ∀ (ms : List Move) (s : Session), (ms.foldl move s).terms = s.terms
  | [], _ => rfl
  | m :: ms, s => (terms_moves ms (s.move m)).trans (s.terms_move m)

theorem connection_moves (ms : List Move) (s : Session) : (ms.foldl move s).connection = s.connection :=
  congrArg Terms.connection (terms_moves ms s)

theorem released_moves : ∀ (ms : List Move) (s : Session), .retire ∉ ms → (ms.foldl move s).released = s.released
  | [], _, _ => rfl
  | m :: ms, s, h => by
    rw [List.mem_cons, not_or] at h
    exact (released_moves ms (s.move m) h.2).trans (s.released_move (Ne.symm h.1))

end Session

namespace Registry

/-- What is on record of a session: the terms on which it came, and whether it is gone. -/
def record? (r : Registry) (id : SessionId) : Option (Session.Terms × Bool) :=
  (r.handle? id).map fun s => (s.terms, s.released)

theorem record?_eq_some_iff {r : Registry} {id : SessionId} {t : Session.Terms} {gone : Bool} :
    r.record? id = some (t, gone) ↔ ∃ s, r.handle? id = some s ∧ s.terms = t ∧ s.released = gone := by
  rw [record?, Option.map_eq_some_iff]
  simp

/-- **A session is live exactly if it is on record and not gone.** -/
theorem Consistent.session?_eq_some_iff {r : Registry} (hr : r.Consistent) {id : SessionId} {s : Session} :
    r.session? id = some s ↔ r.handle? id = some s ∧ s.released = false := by
  refine ⟨fun h => ⟨handle?_of_session? h, hr.live_released h⟩, fun ⟨h, hreleased⟩ => ?_⟩
  cases hs : r.session? id with
  | some t => rw [← h, handle?_of_session? hs]
  | none =>
    rw [handle?_of_session?_eq_none hs] at h
    rw [hr.retired_released h] at hreleased
    cases hreleased

theorem byIdentity_put (r : Registry) (s : Session) : (r.put s).byIdentity = r.byIdentity := by
  unfold put; split <;> rfl

theorem byIdentity_changed {α : Type} {r : Registry} {id : SessionId} {f : Session → α × Session} :
    (r.changed id f).byIdentity = r.byIdentity := by
  cases h : r.handle? id with
  | none => rw [changed_of_handle?_eq_none h]
  | some s => rw [changed_of_handle? h, byIdentity_put]

namespace Exact

variable {r : Registry}

/-- **The indexes do not speak of the streams.** -/
theorem changed {α : Type} {id : SessionId} {f : Session → α × Session} (hr : r.Exact)
    (hf : ∀ s : Session, s.SameStanding (f s).2) : (r.changed id f).Exact := by
  have hhas : ∀ (p : Session → Prop), (∀ s s', s.SameStanding s' → (p s' ↔ p s)) →
      ∀ i, r.Has i p ↔ (r.changed id f).Has i p := by
    intro p hp i
    unfold Has
    rw [session?_changed hr.toConsistent hf]
    split
    · cases r.session? i with
      | none => simp
      | some s => simpa using (hp s (f s).2 (hf s)).symm
    · rfl
  refine ⟨hr.toConsistent.changed hf, fun c i => ?_, ?_, ?_, fun {i t} ht => ?_⟩
  · rw [byConnection_changed, hr.byConnection]
    exact hhas _ (fun s s' h => by rw [h]) i
  · rw [byIdentity_changed]
    exact hr.byIdentity.congr fun user i => hhas _ (fun s s' h => by rw [h]; rfl) i
  · rw [byScope_changed]
    exact hr.byScope.congr fun scope i => hhas _ (fun s s' h => by rw [h.subscriptions_eq]) i
  · cases hs : r.handle? id with
    | none =>
      rw [changed_of_handle?_eq_none hs] at ht
      exact hr.retired_subscriptions ht
    | some s =>
      have hid : (f s).2.id = id := (hf s).id_eq.trans (hr.handle_id hs)
      rw [changed_of_handle? hs, retired_put, hid] at ht
      split at ht
      · rename_i hi
        rw [handle?_of_session?_eq_none (hi.1 ▸ hi.2)] at hs
        rw [← Option.some.inj ht, (hf s).subscriptions_eq]
        exact hr.retired_subscriptions hs
      · exact hr.retired_subscriptions ht

end Exact

end Registry

namespace Router

/-! ## The indexes, from step to step -/

theorem kept_exact : Kept Registry.Exact where
  changed hf hr := hr.changed hf
  destroy h hr := hr.destroy h
  subscribe h hr := hr.subscribe h
  unsubscribe h hr := hr.unsubscribe h
  withIds ids hr := hr.withIds ids

section Sound

variable {queue : QueueConfig} {r : Router}

theorem Sound.exact_step (hr : r.Sound queue) (hexact : r.registry.Exact) (x : Step)
    (hfits : (r.step x).registry.ids.Fits) : (r.step x).registry.Exact :=
  kept_exact.step (fun h => hexact.create h (Registry.session?_eq_none_of_handle? (hr.issued.fresh h hfits))) hexact

/-- **The indexes are exact after every run.** -/
theorem Sound.exact_run {xs : List Step} (hr : r.Sound queue) (hexact : r.registry.Exact) (hdraws : ∀ x ∈ xs, x.Draws)
    (hfits : (r.run xs).registry.ids.Fits) : (r.run xs).registry.Exact := by
  induction xs generalizing r with
  | nil => exact hexact
  | cons x xs ih =>
    have hdraws' : ∀ y ∈ xs, y.Draws := fun y hy => hdraws y (List.mem_cons_of_mem _ hy)
    have hfits' : (r.step x).registry.ids.Fits := Generator.Fits.mono hfits (run_keeps xs hdraws').2
    exact ih (hr.step (hdraws x List.mem_cons_self)) (hr.exact_step hexact x hfits') hdraws' hfits

end Sound

/-! ## The record, from step to step -/

/-- Whether a step destroys the session, if it is live. -/
def Step.ends (id : SessionId) : Step → Bool
  | .destroy i => i == id
  | _ => false

theorem Step.Moves.retire_not_mem {id : SessionId} {x : Step} {ms : List Session.Move} (h : x.Moves id ms)
    (hx : x.ends id = false) : .retire ∉ ms := by
  cases h with
  | destroy => simp [Step.ends] at hx
  | _ => simp

section Record

variable {r : Router} {id : SessionId}

theorem record?_destroy (hr : r.registry.Consistent) : (r.step (.destroy id)).registry.record? id =
    (r.registry.record? id).map fun e => (e.1, true) := by
  unfold Registry.record?
  rw [Option.map_map]
  simp only [step]
  cases h : r.destroy id with
  | some sr =>
    rw [Option.elim_some, Registry.handle?_destroy (destroy_some h), if_pos rfl,
      Registry.handle?_of_session? (Registry.destroy_some (destroy_some h)).1]
    rfl
  | none =>
    -- It is not live, so it is gone already, if it was ever there.
    have hgone : r.registry.session? id = none := by
      cases hs : r.registry.session? id with
      | none => rfl
      | some s => rw [destroy, Registry.destroy_of_session? hs] at h; cases h
    rw [Option.elim_none, Registry.handle?_of_session?_eq_none hgone]
    cases hs : r.registry.retired[id]? with
    | none => rfl
    | some s => rw [Option.map_some, Option.map_some, hr.retired_released hs]; rfl

theorem record?_create {now : Moment} {connection : Connection} {identity : Identity} {capabilities : Wire.Capabilities}
    {s : Session} {r' : Router} (h : r.create now connection identity capabilities = .ok (s, r')) (id : SessionId) :
    r'.registry.record? id =
      if id = s.id then some (⟨identity, connection, capabilities⟩, false) else r.registry.record? id := by
  have hcreate := create_ok h
  obtain ⟨i, ids, hs, -⟩ := Registry.create_ok hcreate
  unfold Registry.record?
  rw [Registry.handle?_create hcreate]
  split
  · rw [Option.map_some, hs]; rfl
  · rfl

/-- **A step that asks for no session leaves the record as it is**, but for a session that it destroys. -/
theorem record?_step (hr : r.registry.Consistent) {x : Step} (hx : ∀ c, x.isFor c = false) (id : SessionId) :
    (r.step x).registry.record? id =
      if x.ends id then (r.registry.record? id).map (fun e => (e.1, true)) else r.registry.record? id := by
  cases hends : x.ends id with
  | true =>
    obtain rfl : x = .destroy id := by
      cases x with
      | destroy i => rw [eq_of_beq hends]
      | _ => cases hends
    exact record?_destroy hr
  | false =>
    obtain ⟨ms, hms, hundergoes⟩ := step_moves hr x id (begins_of_no_create hx)
    have hretire := hms.retire_not_mem hends
    unfold Registry.record?
    rw [hundergoes.handle?, Option.map_map]
    refine congrArg (Option.map · _) (funext fun s => ?_)
    exact Prod.ext (Session.terms_moves ms s) (Session.released_moves ms s hretire)

theorem record?_run : ∀ (xs : List Step) {r : Router}, r.registry.Consistent →
    (∀ x ∈ xs, ∀ c, x.isFor c = false) → ∀ id, (r.run xs).registry.record? id =
      if xs.any (·.ends id) then (r.registry.record? id).map (fun e => (e.1, true)) else r.registry.record? id
  | [], _, _, _, _ => rfl
  | x :: xs, r, hr, hxs, id => by
    have hrest := record?_run xs (consistent_step hr x).1 (fun y hy => hxs y (List.mem_cons_of_mem _ hy)) id
    rw [record?_step hr (hxs x List.mem_cons_self) id] at hrest
    refine hrest.trans ?_
    rw [List.any_cons]
    cases x.ends id <;> cases xs.any (·.ends id) <;> simp [Function.comp_def]

end Record

end Router
end EventGateway
