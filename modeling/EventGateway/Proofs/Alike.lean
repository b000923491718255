import EventGateway.Proofs.Indexes
import EventGateway.Proofs.Moves
/-!
# Alike — registries that differ in one session

Two registries are `Alike` but for one session if every other session is the same in both and sessions to come will be
as well.  Whatever happens to that one session leaves them alike (`Alike.touched_own`, `Alike.destroyed_own`), and so
does what happens in both of them (`Alike.touched`, `Alike.created`, `Alike.destroyed`).
-/
namespace EventGateway

namespace Registry

/-! ## Registries that differ in one session -/

/-- **Two registries that differ in one session only**, and in what its connection leads to. -/
structure Alike (a : SessionId) (r r' : Registry) : Prop where
  consistent : r.Consistent
  consistent' : r'.Consistent
  session? : ∀ i, i ≠ a → r.session? i = r'.session? i
  handle? : ∀ i, i ≠ a → r.handle? i = r'.handle? i
  connection : (r.handle? a).map (·.connection.id) = (r'.handle? a).map (·.connection.id)
  byConnection : ∀ c : ConnectionId, (∀ s, r.handle? a = some s → s.connection.id ≠ c) →
    r.byConnection[c]? = r'.byConnection[c]?
  ids : r.ids = r'.ids
  queue : r.queue = r'.queue

theorem Alike.refl (a : SessionId) {r : Registry} (hr : r.Consistent) : Alike a r r :=
  ⟨hr, hr, fun _ _ => rfl, fun _ _ => rfl, rfl, fun _ _ => rfl, rfl, rfl⟩

/-- The session `i` becomes what `g` makes of it, and nothing else changes but the index of scopes. -/
structure Touched (i : SessionId) (g : Session → Session) (r r' : Registry) : Prop where
  consistent : r'.Consistent
  session? : ∀ j, r'.session? j = if j = i then (r.session? j).map g else r.session? j
  handle? : ∀ j, r'.handle? j = if j = i then (r.handle? j).map g else r.handle? j
  connection : ∀ s : Session, (g s).connection = s.connection
  byConnection : r'.byConnection = r.byConnection
  ids : r'.ids = r.ids
  queue : r'.queue = r.queue

theorem Touched.connection_eq {i : SessionId} {g : Session → Session} {r r' : Registry} (h : Touched i g r r')
    (j : SessionId) : (r'.handle? j).map (·.connection.id) = (r.handle? j).map (·.connection.id) := by
  rw [h.handle?]
  split
  · cases r.handle? j with
    | none => rfl
    | some s => simp [h.connection s]
  · rfl

/-- Whose connection it is does not depend on what became of the session. -/
theorem owns_iff {r r' : Registry} {a : SessionId}
    (h : (r.handle? a).map (·.connection.id) = (r'.handle? a).map (·.connection.id)) (c : ConnectionId) :
    (∀ s, r.handle? a = some s → s.connection.id ≠ c) ↔ ∀ s, r'.handle? a = some s → s.connection.id ≠ c := by
  cases hr : r.handle? a <;> cases hr' : r'.handle? a <;> simp_all

/-- **What happens to the one session is nobody else's business.** -/
theorem Alike.touched_own {a : SessionId} {g : Session → Session} {r r₁ r' : Registry} (h : Alike a r r')
    (ht : Touched a g r r₁) : Alike a r₁ r' := by
  refine ⟨ht.consistent, h.consistent', fun i hi => ?_, fun i hi => ?_, (ht.connection_eq a).trans h.connection,
    fun c hc => ?_, ht.ids.trans h.ids, ht.queue.trans h.queue⟩
  · rw [ht.session?, if_neg hi, h.session? i hi]
  · rw [ht.handle?, if_neg hi, h.handle? i hi]
  · rw [ht.byConnection, h.byConnection c ((owns_iff (ht.connection_eq a) c).1 hc)]

theorem Alike.touched {a i : SessionId} {g : Session → Session} {r r₁ r' r₁' : Registry} (h : Alike a r r')
    (ht : Touched i g r r₁) (ht' : Touched i g r' r₁') : Alike a r₁ r₁' := by
  refine ⟨ht.consistent, ht'.consistent, fun j hj => ?_, fun j hj => ?_, ?_, fun c hc => ?_, ?_, ?_⟩
  · rw [ht.session?, ht'.session?, h.session? j hj]
  · rw [ht.handle?, ht'.handle?, h.handle? j hj]
  · exact (ht.connection_eq a).trans (h.connection.trans (ht'.connection_eq a).symm)
  · rw [ht.byConnection, ht'.byConnection, h.byConnection c ((owns_iff (ht.connection_eq a) c).1 hc)]
  · rw [ht.ids, ht'.ids, h.ids]
  · rw [ht.queue, ht'.queue, h.queue]

/-! ## What touches a session -/

theorem byConnection_put (r : Registry) (s : Session) : (r.put s).byConnection = r.byConnection := by
  unfold put; split <;> rfl

theorem ids_put (r : Registry) (s : Session) : (r.put s).ids = r.ids := by
  unfold put; split <;> rfl

theorem byConnection_changed {α : Type} {r : Registry} {i : SessionId} {f : Session → α × Session} :
    (r.changed i f).byConnection = r.byConnection := by
  cases h : r.handle? i with
  | none => rw [changed_of_handle?_eq_none h]
  | some s => rw [changed_of_handle? h, byConnection_put]

theorem ids_changed {α : Type} {r : Registry} {i : SessionId} {f : Session → α × Session} :
    (r.changed i f).ids = r.ids := by
  cases h : r.handle? i with
  | none => rw [changed_of_handle?_eq_none h]
  | some s => rw [changed_of_handle? h, ids_put]

theorem touched_changed {α : Type} {r : Registry} (hr : r.Consistent) (i : SessionId) {f : Session → α × Session}
    (hf : ∀ s : Session, s.SameStanding (f s).2) : Touched i (fun s => (f s).2) r (r.changed i f) :=
  ⟨hr.changed hf, session?_changed hr hf, handle?_changed hr hf, fun s => by rw [hf s], byConnection_changed,
    ids_changed, queue_changed⟩

theorem touched_push {r : Registry} (hr : r.Consistent) (i : SessionId) (now : Nat) (p : Wire.Payload) :
    Touched i (·.move (.push now p)) r (r.changed i (·.push now p)) :=
  touched_changed hr i (fun s => s.sameStanding_push now p)

/-- Putting a live session back with other subscriptions. -/
theorem touched_resubscribed {r : Registry} {i : SessionId} {s : Session} (hs : r.session? i = some s)
    (g : Session → Session) (hg : ∀ s : Session, (g s).connection = s.connection) {byScope : SessionIndex Scope}
    (hconsistent : Consistent { r with sessions := r.sessions.insert i (g s), byScope }) :
    Touched i g r { r with sessions := r.sessions.insert i (g s), byScope } := by
  refine ⟨hconsistent, fun j => ?_, fun j => ?_, hg, rfl, rfl, rfl⟩
  · show (r.sessions.insert i (g s))[j]? = _
    rw [getElem?_insert_eq]
    split
    · rename_i hj
      rw [hj, hs]; rfl
    · rfl
  · refine (@handle?_of_insert r { r with sessions := r.sessions.insert i (g s), byScope } i (g s) rfl rfl j).trans ?_
    split
    · rename_i hj
      rw [hj, handle?_of_session? hs]; rfl
    · rfl

theorem subscribe_of_session? {r : Registry} (hr : r.Consistent) {i : SessionId} {s : Session}
    (hs : r.session? i = some s) (scope : Scope) (kinds : EventKinds) : ∃ r',
      r.subscribe i scope kinds = .ok (decide (s.subscriptions[scope]? ≠ some kinds), r') ∧
        Touched i (·.move (.subscribe scope kinds)) r r' := by
  have hlive : ¬ s.released = true := by simp [hr.live_released hs]
  have h : r.subscribe i scope kinds = .ok (decide (s.subscriptions[scope]? ≠ some kinds), { r with
      sessions := r.sessions.insert i (s.move (.subscribe scope kinds))
      byScope := r.byScope.add scope i }) := by
    rw [Registry.subscribe, hs]
    exact if_neg hlive
  exact ⟨_, h, touched_resubscribed hs (·.move (.subscribe scope kinds)) (fun _ => rfl) (hr.subscribe h)⟩

theorem touched_of_subscribe {r r' : Registry} (hr : r.Consistent) {i : SessionId} {scope : Scope}
    {kinds : EventKinds} {changed : Bool} (h : r.subscribe i scope kinds = .ok (changed, r')) :
    Touched i (·.move (.subscribe scope kinds)) r r' := by
  obtain ⟨s, hs, -⟩ := subscribe_ok h
  obtain ⟨r₁, h₁, ht⟩ := subscribe_of_session? hr hs scope kinds
  rw [h] at h₁
  cases h₁
  exact ht

theorem subscribe_of_session?_eq_none {r : Registry} {i : SessionId} (hs : r.session? i = none) (scope : Scope)
    (kinds : EventKinds) : r.subscribe i scope kinds = .error (.sessionNotFound i) := by
  rw [Registry.subscribe, hs]

theorem unsubscribe_of_session? {r : Registry} (hr : r.Consistent) {i : SessionId} {s : Session}
    (hs : r.session? i = some s) (scope : Scope) : ∃ r',
      r.unsubscribe i scope = .ok (s.subscriptions.contains scope, r') ∧
        Touched i (·.move (.unsubscribe scope)) r r' := by
  have hlive : ¬ s.released = true := by simp [hr.live_released hs]
  have hconnection : ∀ s : Session, (s.move (.unsubscribe scope)).connection = s.connection := fun s => by
    rw [Session.move]; split <;> rfl
  cases hscope : s.subscriptions.contains scope with
  | true =>
    have hmove : s.move (.unsubscribe scope) = { s with subscriptions := s.subscriptions.erase scope } :=
      if_pos hscope
    have h : r.unsubscribe i scope = .ok (true, { r with
        sessions := r.sessions.insert i (s.move (.unsubscribe scope))
        byScope := r.byScope.remove scope i }) := by
      rw [Registry.unsubscribe, hs, hmove]
      exact (if_neg hlive).trans (if_pos hscope)
    exact ⟨_, h, touched_resubscribed hs (·.move (.unsubscribe scope)) hconnection (hr.unsubscribe h)⟩
  | false =>
    have h : r.unsubscribe i scope = .ok (false, r) := by
      rw [Registry.unsubscribe, hs]
      exact (if_neg hlive).trans (if_neg (by simp [hscope]))
    have hmove : s.move (.unsubscribe scope) = s := if_neg (by simp [hscope])
    refine ⟨r, h, hr, fun j => ?_, fun j => ?_, hconnection, rfl, rfl, rfl⟩
    · split
      · rename_i hj
        rw [hj, hs, Option.map_some, hmove]
      · rfl
    · split
      · rename_i hj
        rw [hj, handle?_of_session? hs, Option.map_some, hmove]
      · rfl

theorem touched_of_unsubscribe {r r' : Registry} (hr : r.Consistent) {i : SessionId} {scope : Scope} {changed : Bool}
    (h : r.unsubscribe i scope = .ok (changed, r')) : Touched i (·.move (.unsubscribe scope)) r r' := by
  obtain ⟨s, hs, -⟩ := unsubscribe_ok h
  obtain ⟨r₁, h₁, ht⟩ := unsubscribe_of_session? hr hs scope
  rw [h] at h₁
  cases h₁
  exact ht

theorem unsubscribe_of_session?_eq_none {r : Registry} {i : SessionId} (hs : r.session? i = none) (scope : Scope) :
    r.unsubscribe i scope = .error (.sessionNotFound i) := by
  rw [Registry.unsubscribe, hs]

/-! ## Coming and going -/

theorem create_of_free {r : Registry} {connection : Connection} (h : r.byConnection[connection.id]? = none)
    (now : Moment) (identity : Identity) (capabilities : Wire.Capabilities) : ∃ r',
      r.create now connection identity capabilities =
        .ok (.new now (r.ids.next now.age).1 connection identity capabilities r.queue, r') := by
  rw [Registry.create, if_neg]
  · exact ⟨_, rfl⟩
  · rw [Std.ExtTreeMap.contains_eq_isSome_getElem?, h]
    simp

theorem create_of_taken {r : Registry} {connection : Connection} {i : SessionId}
    (h : r.byConnection[connection.id]? = some i) (now : Moment) (identity : Identity)
    (capabilities : Wire.Capabilities) :
    r.create now connection identity capabilities = .error (.duplicateConnection connection.id) := by
  rw [Registry.create, if_pos]
  rw [Std.ExtTreeMap.contains_eq_isSome_getElem?, h]
  rfl

theorem byConnection_create {now : Moment} {connection : Connection} {identity : Identity}
    {capabilities : Wire.Capabilities} {r r' : Registry} {s : Session}
    (h : r.create now connection identity capabilities = .ok (s, r')) :
    r'.byConnection = r.byConnection.insert connection.id s.id ∧ r'.queue = r.queue := by
  obtain ⟨id, ids, rfl, rfl⟩ := create_ok h
  exact ⟨rfl, rfl⟩

theorem session?_create {now : Moment} {connection : Connection} {identity : Identity}
    {capabilities : Wire.Capabilities} {r r' : Registry} {s : Session}
    (h : r.create now connection identity capabilities = .ok (s, r')) (i : SessionId) :
    r'.session? i = if i = s.id then some s else r.session? i := by
  rw [session?, sessions_create h, getElem?_insert_eq]
  rfl

/-- A session that begins in both registries, be it the one in which they differ. -/
theorem Alike.created {a : SessionId} {r r' r₁ r₁' : Registry} (h : Alike a r r') {now : Moment}
    {connection : Connection} {identity : Identity} {capabilities : Wire.Capabilities} {s : Session}
    (hs : r.create now connection identity capabilities = .ok (s, r₁))
    (hs' : r'.create now connection identity capabilities = .ok (s, r₁'))
    (hnew : s.id = a → r.handle? a = none) : Alike a r₁ r₁' := by
  obtain ⟨hc, hqueue⟩ := byConnection_create hs
  obtain ⟨hc', hqueue'⟩ := byConnection_create hs'
  refine ⟨h.consistent.create hs, h.consistent'.create hs', fun i hi => ?_, fun i hi => ?_, ?_, fun c hown => ?_, ?_,
    hqueue.trans (h.queue.trans hqueue'.symm)⟩
  · rw [session?_create hs, session?_create hs', h.session? i hi]
  · rw [handle?_create hs, handle?_create hs', h.handle? i hi]
  · rw [handle?_create hs, handle?_create hs']
    by_cases hid : a = s.id
    · rw [if_pos hid, if_pos hid]
    · rw [if_neg hid, if_neg hid, h.connection]
  · rw [hc, hc', getElem?_insert_eq, getElem?_insert_eq]
    refine ite_congr rfl (fun _ => rfl) (fun _ => h.byConnection c fun t ht => ?_)
    by_cases hid : s.id = a
    · rw [hnew hid] at ht; cases ht
    · refine hown t ?_
      rw [handle?_create hs, if_neg (Ne.symm hid), ht]
  · obtain ⟨-, -, hids⟩ := create_grants hs
    obtain ⟨-, -, hids'⟩ := create_grants hs'
    rw [hids, hids', h.ids]

theorem getElem?_byConnection_destroy {i : SessionId} {r r₁ : Registry} {s : Session}
    (h : r.destroy i = some (s, r₁)) (c : ConnectionId) : r₁.byConnection[c]? =
      if c = s.connection.id ∧ r.byConnection[c]? = some i then none else r.byConnection[c]? := by
  rw [byConnection_destroy h]
  by_cases howner : r.byConnection[s.connection.id]? = some i
  · rw [if_pos howner, getElem?_erase_eq]
    by_cases hc : c = s.connection.id
    · rw [if_pos hc, if_pos ⟨hc, hc ▸ howner⟩]
    · rw [if_neg hc, if_neg (fun hb => hc hb.1)]
  · rw [if_neg howner, if_neg]
    rintro ⟨rfl, hb⟩
    exact howner hb

theorem ids_destroy {i : SessionId} {r r₁ : Registry} {s : Session} (h : r.destroy i = some (s, r₁)) :
    r₁.ids = r.ids ∧ r₁.queue = r.queue := by
  obtain ⟨-, _, rfl⟩ := destroy_some h
  exact ⟨rfl, rfl⟩

theorem session?_destroy {i : SessionId} {r r₁ : Registry} {s : Session} (h : r.destroy i = some (s, r₁))
    (j : SessionId) : r₁.session? j = if j = i then none else r.session? j := by
  rw [session?, sessions_destroy h, getElem?_erase_eq]
  rfl

theorem connection_destroy {i : SessionId} {r r₁ : Registry} {s : Session} (h : r.destroy i = some (s, r₁))
    (j : SessionId) : (r₁.handle? j).map (·.connection.id) = (r.handle? j).map (·.connection.id) := by
  rw [handle?_destroy h]
  split
  · rename_i hj
    rw [hj, handle?_of_session? (destroy_some h).1]; rfl
  · rfl

theorem Alike.destroyed_own {a : SessionId} {r r' r₁ : Registry} (h : Alike a r r') {s : Session}
    (hs : r.destroy a = some (s, r₁)) : Alike a r₁ r' := by
  obtain ⟨hids, hqueue⟩ := ids_destroy hs
  refine ⟨h.consistent.destroy hs, h.consistent', fun i hi => ?_, fun i hi => ?_,
    (connection_destroy hs a).trans h.connection, fun c hc => ?_, hids.trans h.ids, hqueue.trans h.queue⟩
  · rw [session?_destroy hs, if_neg hi, h.session? i hi]
  · rw [handle?_destroy hs, if_neg hi, h.handle? i hi]
  · -- Only the entry of its own connection has gone.
    have howned := (owns_iff (connection_destroy hs a) c).1 hc
    have hne : c ≠ s.connection.id := (howned s (handle?_of_session? (destroy_some hs).1)).symm
    rw [getElem?_byConnection_destroy hs, if_neg (fun hb => hne hb.1), h.byConnection c howned]

theorem Alike.destroyed {a i : SessionId} {r r' r₁ r₁' : Registry} (h : Alike a r r') {s : Session}
    (hs : r.destroy i = some (s, r₁)) (hs' : r'.destroy i = some (s, r₁')) : Alike a r₁ r₁' := by
  obtain ⟨hids, hqueue⟩ := ids_destroy hs
  obtain ⟨hids', hqueue'⟩ := ids_destroy hs'
  refine ⟨h.consistent.destroy hs, h.consistent'.destroy hs', fun j hj => ?_, fun j hj => ?_, ?_, fun c hc => ?_,
    hids.trans (h.ids.trans hids'.symm), hqueue.trans (h.queue.trans hqueue'.symm)⟩
  · rw [session?_destroy hs, session?_destroy hs', h.session? j hj]
  · rw [handle?_destroy hs, handle?_destroy hs', h.handle? j hj]
  · rw [connection_destroy hs, connection_destroy hs', h.connection]
  · rw [getElem?_byConnection_destroy hs, getElem?_byConnection_destroy hs',
      h.byConnection c ((owns_iff (connection_destroy hs a) c).1 hc)]

end Registry
end EventGateway
