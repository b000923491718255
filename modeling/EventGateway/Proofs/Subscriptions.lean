import EventGateway.Proofs.Resubscription
import EventGateway.Proofs.Retirement
/-!
# Subscriptions — a map from sessions and scopes to filters

To a registry, subscribing and unsubscribing are one thing: a `Change` asks that a session has some filter for a scope,
or none.  A change for a live session that finds what it asks for does nothing, and any other one is written
(`Consistent.change_of_session?`).  Writing is altering three tables at one key each, so that whatever is written at two
different places can be written in either order (`write_comm`).
-/
namespace EventGateway

open Std (ExtTreeMap ExtTreeSet TransOrd LawfulEqOrd)

section Tables

variable {κ V : Type} [DecidableEq κ] [Ord κ] [TransOrd κ] [LawfulEqOrd κ]

theorem getElem?_alter_eq (m : ExtTreeMap κ V) (k i : κ) (f : Option V → Option V) :
    (m.alter k f)[i]? = if i = k then f m[i]? else m[i]? := by
  rw [ExtTreeMap.getElem?_alter]
  simp only [Std.LawfulEqCmp.compare_eq_iff_eq, @eq_comm _ k i]
  split
  · rename_i hi
    rw [hi]
  · rfl

/-- Two keys can be altered in either order; and so can a single one, if it makes no difference to its value. -/
theorem alter_comm (m : ExtTreeMap κ V) {i k : κ} {f g : Option V → Option V}
    (h : i = k → ∀ found, g (f found) = f (g found)) : (m.alter i f).alter k g = (m.alter k g).alter i f := by
  refine ExtTreeMap.ext_getElem? fun j => ?_
  simp only [getElem?_alter_eq]
  by_cases hi : j = i <;> by_cases hi' : j = k
  · rw [if_pos hi, if_pos hi', if_pos hi, if_pos hi', h (hi.symm.trans hi')]
  · rw [if_neg hi', if_pos hi, if_pos hi, if_neg hi']
  · rw [if_pos hi', if_neg hi, if_neg hi, if_pos hi']
  · rw [if_neg hi', if_neg hi, if_neg hi, if_neg hi']

theorem insert_eq_alter (m : ExtTreeMap κ V) (k : κ) (v : V) : m.insert k v = m.alter k fun _ => some v :=
  ExtTreeMap.ext_getElem? fun i => by rw [getElem?_insert_eq, getElem?_alter_eq]

theorem erase_eq_alter (m : ExtTreeMap κ V) (k : κ) : m.erase k = m.alter k fun _ => none :=
  ExtTreeMap.ext_getElem? fun i => by rw [getElem?_erase_eq, getElem?_alter_eq]

end Tables

namespace SessionIndex

/-- The set of sessions with one of them put in, or taken out. -/
def placed (id : SessionId) (belongs : Bool) (ids : ExtTreeSet SessionId) : ExtTreeSet SessionId :=
  if belongs then ids.insert id else ids.erase id

theorem mem_placed {id j : SessionId} {belongs : Bool} {ids : ExtTreeSet SessionId} :
    j ∈ placed id belongs ids ↔ if id = j then belongs = true else j ∈ ids := by
  cases belongs <;> by_cases h : id = j <;> simp [placed, h, Std.LawfulEqCmp.compare_eq_iff_eq]

theorem placed_comm {i j : SessionId} (h : i ≠ j) (b c : Bool) (ids : ExtTreeSet SessionId) :
    placed j c (placed i b ids) = placed i b (placed j c ids) := by
  refine ExtTreeSet.ext_mem fun k => ?_
  simp only [mem_placed]
  by_cases hi : i = k
  · rw [if_neg fun hj => h (hi.trans hj.symm)]
    simp only [if_pos hi]
  · simp only [if_neg hi]

/-- What stands in the index for these sessions: a key to which none belongs is not there. -/
def entry (ids : ExtTreeSet SessionId) : Option (ExtTreeSet SessionId) := if ids.isEmpty then none else some ids

theorem getD_entry (ids : ExtTreeSet SessionId) : (entry ids).getD ∅ = ids := by
  unfold entry
  split
  · rename_i h
    exact (ExtTreeSet.isEmpty_iff.1 h).symm
  · rfl

theorem entry_insert (id : SessionId) (ids : ExtTreeSet SessionId) : entry (ids.insert id) = some (ids.insert id) :=
  if_neg fun h => ExtTreeSet.not_mem_empty (ExtTreeSet.isEmpty_iff.1 h ▸ ExtTreeSet.mem_insert_self)

variable {κ : Type} [Ord κ] [TransOrd κ]

/-- Whether a session belongs to a key. -/
def write (index : SessionIndex κ) (key : κ) (id : SessionId) (belongs : Bool) : SessionIndex κ :=
  index.alter key fun found => entry (placed id belongs (found.getD ∅))

theorem add_eq_write (index : SessionIndex κ) (key : κ) (id : SessionId) :
    index.add key id = index.write key id true := by
  refine congrArg (index.alter key) (funext fun found => ?_)
  rw [placed, if_pos rfl, entry_insert]

theorem remove_eq_write (index : SessionIndex κ) (key : κ) (id : SessionId) :
    index.remove key id = index.write key id false := by
  refine congrArg (index.alter key) (funext fun found => ?_)
  cases found with
  | some ids => rfl
  | none =>
    have hempty : placed id false ∅ = ∅ := ExtTreeSet.ext_mem fun j => by simp [placed]
    rw [Option.getD_none, hempty]
    rfl

theorem write_comm [DecidableEq κ] [LawfulEqOrd κ] (index : SessionIndex κ) {key key' : κ} {id id' : SessionId}
    (h : (id, key) ≠ (id', key')) (b c : Bool) :
    (index.write key id b).write key' id' c = (index.write key' id' c).write key id b := by
  refine alter_comm index fun hkey found => ?_
  have hid : id ≠ id' := fun hid => h (by rw [hid, hkey])
  rw [getD_entry, getD_entry, placed_comm hid]

end SessionIndex

/-- The session with another filter for a scope, or with none. -/
def Session.write (s : Session) (scope : Scope) (kinds? : Option EventKinds) : Session :=
  { s with subscriptions := s.subscriptions.alter scope fun _ => kinds? }

theorem Session.write_comm (s : Session) {scope scope' : Scope} (h : scope ≠ scope')
    (kinds? kinds?' : Option EventKinds) :
    (s.write scope kinds?).write scope' kinds?' = (s.write scope' kinds?').write scope kinds? := by
  unfold write
  exact congrArg (fun subscriptions => { s with subscriptions })
    (alter_comm s.subscriptions fun hscope => absurd hscope h)

namespace Registry

/-- What a session asks for at one of its scopes: a filter, or to hear no more. -/
structure Change where
  session : SessionId
  scope : Scope
  kinds? : Option EventKinds

namespace Change

/-- Where a change is made. -/
def place (c : Change) : SessionId × Scope := (c.session, c.scope)

def op (c : Change) : Op :=
  match c.kinds? with
  | some kinds => .subscribe c.session c.scope kinds
  | none => .unsubscribe c.session c.scope

end Change

def change (c : Change) (r : Registry) : Except ConnectionError (Bool × Registry) :=
  match c.kinds? with
  | some kinds => r.subscribe c.session c.scope kinds
  | none => r.unsubscribe c.session c.scope

/-- What a change is answered. -/
def answer (r : Registry) (c : Change) : Except ConnectionError Bool := (r.change c).map (·.1)

theorem step_op (r : Registry) (c : Change) : r.step c.op = (r.change c).toOption.elim r (·.2) := by
  rcases c with ⟨id, scope, _ | kinds⟩ <;> rfl

theorem Consistent.step_op {r : Registry} (hr : r.Consistent) (c : Change) : (r.step c.op).Consistent := by
  rcases c with ⟨id, scope, _ | kinds⟩
  · show ((r.unsubscribe id scope).toOption.elim r (·.2)).Consistent
    cases h : r.unsubscribe id scope with
    | error => exact hr
    | ok answered => exact hr.unsubscribe h
  · show ((r.subscribe id scope kinds).toOption.elim r (·.2)).Consistent
    cases h : r.subscribe id scope kinds with
    | error => exact hr
    | ok answered => exact hr.subscribe h

/-! ## Writing -/

/-- **What a session asks for is written**, into what it is subscribed to and into the index. -/
def write (r : Registry) (c : Change) : Registry :=
  { r with
    sessions := r.sessions.alter c.session (Option.map (·.write c.scope c.kinds?))
    byScope := r.byScope.write c.scope c.session c.kinds?.isSome }

/-- **What is written at different places can be written in either order.** -/
theorem write_comm (r : Registry) {c d : Change} (h : c.place ≠ d.place) :
    (r.write c).write d = (r.write d).write c := by
  have hsessions := alter_comm r.sessions (f := Option.map (·.write c.scope c.kinds?))
    (g := Option.map (·.write d.scope d.kinds?)) (i := c.session) (k := d.session) fun hsession found => by
      have hscope : c.scope ≠ d.scope := fun hscope => h (Prod.ext hsession hscope)
      rw [Option.map_map, Option.map_map]
      exact congrArg (Option.map · found) (funext fun s => s.write_comm hscope c.kinds? d.kinds?)
  have hindex := r.byScope.write_comm h c.kinds?.isSome d.kinds?.isSome
  unfold write
  rw [hsessions, hindex]

section Change

variable {r : Registry} {c d : Change} {s : Session}

theorem session?_write (r : Registry) (c : Change) (i : SessionId) : (r.write c).session? i =
    if i = c.session then (r.session? i).map (·.write c.scope c.kinds?) else r.session? i :=
  getElem?_alter_eq _ _ _ _

theorem session?_write_eq_none {i : SessionId} : (r.write c).session? i = none ↔ r.session? i = none := by
  rw [session?_write]
  split
  · exact Option.map_eq_none_iff
  · exact Iff.rfl

/-- **A live session has what is written**, and everything else is as it was. -/
theorem filter?_write (hs : r.session? c.session = some s) (i : SessionId) (scope : Scope) :
    (r.write c).filter? i scope = if (i, scope) = c.place then c.kinds? else r.filter? i scope := by
  rw [filter?, filter?, session?_write]
  by_cases hi : i = c.session
  · rw [if_pos hi, hi, hs]
    show (s.subscriptions.alter c.scope _)[scope]? = _
    rw [getElem?_alter_eq]
    simp [Change.place]
  · rw [if_neg hi, if_neg fun h => hi (congrArg Prod.fst h)]

/-! ## Changes -/

theorem sessions_write (hs : r.session? s.id = some s) (scope : Scope) (kinds? : Option EventKinds) :
    r.sessions.insert s.id (s.write scope kinds?) = r.sessions.alter s.id (Option.map (·.write scope kinds?)) := by
  refine ExtTreeMap.ext_getElem? fun i => ?_
  rw [getElem?_insert_eq, getElem?_alter_eq]
  split
  · rename_i hi
    rw [hi, show r.sessions[s.id]? = some s from hs]
    rfl
  · rfl

theorem subscribedTo_eq_write (hs : r.session? s.id = some s) (scope : Scope) (kinds : EventKinds) :
    r.subscribedTo s scope kinds = r.write ⟨s.id, scope, some kinds⟩ := by
  rw [subscribedTo, SessionIndex.add_eq_write, Session.subscribedTo, insert_eq_alter s.subscriptions]
  exact congrArg (fun sessions => { r with sessions, byScope := r.byScope.write scope s.id true })
    (sessions_write hs scope (some kinds))

theorem without_eq_write (hs : r.session? s.id = some s) (scope : Scope) :
    r.without s scope = r.write ⟨s.id, scope, none⟩ := by
  rw [without, SessionIndex.remove_eq_write, Session.without, erase_eq_alter]
  exact congrArg (fun sessions => { r with sessions, byScope := r.byScope.write scope s.id false })
    (sessions_write hs scope none)

theorem Consistent.unsubscribe_of_not_mem (hr : r.Consistent) (hs : r.session? s.id = some s) {scope : Scope}
    (hscope : scope ∉ s.subscriptions) : r.unsubscribe s.id scope = .ok (false, r) := by
  rw [Registry.unsubscribe, hs]
  exact (if_neg (by rw [hr.live_released hs]; exact Bool.false_ne_true)).trans
    (if_neg fun h => hscope (ExtTreeMap.contains_iff_mem.1 h))

/-- **A change for a live session that finds what it asks for does nothing, and any other one is written.** -/
theorem Consistent.change_of_session? (hr : r.Consistent) (hs : r.session? c.session = some s) :
    r.change c = if r.filter? c.session c.scope = c.kinds? then .ok (false, r) else .ok (true, r.write c) := by
  have hfilter : r.filter? c.session c.scope = s.subscriptions[c.scope]? := by
    rw [filter?, hs]
    rfl
  obtain ⟨id, scope, kinds?⟩ := c
  obtain rfl : s.id = id := hr.live_id hs
  rw [hfilter]
  split <;> rename_i hkinds
  · cases kinds? with
    | some kinds => exact hr.subscribe_again hs hkinds
    | none => exact hr.unsubscribe_of_not_mem hs fun hmem =>
        Option.isSome_iff_ne_none.1 (ExtTreeMap.mem_iff_isSome_getElem?.1 hmem) hkinds
  · cases kinds? with
    | some kinds =>
      refine (hr.subscribe_of_session? hs scope kinds).trans ?_
      rw [subscribedTo_eq_write hs, decide_eq_true hkinds]
    | none =>
      rw [← without_eq_write hs]
      exact hr.unsubscribe_of_mem hs (ExtTreeMap.mem_iff_isSome_getElem?.2 (Option.isSome_iff_ne_none.2 hkinds))

theorem change_of_session?_eq_none (hs : r.session? c.session = none) :
    r.change c = .error (.sessionNotFound c.session) := by
  rcases c with ⟨id, scope, _ | kinds⟩
  · exact unsubscribe_of_session?_eq_none hs scope
  · exact subscribe_of_session?_eq_none hs scope kinds

/-- Whether a change makes a difference. -/
def Alters (r : Registry) (c : Change) : Prop := r.session? c.session ≠ none ∧ r.filter? c.session c.scope ≠ c.kinds?

theorem Consistent.step_of_alters (hr : r.Consistent) (h : r.Alters c) : r.step c.op = r.write c := by
  obtain ⟨s, hs⟩ := Option.ne_none_iff_exists'.1 h.1
  rw [Registry.step_op, hr.change_of_session? hs, if_neg h.2]
  rfl

theorem Consistent.step_of_not_alters (hr : r.Consistent) (h : ¬ r.Alters c) : r.step c.op = r := by
  rw [Registry.step_op]
  cases hs : r.session? c.session with
  | none =>
    rw [change_of_session?_eq_none hs]
    rfl
  | some s =>
    have hfilter : r.filter? c.session c.scope = c.kinds? := Classical.not_not.1 fun hne => h ⟨by simp [hs], hne⟩
    rw [hr.change_of_session? hs, if_pos hfilter]
    rfl

/-- A change says whether it makes a difference, unless there is nobody to make it for. -/
theorem Consistent.answer_eq (hr : r.Consistent) (c : Change) : r.answer c =
    if r.session? c.session = none then .error (.sessionNotFound c.session)
    else .ok (r.filter? c.session c.scope ≠ c.kinds?) := by
  unfold answer
  split <;> rename_i hs
  · rw [change_of_session?_eq_none hs]
    rfl
  · obtain ⟨s, hs⟩ := Option.ne_none_iff_exists'.1 hs
    rw [hr.change_of_session? hs]
    split <;> rename_i hfilter <;> simp [Except.map, hfilter]

/-! ## Two changes -/

/-- A change does not touch what stands at another place. -/
theorem Consistent.unmoved (hr : r.Consistent) (h : c.place ≠ d.place) :
    ((r.step c.op).session? d.session = none ↔ r.session? d.session = none) ∧
      (r.step c.op).filter? d.session d.scope = r.filter? d.session d.scope := by
  by_cases hc : r.Alters c
  · obtain ⟨s, hs⟩ := Option.ne_none_iff_exists'.1 hc.1
    rw [hr.step_of_alters hc, filter?_write hs, show (d.session, d.scope) = d.place from rfl, if_neg (Ne.symm h)]
    exact ⟨session?_write_eq_none, rfl⟩
  · rw [hr.step_of_not_alters hc]
    exact ⟨Iff.rfl, rfl⟩

/-- **Changes at different places do not get into each other's way**: neither is answered otherwise, and in both orders
the same registry comes out. -/
theorem Consistent.change_comm (hr : r.Consistent) (h : c.place ≠ d.place) :
    (r.step c.op).answer d = r.answer d ∧ (r.step c.op).step d.op = (r.step d.op).step c.op := by
  have hunmoved := hr.unmoved h
  have hunmoved' := hr.unmoved (Ne.symm h)
  have hd : (r.step c.op).Alters d ↔ r.Alters d := by rw [Alters, Alters, hunmoved.2, Ne, Ne, hunmoved.1]
  have hc : (r.step d.op).Alters c ↔ r.Alters c := by rw [Alters, Alters, hunmoved'.2, Ne, Ne, hunmoved'.1]
  refine ⟨by rw [(hr.step_op c).answer_eq, hr.answer_eq, hunmoved.2]; simp only [hunmoved.1], ?_⟩
  by_cases hac : r.Alters c <;> by_cases had : r.Alters d
  · rw [(hr.step_op c).step_of_alters (hd.2 had), (hr.step_op d).step_of_alters (hc.2 hac), hr.step_of_alters hac,
      hr.step_of_alters had, write_comm r h]
  · rw [(hr.step_op c).step_of_not_alters (had ∘ hd.1), hr.step_of_not_alters had]
  · rw [(hr.step_op d).step_of_not_alters (hac ∘ hc.1), hr.step_of_not_alters hac]
  · rw [hr.step_of_not_alters hac, hr.step_of_not_alters had, hr.step_of_not_alters hac]

end Change

/-! ## Owners -/

/-- **The index of connections leads to every live session.** -/
structure Owned (r : Registry) : Prop extends r.Consistent where
  owner : ∀ {id} {s : Session}, r.session? id = some s → r.byConnection[s.connection.id]? = some id

theorem owned_new (ids : Generator) (queue : QueueConfig) : (new ids queue).Owned :=
  ⟨consistent_new ids queue, fun h => by simp [new, session?] at h⟩

theorem Owned.create {now : Moment} {connection : Connection} {identity : Identity} {capabilities : Wire.Capabilities}
    {r r' : Registry} {s : Session} (hr : r.Owned) (h : r.create now connection identity capabilities = .ok (s, r')) :
    r'.Owned := by
  refine ⟨hr.toConsistent.create h, fun {i t} ht => ?_⟩
  obtain ⟨hfree, -⟩ := create_grants h
  obtain ⟨id, ids, hs, rfl⟩ := create_ok h
  show (r.byConnection.insert connection.id id)[t.connection.id]? = some i
  replace ht : (r.sessions.insert id s)[i]? = some t := ht
  rw [getElem?_insert_eq] at ht ⊢
  split at ht
  · rename_i hi
    rw [← Option.some.inj ht, hs, hi]
    exact if_pos rfl
  · -- Somebody else has another connection, since this one was free.
    rw [if_neg fun hc => ?_]
    · exact hr.owner ht
    · have howner := hr.owner ht
      rw [hc, hfree] at howner
      cases howner

theorem Owned.destroy {id : SessionId} {r r' : Registry} {s : Session} (hr : r.Owned)
    (h : r.destroy id = some (s, r')) : r'.Owned := by
  refine ⟨hr.toConsistent.destroy h, fun {i t} ht => ?_⟩
  rw [session?, sessions_destroy h, getElem?_erase_eq] at ht
  split at ht
  · cases ht
  · rename_i hi
    rw [getElem?_byConnection_destroy h, if_neg fun hc => ?_]
    · exact hr.owner ht
    · exact hi (Option.some.inj ((hr.owner ht).symm.trans hc.2))

theorem Owned.changed {α : Type} {r : Registry} {id : SessionId} {f : Session → α × Session} (hr : r.Owned)
    (hf : ∀ s : Session, s.SameStanding (f s).2) : (r.changed id f).Owned := by
  refine ⟨hr.toConsistent.changed hf, fun {i t} ht => ?_⟩
  rw [byConnection_changed]
  rw [session?_changed hr.toConsistent hf] at ht
  split at ht
  · obtain ⟨t₀, ht₀, rfl⟩ := Option.map_eq_some_iff.1 ht
    rw [hf t₀]
    exact (hr.owner ht₀ :)
  · exact hr.owner ht

theorem Owned.of_insert {r r' : Registry} (hr : r.Owned) (hr' : r'.Consistent) {id : SessionId} {s s' : Session}
    (hs : r.session? id = some s) (hsessions : r'.sessions = r.sessions.insert id s')
    (hconnection : s'.connection = s.connection) (hby : r'.byConnection = r.byConnection) : r'.Owned := by
  refine ⟨hr', fun {i t} ht => ?_⟩
  rw [session?, hsessions, getElem?_insert_eq] at ht
  rw [hby]
  split at ht
  · rename_i hi
    rw [← Option.some.inj ht, hconnection, hi]
    exact hr.owner hs
  · exact hr.owner ht

theorem Owned.subscribe {id : SessionId} {scope : Scope} {kinds : EventKinds} {r r' : Registry} {changed : Bool}
    (hr : r.Owned) (h : r.subscribe id scope kinds = .ok (changed, r')) : r'.Owned := by
  have hr' := hr.toConsistent.subscribe h
  obtain ⟨s, hs, rfl⟩ := subscribe_ok h
  exact hr.of_insert hr' hs rfl rfl rfl

theorem Owned.unsubscribe {id : SessionId} {scope : Scope} {r r' : Registry} {changed : Bool}
    (hr : r.Owned) (h : r.unsubscribe id scope = .ok (changed, r')) : r'.Owned := by
  have hr' := hr.toConsistent.unsubscribe h
  obtain ⟨s, hs, ⟨-, rfl⟩ | ⟨-, rfl⟩⟩ := unsubscribe_ok h
  · exact hr
  · exact hr.of_insert hr' hs rfl rfl rfl

theorem Owned.withIds {r : Registry} (hr : r.Owned) (ids : Generator) : Owned { r with ids } :=
  ⟨Router.consistent_withIds hr.toConsistent ids, hr.owner⟩

end Registry

namespace Router

theorem kept_owned : Kept Registry.Owned where
  changed hf hr := hr.changed hf
  destroy h hr := hr.destroy h
  subscribe h hr := hr.subscribe h
  unsubscribe h hr := hr.unsubscribe h
  withIds ids hr := hr.withIds ids

theorem owned_run : ∀ (steps : List Step) {r : Router}, r.registry.Owned → (r.run steps).registry.Owned
  | [], _, hr => hr
  | x :: xs, r, hr => owned_run xs (r := r.step x) (kept_owned.step (fun h => hr.create h) hr)

/-- A session that was destroyed stays so, as long as its id is not given out again. -/
theorem session?_of_destroyed (ids : Generator) (queue : QueueConfig) (before after : List Step) (id : SessionId)
    (hknown : ((new ids queue).run before).registry.handle? id ≠ none)
    (hspares : (((new ids queue).run before).step (.destroy id)).Spares id after) :
    ((new ids queue).run (before ++ .destroy id :: after)).registry.session? id = none := by
  have hsplit : (new ids queue).run (before ++ .destroy id :: after) =
      (((new ids queue).run before).step (.destroy id)).run after := List.foldl_append
  have hnew : (new ids queue).registry.Consistent := Registry.consistent_new ids queue
  have hbefore := consistent_run before hnew
  obtain ⟨s, hs⟩ := Option.ne_none_iff_exists'.1 hknown
  obtain ⟨s₁, hs₁, hretired⟩ := retired_destroyed hbefore (marked_run before hnew fun h => by cases h) hs
  have hstep : (((new ids queue).run before).step (.destroy id)).registry.Consistent := (consistent_step hbefore _).1
  obtain ⟨s₂, hs₂, hretired₂⟩ := retired_run after hstep hspares hs₁ hretired
  rw [hsplit]
  exact (consistent_run after hstep).session?_of_released hs₂ hretired₂.released

end Router

namespace Registry

variable {r : Registry} {c : Change}

/-- **A session has another filter for one scope, or none**, and nothing else is different, but for who is listed under
that scope. -/
structure Rewritten (r : Registry) (c : Change) (r' : Registry) : Prop where
  filter? : ∀ i scope, r'.filter? i scope = if (i, scope) = c.place then c.kinds? else r.filter? i scope
  others : ∀ i, i ≠ c.session → r'.session? i = r.session? i
  own : ∃ s s', r.session? c.session = some s ∧ r'.session? c.session = some s' ∧
    s' = { s with subscriptions := s'.subscriptions }
  rest : r' = { r with sessions := r'.sessions, byScope := r'.byScope }

theorem rewritten_write {s : Session} (hs : r.session? c.session = some s) : r.Rewritten c (r.write c) := by
  refine ⟨filter?_write hs, fun i hi => ?_, ⟨s, s.write c.scope c.kinds?, hs, ?_, rfl⟩, rfl⟩
  · rw [session?_write, if_neg hi]
  · rw [session?_write, if_pos rfl, hs]
    rfl

/-- What a change for a live session finds already there is as it asks for. -/
theorem rewritten_self {s : Session} (hs : r.session? c.session = some s)
    (hfilter : r.filter? c.session c.scope = c.kinds?) : r.Rewritten c r := by
  refine ⟨fun i scope => ?_, fun _ _ => rfl, ⟨s, s, hs, hs, rfl⟩, rfl⟩
  split
  · rename_i hplace
    obtain ⟨rfl, rfl⟩ := Prod.mk.inj hplace
    exact hfilter
  · rfl

/-- **A change for a live session is made**, says whether it has made a difference, and makes none when it is made
again. -/
theorem Consistent.changes (hr : r.Consistent) (hs : r.session? c.session ≠ none) :
    ∃ r', r.change c = .ok (decide (r.filter? c.session c.scope ≠ c.kinds?), r') ∧ r.Rewritten c r' ∧
      r'.change c = .ok (false, r') := by
  obtain ⟨s, hs⟩ := Option.ne_none_iff_exists'.1 hs
  have hchange := hr.change_of_session? hs
  by_cases hfilter : r.filter? c.session c.scope = c.kinds?
  · rw [if_pos hfilter] at hchange
    exact ⟨r, by rw [hchange, decide_eq_false (not_not_intro hfilter)], rewritten_self hs hfilter, hchange⟩
  · rw [if_neg hfilter] at hchange
    have hwritten := rewritten_write hs
    have hr' : (r.write c).Consistent := hr.step_of_alters ⟨by simp [hs], hfilter⟩ ▸ hr.step_op c
    obtain ⟨_, s', -, hs', -⟩ := hwritten.own
    refine ⟨r.write c, by rw [hchange, decide_eq_true hfilter], hwritten, ?_⟩
    rw [hr'.change_of_session? hs', if_pos ((hwritten.filter? _ _).trans (if_pos rfl))]

end Registry

namespace Router

open Registry (Change)

/-- **Subscriptions are a map from sessions and scopes to filters**, in every registry that a run leads to.  To
subscribe writes the filter, to unsubscribe erases it; each of them says whether that changed the map, touches no
other place of it, and changes nothing when it is done again.  At two different places the order makes no difference,
neither to the answers nor to the registry.  Whoever is not live is not found, and this holds of a session that was
destroyed for as long as its id is not given out again; and a connection with a live session gets no second one.  What
is refused leaves the whole registry as it was, the generator of ids included. -/
theorem subscriptions_form_map (ids : Generator) (queue : QueueConfig) (steps : List Step) :
    let r := ((new ids queue).run steps).registry
    (∀ id scope kinds, r.session? id ≠ none → ∃ r',
      r.subscribe id scope kinds = .ok (decide (r.filter? id scope ≠ some kinds), r') ∧
        r.Rewritten ⟨id, scope, some kinds⟩ r' ∧ r'.subscribe id scope kinds = .ok (false, r')) ∧
    (∀ id scope, r.session? id ≠ none → ∃ r',
      r.unsubscribe id scope = .ok (decide (r.filter? id scope ≠ none), r') ∧
        r.Rewritten ⟨id, scope, none⟩ r' ∧ r'.unsubscribe id scope = .ok (false, r')) ∧
    (∀ c d : Change, c.place ≠ d.place → (r.step c.op).answer d = r.answer d ∧ (r.step d.op).answer c = r.answer c ∧
      (r.step c.op).step d.op = (r.step d.op).step c.op) ∧
    (∀ c : Change, r.session? c.session = none →
      r.answer c = .error (.sessionNotFound c.session) ∧ r.step c.op = r) ∧
    (∀ before id after, steps = before ++ .destroy id :: after →
      ((new ids queue).run before).registry.handle? id ≠ none →
        (((new ids queue).run before).step (.destroy id)).Spares id after → r.session? id = none) ∧
    ∀ id s, r.session? id = some s → ∀ now connection identity capabilities, connection.id = s.connection.id →
      r.create now connection identity capabilities = .error (.duplicateConnection connection.id) ∧
        r.step (.create now connection identity capabilities) = r := by
  intro r
  have howned : r.Owned := owned_run steps (Registry.owned_new ids queue)
  have hr := howned.toConsistent
  refine ⟨fun id scope kinds hs => ?_, fun id scope hs => ?_, fun c d h => ?_, fun c hs => ?_, ?_, ?_⟩
  · exact hr.changes (c := ⟨id, scope, some kinds⟩) hs
  · exact hr.changes (c := ⟨id, scope, none⟩) hs
  · obtain ⟨hanswer, hstep⟩ := hr.change_comm h
    exact ⟨hanswer, (hr.change_comm (Ne.symm h)).1, hstep⟩
  · exact ⟨by rw [hr.answer_eq, if_pos hs], hr.step_of_not_alters fun h => h.1 hs⟩
  · rintro before id after rfl hknown hspares
    exact session?_of_destroyed ids queue before after id hknown hspares
  · intro id s hs now connection identity capabilities hconnection
    have hcreate := Registry.create_of_taken (hconnection ▸ howned.owner hs) now identity capabilities
    refine ⟨hcreate, ?_⟩
    rw [Registry.step, hcreate]
    rfl

/-- Two sessions share a scope, and one of them is destroyed.  The other one changes its filter, gives the scope up
before or after it subscribes to another one, and gets no second session. -/
theorem subscriptions_form_map_shared :
    let client (n : Nat) := Step.create ⟨0, 0⟩ ⟨n, .json, ⟨2, 0⟩⟩ ⟨⟨7⟩, "agent"⟩ .all
    let before := [client 1, client 2, .subscribe ⟨4097⟩ .presence .presence, .subscribe ⟨4098⟩ .presence .all]
    let after := [.publish ⟨0, 0⟩ (.presenceUpdated ⟨5⟩ .online)]
    let r := ((new ⟨1, 0, 0⟩ ⟨1, 1, .disconnect⟩).run (before ++ .destroy ⟨4098⟩ :: after)).registry
    (∃ r', r.subscribe ⟨4097⟩ .presence .all = .ok (true, r') ∧ r'.filter? ⟨4097⟩ .presence = some .all ∧
      r'.subscribe ⟨4097⟩ .presence .all = .ok (false, r')) ∧
    (∃ r', r.unsubscribe ⟨4097⟩ (.user ⟨5⟩) = .ok (false, r')) ∧
    (r.step (.unsubscribe ⟨4097⟩ .presence)).step (.subscribe ⟨4097⟩ (.user ⟨5⟩) .all) =
      (r.step (.subscribe ⟨4097⟩ (.user ⟨5⟩) .all)).step (.unsubscribe ⟨4097⟩ .presence) ∧
    r.step (.subscribe ⟨4098⟩ .presence .all) = r ∧
    r.step (.create ⟨9, 9⟩ ⟨1, .protobuf, ⟨2, 0⟩⟩ ⟨⟨8⟩, "again"⟩ .all) = r := by
  intro client before after r
  obtain ⟨hsubscribe, hunsubscribe, hcomm, hunknown, hdestroyed, hduplicate⟩ := subscriptions_form_map ⟨1, 0, 0⟩
    ⟨1, 1, .disconnect⟩ (before ++ .destroy ⟨4098⟩ :: after)
  have hlive : r.session? ⟨4097⟩ ≠ none := Option.isSome_iff_ne_none.1 (by decide +kernel)
  have hfilter : r.filter? ⟨4097⟩ .presence = some .presence := by decide +kernel
  have hother : r.filter? ⟨4097⟩ (.user ⟨5⟩) = none := by decide +kernel
  have hgone : r.session? ⟨4098⟩ = none :=
    hdestroyed before ⟨4098⟩ after rfl (Option.isSome_iff_ne_none.1 (by decide +kernel)) ⟨rfl, trivial⟩
  obtain ⟨s, hs⟩ := Option.ne_none_iff_exists'.1 hlive
  have hconnection : (r.session? ⟨4097⟩).map (·.connection.id) = some 1 := by decide +kernel
  rw [hs] at hconnection
  refine ⟨?_, ?_, ?_, (hunknown ⟨⟨4098⟩, .presence, some .all⟩ hgone).2, ?_⟩
  · obtain ⟨r', hok, hwritten, hagain⟩ := hsubscribe ⟨4097⟩ .presence .all hlive
    refine ⟨r', hok.trans ?_, hwritten.filter? _ _, hagain⟩
    rw [show ((new ⟨1, 0, 0⟩ ⟨1, 1, .disconnect⟩).run _).registry.filter? ⟨4097⟩ .presence = _ from hfilter]
    rfl
  · obtain ⟨r', hok, -⟩ := hunsubscribe ⟨4097⟩ (.user ⟨5⟩) hlive
    refine ⟨r', hok.trans ?_⟩
    rw [show ((new ⟨1, 0, 0⟩ ⟨1, 1, .disconnect⟩).run _).registry.filter? ⟨4097⟩ (.user ⟨5⟩) = _ from hother]
    rfl
  · exact (hcomm ⟨⟨4097⟩, .presence, none⟩ ⟨⟨4097⟩, .user ⟨5⟩, some .all⟩ (by decide)).2.2
  · exact (hduplicate ⟨4097⟩ s hs ⟨9, 9⟩ ⟨1, .protobuf, ⟨2, 0⟩⟩ ⟨⟨8⟩, "again"⟩ .all
      (Option.some.inj hconnection).symm).2

end Router
end EventGateway
