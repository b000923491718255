import EventGateway.Session.Registry
/-!
# The registry — what each operation does to the tables

One lemma for each operation says all that it does (`create_ok`, `destroy_some`, `subscribe_ok`, `unsubscribe_ok`,
`modify?_of_handle?`), and nothing below opens an operation again.  `Consistent` holds of every registry in use: a
session stands under its own id, is released exactly when it is retired, and is in the index of each scope that it is
subscribed to.
-/
namespace EventGateway

open Std (ExtTreeMap TransOrd LawfulEqOrd)

section Tables

variable {κ V : Type} [DecidableEq κ] [Ord κ] [TransOrd κ] [LawfulEqOrd κ]

theorem getElem?_insert_eq (m : ExtTreeMap κ V) (k i : κ) (v : V) :
    (m.insert k v)[i]? = if i = k then some v else m[i]? := by
  rw [ExtTreeMap.getElem?_insert]
  simp only [Std.LawfulEqCmp.compare_eq_iff_eq, @eq_comm _ k i]

theorem getElem?_erase_eq (m : ExtTreeMap κ V) (k i : κ) : (m.erase k)[i]? = if i = k then none else m[i]? := by
  rw [ExtTreeMap.getElem?_erase]
  simp only [Std.LawfulEqCmp.compare_eq_iff_eq, @eq_comm _ k i]

end Tables

namespace SessionIndex

variable {κ : Type} [Ord κ] [TransOrd κ]

theorem mem_ids_iff (index : SessionIndex κ) (key : κ) (j : SessionId) :
    j ∈ index.ids key ↔ ∃ found, index[key]? = some found ∧ j ∈ found := by
  unfold ids
  rw [Std.ExtTreeSet.mem_toList]
  cases index[key]? with
  | none => simp
  | some found => simp

variable [DecidableEq κ] [LawfulEqOrd κ]

theorem mem_ids_add (index : SessionIndex κ) (key key' : κ) (id j : SessionId) :
    j ∈ (index.add key id).ids key' ↔ (key = key' ∧ id = j) ∨ j ∈ index.ids key' := by
  rw [mem_ids_iff, mem_ids_iff, add, ExtTreeMap.getElem?_alter]
  simp only [Std.LawfulEqCmp.compare_eq_iff_eq]
  by_cases h : key = key'
  · subst h
    cases index[key]? <;> simp [Std.LawfulEqCmp.compare_eq_iff_eq]
  · simp [h]

theorem mem_ids_remove (index : SessionIndex κ) (key key' : κ) (id j : SessionId) :
    j ∈ (index.remove key id).ids key' ↔ j ∈ index.ids key' ∧ ¬(key = key' ∧ id = j) := by
  rw [mem_ids_iff, mem_ids_iff, remove, ExtTreeMap.getElem?_alter]
  simp only [Std.LawfulEqCmp.compare_eq_iff_eq]
  by_cases h : key = key'
  · subst h
    cases index[key]? with
    | none => simp
    | some found =>
      simp only [if_true, Option.bind_some, true_and, Option.some.injEq, exists_eq_left']
      have herase : j ∈ found.erase id ↔ j ∈ found ∧ ¬id = j := by
        rw [Std.ExtTreeSet.mem_erase, Ne, Std.LawfulEqCmp.compare_eq_iff_eq, and_comm]
      rw [← herase]
      split
      · rename_i hempty
        rw [Std.ExtTreeSet.isEmpty_iff.1 hempty]
        simp
      · simp
  · simp [h]

theorem mem_ids_foldl_remove (id j : SessionId) (key' : κ) : ∀ (keys : List κ) (index : SessionIndex κ),
    j ∈ (keys.foldl (fun index key => index.remove key id) index).ids key' ↔
      j ∈ index.ids key' ∧ ¬(key' ∈ keys ∧ id = j)
  | [], index => by simp
  | key :: keys, index => by
    rw [List.foldl_cons, mem_ids_foldl_remove id j key' keys, mem_ids_remove, List.mem_cons]
    by_cases hid : id = j <;> by_cases hkey : key' = key <;> simp [hid, hkey, Ne.symm]

end SessionIndex

namespace Session

/-- **Nothing but the outgoing stream differs.** -/
def SameStanding (s s' : Session) : Prop := s' = { s with queue := s'.queue, sequence := s'.sequence }

theorem SameStanding.id_eq {s s' : Session} (h : SameStanding s s') : s'.id = s.id := by rw [h]

theorem SameStanding.released_eq {s s' : Session} (h : SameStanding s s') : s'.released = s.released := by rw [h]

theorem SameStanding.subscriptions_eq {s s' : Session} (h : SameStanding s s') :
    s'.subscriptions = s.subscriptions := by rw [h]

theorem SameStanding.wants_eq {s s' : Session} (h : SameStanding s s') (e : Event) : s'.wants e = s.wants e := by
  rw [h]; rfl

theorem sameStanding_push (now : Nat) (p : Wire.Payload) (s : Session) : SameStanding s (s.push now p).2 := rfl

theorem sameStanding_closeWith (code : CloseCode) (s : Session) : SameStanding s (s.closeWith code).2 := rfl

theorem sameStanding_nextOutgoing (s : Session) : SameStanding s s.nextOutgoing.2 := by
  unfold nextOutgoing
  rcases s.queue.drain with ⟨_ | b, q⟩
  · rfl
  · dsimp only
    unfold stamp
    split <;> rfl

end Session

namespace Registry

/-- What holds of every registry in use. -/
structure Consistent (r : Registry) : Prop where
  live_id : ∀ {id} {s : Session}, r.session? id = some s → s.id = id
  live_released : ∀ {id} {s : Session}, r.session? id = some s → s.released = false
  retired_id : ∀ {id : SessionId} {s : Session}, r.retired[id]? = some s → s.id = id
  retired_released : ∀ {id : SessionId} {s : Session}, r.retired[id]? = some s → s.released = true
  /-- The index leads to every subscriber of a scope. -/
  indexed : ∀ {id} {s : Session} {scope : Scope}, r.session? id = some s → scope ∈ s.subscriptions →
    id ∈ r.byScope.ids scope

theorem consistent_new (ids : Generator) (queue : QueueConfig) : (new ids queue).Consistent := by
  constructor <;> intros <;> simp_all [new, session?]

/-! ## Looking up -/

theorem handle?_of_session? {r : Registry} {id : SessionId} {s : Session} (h : r.session? id = some s) :
    r.handle? id = some s := by
  rw [session?] at h
  rw [handle?, h]; rfl

theorem handle?_of_session?_eq_none {r : Registry} {id : SessionId} (h : r.session? id = none) :
    r.handle? id = r.retired[id]? := by
  rw [session?] at h
  rw [handle?, h]; rfl

theorem Consistent.handle_id {r : Registry} (hr : r.Consistent) {id : SessionId} {s : Session}
    (h : r.handle? id = some s) : s.id = id := by
  cases hs : r.session? id with
  | some s' =>
    rw [handle?_of_session? hs] at h
    exact hr.live_id (h ▸ hs)
  | none =>
    rw [handle?_of_session?_eq_none hs] at h
    exact hr.retired_id h

theorem session?_put (r : Registry) (s : Session) (i : SessionId) :
    (r.put s).session? i = if i = s.id ∧ (r.session? i).isSome then some s else r.session? i := by
  unfold put session?
  split
  · rename_i h
    rw [getElem?_insert_eq]
    by_cases hi : i = s.id
    · subst hi
      have : (r.sessions[s.id]?).isSome = true := by simpa using h
      simp [this]
    · simp [hi]
  · rename_i h
    by_cases hi : i = s.id
    · subst hi
      rw [if_neg]
      simpa using h
    · simp [hi]

theorem retired_put (r : Registry) (s : Session) (i : SessionId) :
    (r.put s).retired[i]? = if i = s.id ∧ r.session? i = none then some s else r.retired[i]? := by
  unfold put session?
  split
  · rename_i h
    by_cases hi : i = s.id
    · subst hi
      rw [if_neg]
      simpa using h
    · simp [hi]
  · rename_i h
    rw [getElem?_insert_eq]
    by_cases hi : i = s.id
    · subst hi
      have : r.sessions[s.id]? = none := by simpa using h
      simp [this]
    · simp [hi]

theorem handle?_put (r : Registry) (s : Session) (i : SessionId) :
    (r.put s).handle? i = if i = s.id then some s else r.handle? i := by
  cases hs : r.session? i with
  | some s' =>
    have h : (r.put s).session? i = some (if i = s.id then s else s') := by
      rw [session?_put, hs]; by_cases hi : i = s.id <;> simp [hi]
    rw [handle?_of_session? h, handle?_of_session? hs]
    split <;> rfl
  | none =>
    have h : (r.put s).session? i = none := by rw [session?_put, hs]; simp
    rw [handle?_of_session?_eq_none h, handle?_of_session?_eq_none hs, retired_put, hs]
    simp

theorem byScope_put (r : Registry) (s : Session) : (r.put s).byScope = r.byScope := by
  unfold put; split <;> rfl

theorem queue_put (r : Registry) (s : Session) : (r.put s).queue = r.queue := by
  unfold put; split <;> rfl

theorem modify?_of_handle? {α : Type} {r : Registry} {id : SessionId} {s : Session} (f : Session → α × Session)
    (h : r.handle? id = some s) : r.modify? id f = some ((f s).1, r.put (f s).2) := by
  rw [modify?, h]; rfl

theorem modify?_of_handle?_eq_none {α : Type} {r : Registry} {id : SessionId} (f : Session → α × Session)
    (h : r.handle? id = none) : r.modify? id f = none := by
  rw [modify?, h]; rfl

/-- Putting back a session whose stream alone has moved on. -/
theorem Consistent.put {r : Registry} (hr : r.Consistent) {id : SessionId} {s s' : Session}
    (h : r.handle? id = some s) (hs : s.SameStanding s') : (r.put s').Consistent := by
  have hid : s'.id = id := hs.id_eq.trans (hr.handle_id h)
  have hlive : ∀ {i} {t : Session}, (r.put s').session? i = some t →
      ∃ t₀, r.session? i = some t₀ ∧ t₀.SameStanding t := by
    intro i t ht
    rw [session?_put] at ht
    split at ht
    · rename_i hi
      obtain ⟨t₀, ht₀⟩ := Option.isSome_iff_exists.1 hi.2
      have : t₀ = s := by
        have := handle?_of_session? ht₀
        rw [hi.1, hid, h] at this
        exact (Option.some.inj this).symm
      exact ⟨t₀, ht₀, by rw [this, ← Option.some.inj ht]; exact hs⟩
    · exact ⟨t, ht, rfl⟩
  have hgone : ∀ {i : SessionId} {t : Session}, (r.put s').retired[i]? = some t →
      ∃ t₀ : Session, r.retired[i]? = some t₀ ∧ t₀.SameStanding t := by
    intro i t ht
    rw [retired_put] at ht
    split at ht
    · rename_i hi
      have hs₀ : r.retired[i]? = some s := by
        rw [← handle?_of_session?_eq_none hi.2, hi.1, hid]; exact h
      exact ⟨s, hs₀, by rw [← Option.some.inj ht]; exact hs⟩
    · exact ⟨t, ht, rfl⟩
  refine ⟨fun ht => ?_, fun ht => ?_, fun ht => ?_, fun ht => ?_, fun ht hscope => ?_⟩
  · obtain ⟨t₀, ht₀, hst⟩ := hlive ht
    exact hst.id_eq.trans (hr.live_id ht₀)
  · obtain ⟨t₀, ht₀, hst⟩ := hlive ht
    exact hst.released_eq.trans (hr.live_released ht₀)
  · obtain ⟨t₀, ht₀, hst⟩ := hgone ht
    exact hst.id_eq.trans (hr.retired_id ht₀)
  · obtain ⟨t₀, ht₀, hst⟩ := hgone ht
    exact hst.released_eq.trans (hr.retired_released ht₀)
  · obtain ⟨t₀, ht₀, hst⟩ := hlive ht
    rw [byScope_put]
    exact hr.indexed ht₀ (hst.subscriptions_eq ▸ hscope)

/-! ## Changing one session's stream -/

/-- The registry after a change to one session, if anybody knows that session. -/
def changed {α : Type} (r : Registry) (id : SessionId) (f : Session → α × Session) : Registry :=
  (r.modify? id f).elim r (·.2)

section Changed

variable {α : Type} {r : Registry} {id : SessionId} {f : Session → α × Session}

theorem changed_of_handle? {s : Session} (h : r.handle? id = some s) : r.changed id f = r.put (f s).2 := by
  rw [changed, modify?_of_handle? f h]; rfl

theorem changed_of_handle?_eq_none (h : r.handle? id = none) : r.changed id f = r := by
  rw [changed, modify?_of_handle?_eq_none f h]; rfl

theorem Consistent.changed (hr : r.Consistent) (hf : ∀ s : Session, s.SameStanding (f s).2) :
    (r.changed id f).Consistent := by
  cases h : r.handle? id with
  | none => rw [changed_of_handle?_eq_none h]; exact hr
  | some s => rw [changed_of_handle? h]; exact hr.put h (hf s)

theorem handle?_changed (hr : r.Consistent) (hf : ∀ s : Session, s.SameStanding (f s).2) (i : SessionId) :
    (r.changed id f).handle? i = if i = id then (r.handle? i).map (fun s => (f s).2) else r.handle? i := by
  cases h : r.handle? id with
  | none =>
    rw [changed_of_handle?_eq_none h]
    by_cases hi : i = id
    · rw [if_pos hi, hi, h]; rfl
    · rw [if_neg hi]
  | some s =>
    rw [changed_of_handle? h, handle?_put, (hf s).id_eq, hr.handle_id h]
    by_cases hi : i = id
    · rw [if_pos hi, if_pos hi, hi, h]; rfl
    · rw [if_neg hi, if_neg hi]

theorem session?_changed (hr : r.Consistent) (hf : ∀ s : Session, s.SameStanding (f s).2) (i : SessionId) :
    (r.changed id f).session? i = if i = id then (r.session? i).map (fun s => (f s).2) else r.session? i := by
  cases h : r.handle? id with
  | none =>
    rw [changed_of_handle?_eq_none h]
    cases hi : r.session? i with
    | none => simp
    | some s =>
      rw [if_neg]
      intro he
      rw [← he, handle?_of_session? hi] at h
      cases h
  | some s =>
    rw [changed_of_handle? h, session?_put, (hf s).id_eq, hr.handle_id h]
    by_cases hi : i = id
    · subst hi
      cases hs : r.session? i with
      | none => simp
      | some t =>
        rw [handle?_of_session? hs] at h
        simp [Option.some.inj h]
    · simp [hi]

/-- **A change to a live session leaves those that are gone alone.** -/
theorem retired_changed {s : Session} (hr : r.Consistent) (hf : ∀ s : Session, s.SameStanding (f s).2)
    (hs : r.session? id = some s) : (r.changed id f).retired = r.retired := by
  rw [changed_of_handle? (handle?_of_session? hs)]
  have hid : (f s).2.id = id := (hf s).id_eq.trans (hr.live_id hs)
  rw [session?] at hs
  rw [put, if_pos]
  rw [hid, Std.ExtTreeMap.contains_eq_isSome_getElem?, hs]; rfl

theorem byScope_changed : (r.changed id f).byScope = r.byScope := by
  cases h : r.handle? id with
  | none => rw [changed_of_handle?_eq_none h]
  | some s => rw [changed_of_handle? h, byScope_put]

theorem queue_changed : (r.changed id f).queue = r.queue := by
  cases h : r.handle? id with
  | none => rw [changed_of_handle?_eq_none h]
  | some s => rw [changed_of_handle? h, queue_put]

end Changed

/-! ## Coming and going -/

theorem create_ok {now : Moment} {connection : Connection} {identity : Identity} {capabilities : Wire.Capabilities}
    {r r' : Registry} {s : Session} (h : r.create now connection identity capabilities = .ok (s, r')) :
    ∃ id ids, s = .new now id connection identity capabilities r.queue ∧ r' = { r with
      sessions := r.sessions.insert id s
      byConnection := r.byConnection.insert connection.id id
      byIdentity := r.byIdentity.add identity.user id
      ids } := by
  unfold create at h
  split at h
  · cases h
  · simp only [Except.ok.injEq, Prod.mk.injEq] at h
    obtain ⟨rfl, rfl⟩ := h
    exact ⟨_, _, rfl, rfl⟩

theorem destroy_some {id : SessionId} {r r' : Registry} {s : Session} (h : r.destroy id = some (s, r')) :
    r.session? id = some s ∧ ∃ byConnection, r' = { r with
      sessions := r.sessions.erase id
      retired := r.retired.insert id (retire s)
      byConnection
      byIdentity := r.byIdentity.remove s.user id
      byScope := s.subscriptions.keys.foldl (fun index scope => index.remove scope id) r.byScope } := by
  unfold destroy at h
  obtain ⟨t, ht, h⟩ := Option.bind_eq_some_iff.1 h
  obtain ⟨rfl, rfl⟩ := Prod.mk.inj (Option.some.inj h)
  exact ⟨ht, _, rfl⟩

theorem handle?_create {now : Moment} {connection : Connection} {identity : Identity}
    {capabilities : Wire.Capabilities} {r r' : Registry} {s : Session}
    (h : r.create now connection identity capabilities = .ok (s, r')) (i : SessionId) :
    r'.handle? i = if i = s.id then some s else r.handle? i := by
  obtain ⟨id, ids, rfl, rfl⟩ := create_ok h
  rw [handle?, handle?, getElem?_insert_eq]
  show _ = if i = id then _ else _
  split <;> rfl

theorem handle?_destroy {id : SessionId} {r r' : Registry} {s : Session} (h : r.destroy id = some (s, r'))
    (i : SessionId) : r'.handle? i = if i = id then some (retire s) else r.handle? i := by
  obtain ⟨-, byConnection, rfl⟩ := destroy_some h
  rw [handle?, handle?, getElem?_erase_eq, getElem?_insert_eq]
  split <;> rfl

theorem Consistent.create {now : Moment} {connection : Connection} {identity : Identity}
    {capabilities : Wire.Capabilities} {r r' : Registry} {s : Session} (hr : r.Consistent)
    (h : r.create now connection identity capabilities = .ok (s, r')) : r'.Consistent := by
  obtain ⟨id, ids, rfl, rfl⟩ := create_ok h
  -- A session that has just come is subscribed to nothing.
  have hlive : ∀ {i} {t : Session},
      (r.sessions.insert id (.new now id connection identity capabilities r.queue))[i]? = some t →
        t = .new now i connection identity capabilities r.queue ∨ r.session? i = some t := by
    intro i t ht
    rw [getElem?_insert_eq] at ht
    split at ht
    · rename_i hi
      exact .inl (by rw [hi]; exact (Option.some.inj ht).symm)
    · exact .inr ht
  refine ⟨fun ht => ?_, fun ht => ?_, hr.retired_id, hr.retired_released, fun ht hscope => ?_⟩
  · rcases hlive ht with rfl | ht
    · rfl
    · exact hr.live_id ht
  · rcases hlive ht with rfl | ht
    · rfl
    · exact hr.live_released ht
  · rcases hlive ht with rfl | ht
    · exact absurd hscope Std.ExtTreeMap.not_mem_empty
    · exact hr.indexed ht hscope

theorem Consistent.destroy {id : SessionId} {r r' : Registry} {s : Session} (hr : r.Consistent)
    (h : r.destroy id = some (s, r')) : r'.Consistent := by
  obtain ⟨hs, byConnection, rfl⟩ := destroy_some h
  have hlive : ∀ {i} {t : Session}, (r.sessions.erase id)[i]? = some t → i ≠ id ∧ r.session? i = some t := by
    intro i t ht
    rw [getElem?_erase_eq] at ht
    split at ht
    · cases ht
    · rename_i hi
      exact ⟨hi, ht⟩
  have hgone : ∀ {i} {t : Session}, (r.retired.insert id (retire s))[i]? = some t →
      (i = id ∧ t = retire s) ∨ r.retired[i]? = some t := by
    intro i t ht
    rw [getElem?_insert_eq] at ht
    split at ht
    · rename_i hi
      exact .inl ⟨hi, (Option.some.inj ht).symm⟩
    · exact .inr ht
  refine ⟨fun ht => hr.live_id (hlive ht).2, fun ht => hr.live_released (hlive ht).2, fun ht => ?_, fun ht => ?_,
    fun ht hscope => ?_⟩
  · rcases hgone ht with ⟨rfl, rfl⟩ | ht
    · exact (hr.live_id hs :)
    · exact hr.retired_id ht
  · rcases hgone ht with ⟨-, rfl⟩ | ht
    · rfl
    · exact hr.retired_released ht
  · obtain ⟨hi, ht⟩ := hlive ht
    refine (SessionIndex.mem_ids_foldl_remove _ _ _ _ _).2 ⟨hr.indexed ht hscope, fun hne => ?_⟩
    exact hi hne.2.symm

/-! ## Subscribing -/

theorem subscribe_ok {id : SessionId} {scope : Scope} {kinds : EventKinds} {r r' : Registry} {changed : Bool}
    (h : r.subscribe id scope kinds = .ok (changed, r')) :
    ∃ s, r.session? id = some s ∧ r' = { r with
      sessions := r.sessions.insert id { s with subscriptions := s.subscriptions.insert scope kinds }
      byScope := r.byScope.add scope id } := by
  unfold subscribe at h
  split at h
  · cases h
  · rename_i s hs
    split at h
    · cases h
    · simp only [Except.ok.injEq, Prod.mk.injEq] at h
      exact ⟨s, hs, h.2.symm⟩

theorem unsubscribe_ok {id : SessionId} {scope : Scope} {r r' : Registry} {changed : Bool}
    (h : r.unsubscribe id scope = .ok (changed, r')) :
    ∃ s, r.session? id = some s ∧
      ((scope ∉ s.subscriptions ∧ r' = r) ∨ (scope ∈ s.subscriptions ∧ r' = { r with
        sessions := r.sessions.insert id { s with subscriptions := s.subscriptions.erase scope }
        byScope := r.byScope.remove scope id })) := by
  unfold unsubscribe at h
  split at h
  · cases h
  · rename_i s hs
    split at h
    · cases h
    · split at h <;> rename_i hscope <;> simp only [Except.ok.injEq, Prod.mk.injEq] at h
      · exact ⟨s, hs, .inr ⟨Std.ExtTreeMap.contains_iff_mem.1 hscope, h.2.symm⟩⟩
      · exact ⟨s, hs, .inl ⟨fun hm => hscope (Std.ExtTreeMap.contains_iff_mem.2 hm), h.2.symm⟩⟩

/-- Changing the subscriptions of a session, with an index that still leads to every subscriber. -/
theorem Consistent.resubscribed {r : Registry} (hr : r.Consistent) {id : SessionId} {s : Session}
    (hs : r.session? id = some s) (subscriptions : Subscriptions) (byScope : SessionIndex Scope)
    (hself : ∀ c ∈ subscriptions, id ∈ byScope.ids c)
    (hothers : ∀ c j, j ≠ id → j ∈ r.byScope.ids c → j ∈ byScope.ids c) :
    Consistent { r with sessions := r.sessions.insert id { s with subscriptions }, byScope } := by
  have hlive : ∀ {i} {t : Session}, (r.sessions.insert id { s with subscriptions })[i]? = some t →
      (i = id ∧ t = { s with subscriptions }) ∨ (i ≠ id ∧ r.session? i = some t) := by
    intro i t ht
    rw [getElem?_insert_eq] at ht
    split at ht
    · rename_i hi
      exact .inl ⟨hi, (Option.some.inj ht).symm⟩
    · rename_i hi
      exact .inr ⟨hi, ht⟩
  refine ⟨fun ht => ?_, fun ht => ?_, hr.retired_id, hr.retired_released, fun ht hscope => ?_⟩
  · rcases hlive ht with ⟨rfl, rfl⟩ | ⟨-, ht⟩
    · exact (hr.live_id hs :)
    · exact hr.live_id ht
  · rcases hlive ht with ⟨rfl, rfl⟩ | ⟨-, ht⟩
    · exact (hr.live_released hs :)
    · exact hr.live_released ht
  · rcases hlive ht with ⟨rfl, rfl⟩ | ⟨hi, ht⟩
    · exact hself _ hscope
    · exact hothers _ _ hi (hr.indexed ht hscope)

theorem Consistent.subscribe {id : SessionId} {scope : Scope} {kinds : EventKinds} {r r' : Registry} {changed : Bool}
    (hr : r.Consistent) (h : r.subscribe id scope kinds = .ok (changed, r')) : r'.Consistent := by
  obtain ⟨s, hs, rfl⟩ := subscribe_ok h
  refine hr.resubscribed hs _ _ (fun c hc => ?_) (fun c j _ hj => ?_)
  · rw [SessionIndex.mem_ids_add]
    rcases Std.ExtTreeMap.mem_insert.1 hc with hcs | hcs
    · exact .inl ⟨Std.LawfulEqCmp.compare_eq_iff_eq.1 hcs, rfl⟩
    · exact .inr (hr.indexed hs hcs)
  · exact (SessionIndex.mem_ids_add _ _ _ _ _).2 (.inr hj)

theorem Consistent.unsubscribe {id : SessionId} {scope : Scope} {r r' : Registry} {changed : Bool}
    (hr : r.Consistent) (h : r.unsubscribe id scope = .ok (changed, r')) : r'.Consistent := by
  obtain ⟨s, hs, ⟨-, rfl⟩ | ⟨-, rfl⟩⟩ := unsubscribe_ok h
  · exact hr
  · refine hr.resubscribed hs _ _ (fun c hc => ?_) (fun c j hj hmem => ?_)
    · obtain ⟨hne, hcs⟩ := Std.ExtTreeMap.mem_erase.1 hc
      refine (SessionIndex.mem_ids_remove _ _ _ _ _).2 ⟨hr.indexed hs hcs, fun he => hne ?_⟩
      exact Std.LawfulEqCmp.compare_eq_iff_eq.2 he.1
    · exact (SessionIndex.mem_ids_remove _ _ _ _ _).2 ⟨hmem, fun he => hj he.2.symm⟩

end Registry
end EventGateway
