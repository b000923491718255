import EventGateway.Proofs.Issuing
import EventGateway.Proofs.Registry
/-!
# Indexes — what the registry finds, and where

`SessionIndex.Lists` says what an index stands for: a relation between keys and sessions, and no key to which nothing
belongs.  A registry is `Exact` if each of its three indexes stands for what the live sessions themselves say.  Every
operation keeps it so (`Exact.create` and the others), the one condition being that a new session gets an id that nobody
has had, which is what the generator sees to (`Issued.fresh`).
-/
namespace EventGateway

open Std (ExtTreeMap ExtTreeSet TransOrd LawfulEqOrd)

namespace SessionIndex

variable {κ : Type} [Ord κ] [TransOrd κ]

/-- **The index lists, under each key, the sessions that belong to it**, and no key to which none belongs. -/
structure Lists (index : SessionIndex κ) (belongs : κ → SessionId → Prop) : Prop where
  mem_ids : ∀ key id, id ∈ index.ids key ↔ belongs key id
  occupied : ∀ {key : κ} {found}, index[key]? = some found → found ≠ ∅

theorem nodup_ids (index : SessionIndex κ) (key : κ) : (index.ids key).Nodup :=
  ExtTreeSet.distinct_toList.imp (fun h he => h (Std.LawfulEqCmp.compare_eq_iff_eq.2 he))

theorem Lists.congr {index : SessionIndex κ} {belongs belongs' : κ → SessionId → Prop} (h : index.Lists belongs)
    (hiff : ∀ key id, belongs key id ↔ belongs' key id) : index.Lists belongs' :=
  ⟨fun key id => (h.mem_ids key id).trans (hiff key id), h.occupied⟩

theorem lists_empty {belongs : κ → SessionId → Prop} (h : ∀ key id, ¬ belongs key id) :
    (∅ : SessionIndex κ).Lists belongs :=
  ⟨fun key id => by simp [ids, h], fun hfound => by simp at hfound⟩

theorem exists_mem_of_ne_empty {found : ExtTreeSet SessionId} (h : found ≠ ∅) : ∃ id, id ∈ found := by
  refine Classical.byContradiction fun hnone => h (ExtTreeSet.ext_mem fun id => ?_)
  exact ⟨fun hid => absurd ⟨id, hid⟩ hnone, fun hid => absurd hid ExtTreeSet.not_mem_empty⟩

/-- A key is in the index exactly if a session belongs to it. -/
theorem Lists.mem_iff {index : SessionIndex κ} {belongs : κ → SessionId → Prop} (h : index.Lists belongs) (key : κ) :
    key ∈ index ↔ ∃ id, belongs key id := by
  rw [ExtTreeMap.mem_iff_isSome_getElem?, Option.isSome_iff_exists]
  constructor
  · rintro ⟨found, hfound⟩
    obtain ⟨id, hid⟩ := exists_mem_of_ne_empty (h.occupied hfound)
    exact ⟨id, (h.mem_ids key id).1 ((mem_ids_iff index key id).2 ⟨found, hfound, hid⟩)⟩
  · rintro ⟨id, hid⟩
    obtain ⟨found, hfound, -⟩ := (mem_ids_iff index key id).1 ((h.mem_ids key id).2 hid)
    exact ⟨found, hfound⟩

variable [DecidableEq κ] [LawfulEqOrd κ]

theorem Lists.add {index : SessionIndex κ} {belongs : κ → SessionId → Prop} (h : index.Lists belongs) (key : κ)
    (id : SessionId) : (index.add key id).Lists (fun k j => (key = k ∧ id = j) ∨ belongs k j) := by
  refine ⟨fun k j => ?_, fun {k found} hfound => ?_⟩
  · rw [mem_ids_add, h.mem_ids]
  · rw [SessionIndex.add, ExtTreeMap.getElem?_alter] at hfound
    split at hfound
    · obtain rfl := Option.some.inj hfound
      intro he
      have hid : id ∈ (index[key]?.getD ∅).insert id := ExtTreeSet.mem_insert_self
      rw [he] at hid
      exact ExtTreeSet.not_mem_empty hid
    · exact h.occupied hfound

theorem Lists.remove {index : SessionIndex κ} {belongs : κ → SessionId → Prop} (h : index.Lists belongs) (key : κ)
    (id : SessionId) : (index.remove key id).Lists (fun k j => belongs k j ∧ ¬(key = k ∧ id = j)) := by
  refine ⟨fun k j => ?_, fun {k found} hfound => ?_⟩
  · rw [mem_ids_remove, h.mem_ids]
  · rw [SessionIndex.remove, ExtTreeMap.getElem?_alter] at hfound
    split at hfound
    · -- The key leaves the index with its last session.
      obtain ⟨ids, -, hids⟩ := Option.bind_eq_some_iff.1 hfound
      split at hids
      · cases hids
      · rename_i hne
        obtain rfl := Option.some.inj hids
        exact fun he => hne (ExtTreeSet.isEmpty_iff.2 he)
    · exact h.occupied hfound

theorem Lists.removeAll (id : SessionId) : ∀ (keys : List κ) {index : SessionIndex κ}
    {belongs : κ → SessionId → Prop}, index.Lists belongs →
      (keys.foldl (fun index key => index.remove key id) index).Lists (fun k j => belongs k j ∧ ¬(k ∈ keys ∧ id = j))
  | [], _, _, h => h.congr (fun k j => by simp)
  | key :: keys, _, _, h => (removeAll id keys (h.remove key id)).congr (fun k j => by
      rw [List.mem_cons, and_assoc, ← not_or, ← or_and_right, @eq_comm _ key k])

end SessionIndex

namespace Registry

/-! ## Sessions that are there, and sessions that are gone -/

/-- A live session of which something holds. -/
def Has (r : Registry) (id : SessionId) (p : Session → Prop) : Prop := ∃ s, r.session? id = some s ∧ p s

/-- **The indexes say what the live sessions say, and no more**; and a session that was destroyed holds nothing. -/
structure Exact (r : Registry) : Prop extends r.Consistent where
  byConnection : ∀ connection id, r.byConnection[connection]? = some id ↔ r.Has id (·.connection.id = connection)
  byIdentity : r.byIdentity.Lists (fun user id => r.Has id (·.user = user))
  byScope : r.byScope.Lists (fun scope id => r.Has id (scope ∈ ·.subscriptions))
  retired_subscriptions : ∀ {id : SessionId} {s : Session}, r.retired[id]? = some s → s.subscriptions = ∅

theorem exact_new (ids : Generator) (queue : QueueConfig) : (new ids queue).Exact := by
  have hnone : ∀ id p, ¬ (new ids queue).Has id p := fun id p ⟨s, hs, _⟩ => by simp [new, session?] at hs
  refine ⟨consistent_new ids queue, fun c id => ?_, ?_, ?_, fun h => ?_⟩
  · simp only [hnone, iff_false]
    simp [new]
  · exact SessionIndex.lists_empty (fun _ _ => hnone _ _)
  · exact SessionIndex.lists_empty (fun _ _ => hnone _ _)
  · simp [new] at h

theorem has_of_insert {r r' : Registry} {id : SessionId} {s : Session} (h : r'.sessions = r.sessions.insert id s)
    (i : SessionId) (p : Session → Prop) : r'.Has i p ↔ (i = id ∧ p s) ∨ (i ≠ id ∧ r.Has i p) := by
  unfold Has session?
  rw [h, getElem?_insert_eq]
  by_cases hi : i = id <;> simp [hi]

theorem has_of_erase {r r' : Registry} {id : SessionId} (h : r'.sessions = r.sessions.erase id) (i : SessionId)
    (p : Session → Prop) : r'.Has i p ↔ i ≠ id ∧ r.Has i p := by
  unfold Has session?
  rw [h, getElem?_erase_eq]
  by_cases hi : i = id <;> simp [hi]

theorem has_of_session? {r : Registry} {id : SessionId} {s : Session} (h : r.session? id = some s)
    (p : Session → Prop) : r.Has id p ↔ p s := by
  unfold Has
  rw [h]
  simp

theorem not_has_of_session?_eq_none {r : Registry} {id : SessionId} (h : r.session? id = none)
    (p : Session → Prop) : ¬ r.Has id p := by
  rintro ⟨s, hs, -⟩
  rw [h] at hs; cases hs

/-! ## Coming and going -/

/-- A session is created only for a connection that has none, and its id is the generator's next. -/
theorem create_grants {now : Moment} {connection : Connection} {identity : Identity}
    {capabilities : Wire.Capabilities} {r r' : Registry} {s : Session}
    (h : r.create now connection identity capabilities = .ok (s, r')) :
    r.byConnection[connection.id]? = none ∧ s.id = (r.ids.next now.age).1 ∧ r'.ids = (r.ids.next now.age).2 := by
  unfold create at h
  split at h
  · cases h
  · rename_i hnone
    simp only [Except.ok.injEq, Prod.mk.injEq] at h
    obtain ⟨rfl, rfl⟩ := h
    exact ⟨ExtTreeMap.getElem?_eq_none (fun hm => hnone (ExtTreeMap.contains_iff_mem.2 hm)), rfl, rfl⟩

theorem sessions_create {now : Moment} {connection : Connection} {identity : Identity}
    {capabilities : Wire.Capabilities} {r r' : Registry} {s : Session}
    (h : r.create now connection identity capabilities = .ok (s, r')) :
    r'.sessions = r.sessions.insert s.id s := by
  obtain ⟨id, ids, rfl, rfl⟩ := create_ok h
  rfl

theorem Exact.create {now : Moment} {connection : Connection} {identity : Identity}
    {capabilities : Wire.Capabilities} {r r' : Registry} {s : Session} (hr : r.Exact)
    (h : r.create now connection identity capabilities = .ok (s, r')) (hfresh : r.session? s.id = none) :
    r'.Exact := by
  have hconsistent := hr.toConsistent.create h
  obtain ⟨hfree, -, -⟩ := create_grants h
  have hhas := has_of_insert (sessions_create h)
  obtain ⟨id, ids, rfl, rfl⟩ := create_ok h
  replace hfresh : r.session? id = none := hfresh
  -- Nobody had the connection before, and nobody had the id.
  have hself : ∀ {i p}, r.Has i p → i ≠ id := fun hi he => not_has_of_session?_eq_none hfresh _ (he ▸ hi)
  refine ⟨hconsistent, fun c i => ?_, (hr.byIdentity.add _ _).congr fun user i => ?_,
    hr.byScope.congr fun scope i => ?_, hr.retired_subscriptions⟩
  · rw [hhas]
    show (r.byConnection.insert connection.id id)[c]? = some i ↔ _
    rw [getElem?_insert_eq]
    by_cases hc : c = connection.id
    · subst hc
      have hnone : ¬ r.Has i (·.connection.id = connection.id) := fun hi => by
        rw [← hr.byConnection, hfree] at hi; cases hi
      rw [if_pos rfl]
      exact ⟨fun he => .inl ⟨(Option.some.inj he).symm, rfl⟩,
        fun hi => hi.elim (fun he => congrArg some he.1.symm) (fun hi => absurd hi.2 hnone)⟩
    · rw [if_neg hc, hr.byConnection]
      exact ⟨fun hi => .inr ⟨hself hi, hi⟩, fun hi => hi.elim (fun he => absurd he.2.symm hc) (·.2)⟩
  · rw [hhas]
    constructor
    · rintro (⟨huser, rfl⟩ | hi)
      · exact .inl ⟨rfl, huser⟩
      · exact .inr ⟨hself hi, hi⟩
    · rintro (⟨rfl, huser⟩ | ⟨-, hi⟩)
      · exact .inl ⟨huser, rfl⟩
      · exact .inr hi
  · rw [hhas]
    constructor
    · exact fun hi => .inr ⟨hself hi, hi⟩
    · rintro (⟨-, hscope⟩ | ⟨-, hi⟩)
      · exact absurd hscope ExtTreeMap.not_mem_empty
      · exact hi

theorem byConnection_destroy {id : SessionId} {r r' : Registry} {s : Session} (h : r.destroy id = some (s, r')) :
    r'.byConnection = if r.byConnection[s.connection.id]? = some id then r.byConnection.erase s.connection.id
      else r.byConnection := by
  unfold destroy at h
  obtain ⟨t, ht, h⟩ := Option.bind_eq_some_iff.1 h
  obtain ⟨rfl, rfl⟩ := Prod.mk.inj (Option.some.inj h)
  rfl

theorem sessions_destroy {id : SessionId} {r r' : Registry} {s : Session} (h : r.destroy id = some (s, r')) :
    r'.sessions = r.sessions.erase id := by
  obtain ⟨-, byConnection, rfl⟩ := destroy_some h
  rfl

theorem Exact.destroy {id : SessionId} {r r' : Registry} {s : Session} (hr : r.Exact)
    (h : r.destroy id = some (s, r')) : r'.Exact := by
  have hconsistent := hr.toConsistent.destroy h
  have hhas := has_of_erase (sessions_destroy h)
  have hconnection := byConnection_destroy h
  obtain ⟨hs, byConnection, rfl⟩ := destroy_some h
  replace hconnection : byConnection = r.byConnection.erase s.connection.id :=
    hconnection.trans (if_pos ((hr.byConnection _ _).2 ⟨s, hs, rfl⟩))
  have hself := has_of_session? hs
  refine ⟨hconsistent, fun c i => ?_, (hr.byIdentity.remove _ _).congr fun user i => ?_,
    (hr.byScope.removeAll id s.subscriptions.keys).congr fun scope i => ?_, fun {i t} ht => ?_⟩
  · rw [hhas]
    show byConnection[c]? = some i ↔ _
    rw [hconnection, getElem?_erase_eq, ← hr.byConnection]
    by_cases hc : c = s.connection.id
    · -- The connection had this session and no other.
      subst hc
      rw [if_pos rfl, (hr.byConnection _ id).2 ⟨s, hs, rfl⟩]
      simp [eq_comm]
    · rw [if_neg hc]
      refine ⟨fun hi => ⟨fun he => hc ?_, hi⟩, (·.2)⟩
      rw [he, hr.byConnection, hself] at hi
      exact hi.symm
  · rw [hhas, and_comm]
    refine and_congr_left fun hi => not_congr ⟨fun he => he.2.symm, fun he => ⟨?_, he.symm⟩⟩
    rw [he, hself] at hi
    exact hi
  · rw [hhas, and_comm]
    refine and_congr_left fun hi => not_congr ⟨fun he => he.2.symm, fun he => ⟨?_, he.symm⟩⟩
    rw [he, hself] at hi
    exact ExtTreeMap.mem_keys.2 hi
  · replace ht : (r.retired.insert id (retire s))[i]? = some t := ht
    rw [getElem?_insert_eq] at ht
    split at ht
    · rw [← Option.some.inj ht]; rfl
    · exact hr.retired_subscriptions ht

/-! ## Subscribing -/

/-- Changing the subscriptions of a session, with an index that says the same. -/
theorem Exact.resubscribed {r : Registry} (hr : r.Exact) {id : SessionId} {s : Session} (hs : r.session? id = some s)
    {subscriptions : Subscriptions} {byScope : SessionIndex Scope}
    (hconsistent : Consistent { r with sessions := r.sessions.insert id { s with subscriptions }, byScope })
    (hbyScope : byScope.Lists (fun scope i => (i = id ∧ scope ∈ subscriptions) ∨
      (i ≠ id ∧ r.Has i (scope ∈ ·.subscriptions)))) :
    Exact { r with sessions := r.sessions.insert id { s with subscriptions }, byScope } := by
  have hhas : ∀ i p, Has { r with sessions := r.sessions.insert id { s with subscriptions }, byScope } i p ↔ _ :=
    fun i p => has_of_insert rfl i p
  -- Connection and user of the session are what they were.
  have hsame : ∀ (p : Session → Prop), p { s with subscriptions } = p s → ∀ i,
      r.Has i p ↔ Has { r with sessions := r.sessions.insert id { s with subscriptions }, byScope } i p := by
    intro p hp i
    rw [hhas]
    by_cases hi : i = id
    · subst hi
      simp [has_of_session? hs, hp]
    · simp [hi]
  refine ⟨hconsistent, fun c i => ?_, hr.byIdentity.congr fun user i => hsame _ rfl i,
    hbyScope.congr fun scope i => (hhas i (scope ∈ ·.subscriptions)).symm, hr.retired_subscriptions⟩
  exact (hr.byConnection c i).trans (hsame _ rfl i)

theorem Exact.subscribe {id : SessionId} {scope : Scope} {kinds : EventKinds} {r r' : Registry} {changed : Bool}
    (hr : r.Exact) (h : r.subscribe id scope kinds = .ok (changed, r')) : r'.Exact := by
  have hconsistent := hr.toConsistent.subscribe h
  obtain ⟨s, hs, rfl⟩ := subscribe_ok h
  refine hr.resubscribed hs hconsistent ((hr.byScope.add scope id).congr fun c i => ?_)
  rw [ExtTreeMap.mem_insert, Std.LawfulEqCmp.compare_eq_iff_eq]
  by_cases hi : i = id
  · subst hi
    simp [has_of_session? hs]
  · simp [hi, Ne.symm hi]

theorem Exact.unsubscribe {id : SessionId} {scope : Scope} {r r' : Registry} {changed : Bool}
    (hr : r.Exact) (h : r.unsubscribe id scope = .ok (changed, r')) : r'.Exact := by
  have hconsistent := hr.toConsistent.unsubscribe h
  obtain ⟨s, hs, ⟨-, rfl⟩ | ⟨-, rfl⟩⟩ := unsubscribe_ok h
  · exact hr
  · refine hr.resubscribed hs hconsistent ((hr.byScope.remove scope id).congr fun c i => ?_)
    rw [ExtTreeMap.mem_erase, Ne, Std.LawfulEqCmp.compare_eq_iff_eq]
    by_cases hi : i = id
    · subst hi
      simp [has_of_session? hs, and_comm]
    · simp [hi, Ne.symm hi]

/-! ## Ids -/

/-- Everybody who is or was here has an id that the generator has issued. -/
def Issued (r : Registry) : Prop := ∀ id, r.handle? id ≠ none → r.ids.HasIssued id

theorem issued_new (ids : Generator) (queue : QueueConfig) : (new ids queue).Issued := by
  intro id h
  simp [new, handle?] at h

/-- **A session that is created has an id that nobody has had.** -/
theorem Issued.fresh {now : Moment} {connection : Connection} {identity : Identity}
    {capabilities : Wire.Capabilities} {r r' : Registry} {s : Session} (hr : r.Issued)
    (h : r.create now connection identity capabilities = .ok (s, r')) (hfits : r'.ids.Fits) :
    r.handle? s.id = none := by
  obtain ⟨-, hid, hids⟩ := create_grants h
  rw [hids] at hfits
  refine Classical.byContradiction fun hknown => ?_
  exact (hr _ hknown).ne_next hfits hid

theorem session?_eq_none_of_handle? {r : Registry} {id : SessionId} (h : r.handle? id = none) :
    r.session? id = none := by
  cases hs : r.session? id with
  | none => rfl
  | some s => rw [handle?_of_session? hs] at h; cases h

theorem handle?_of_insert {r r' : Registry} {id : SessionId} {s : Session}
    (h : r'.sessions = r.sessions.insert id s) (hretired : r'.retired = r.retired) (i : SessionId) :
    r'.handle? i = if i = id then some s else r.handle? i := by
  rw [handle?, handle?, h, hretired, getElem?_insert_eq]
  split <;> rfl

/-! ## Runs -/

/-- What happens to a registry and its generator; `draw` takes an id for something that is no session. -/
inductive Op where
  | create (now : Moment) (connection : Connection) (identity : Identity) (capabilities : Wire.Capabilities)
  | destroy (id : SessionId)
  | subscribe (id : SessionId) (scope : Scope) (kinds : EventKinds)
  | unsubscribe (id : SessionId) (scope : Scope)
  | draw (now : Moment)

/-- The registry after an operation; one that is refused leaves it as it was. -/
def step (r : Registry) : Op → Registry
  | .create now connection identity capabilities =>
    (r.create now connection identity capabilities).toOption.elim r (·.2)
  | .destroy id => (r.destroy id).elim r (·.2)
  | .subscribe id scope kinds => (r.subscribe id scope kinds).toOption.elim r (·.2)
  | .unsubscribe id scope => (r.unsubscribe id scope).toOption.elim r (·.2)
  | .draw now => { r with ids := (r.ids.next now.age).2 }

def run (r : Registry) (ops : List Op) : Registry := ops.foldl step r

/-- **What an operation does**: nothing, or what one of the lemmas above says. -/
inductive Stepped (r : Registry) : Op → Registry → Prop where
  | refused (x : Op) : Stepped r x r
  | created {now : Moment} {connection : Connection} {identity : Identity} {capabilities : Wire.Capabilities}
    {s : Session} {r' : Registry} (h : r.create now connection identity capabilities = .ok (s, r')) :
    Stepped r (.create now connection identity capabilities) r'
  | destroyed {id : SessionId} {s : Session} {r' : Registry} (h : r.destroy id = some (s, r')) :
    Stepped r (.destroy id) r'
  | subscribed {id : SessionId} {scope : Scope} {kinds : EventKinds} {changed : Bool} {r' : Registry}
    (h : r.subscribe id scope kinds = .ok (changed, r')) : Stepped r (.subscribe id scope kinds) r'
  | unsubscribed {id : SessionId} {scope : Scope} {changed : Bool} {r' : Registry}
    (h : r.unsubscribe id scope = .ok (changed, r')) : Stepped r (.unsubscribe id scope) r'
  | drawn (now : Moment) : Stepped r (.draw now) { r with ids := (r.ids.next now.age).2 }

theorem stepped (r : Registry) (x : Op) : Stepped r x (r.step x) := by
  cases x with
  | create now connection identity capabilities =>
    simp only [step]
    cases h : r.create now connection identity capabilities with
    | error => exact .refused _
    | ok sr => exact .created h
  | destroy id =>
    simp only [step]
    cases h : r.destroy id with
    | none => exact .refused _
    | some sr => exact .destroyed h
  | subscribe id scope kinds =>
    simp only [step]
    cases h : r.subscribe id scope kinds with
    | error => exact .refused _
    | ok cr => exact .subscribed h
  | unsubscribe id scope =>
    simp only [step]
    cases h : r.unsubscribe id scope with
    | error => exact .refused _
    | ok cr => exact .unsubscribed h
  | draw now => exact .drawn now

/-- The generator moves on where an id is taken, and nowhere else. -/
theorem Stepped.ids {r r' : Registry} {x : Op} (h : Stepped r x r') :
    r'.ids = r.ids ∨ ∃ now, r'.ids = (r.ids.next now).2 := by
  cases h with
  | refused => exact .inl rfl
  | created h => exact .inr ⟨_, (create_grants h).2.2⟩
  | destroyed h =>
    obtain ⟨-, _, rfl⟩ := destroy_some h
    exact .inl rfl
  | subscribed h =>
    obtain ⟨s, -, rfl⟩ := subscribe_ok h
    exact .inl rfl
  | unsubscribed h =>
    obtain ⟨s, -, ⟨-, rfl⟩ | ⟨-, rfl⟩⟩ := unsubscribe_ok h <;> exact .inl rfl
  | drawn now => exact .inr ⟨_, rfl⟩

theorem Stepped.time_le {r r' : Registry} {x : Op} (h : Stepped r x r') : r.ids.time ≤ r'.ids.time := by
  rcases h.ids with he | ⟨now, he⟩
  · exact Nat.le_of_eq (congrArg Generator.time he).symm
  · rw [he]
    exact Generator.time_le_next now r.ids

theorem run_time_le : ∀ (ops : List Op) (r : Registry), r.ids.time ≤ (r.run ops).ids.time
  | [], _ => Nat.le_refl _
  | x :: xs, r => Nat.le_trans (stepped r x).time_le (run_time_le xs (r.step x))

theorem fits_step {r : Registry} {x : Op} {xs : List Op} (h : (r.run (x :: xs)).ids.Fits) : (r.step x).ids.Fits :=
  h.mono (run_time_le xs (r.step x))

/-- Nobody is known after an operation who was not known before, but for a session that has just been created. -/
theorem Stepped.handle? {r r' : Registry} {x : Op} (h : Stepped r x r') {id : SessionId} (hid : r'.handle? id ≠ none) :
    r.handle? id ≠ none ∨ r'.ids.HasIssued id := by
  have hreplaced : ∀ {i s s'}, r.session? i = some s → r'.sessions = r.sessions.insert i s' →
      r'.retired = r.retired → r.handle? id ≠ none := by
    intro i s s' hs hsessions hretired
    rw [handle?_of_insert hsessions hretired] at hid
    by_cases he : id = i
    · rw [he, handle?_of_session? hs]; simp
    · rwa [if_neg he] at hid
  cases h with
  | refused | drawn => exact .inl hid
  | created h =>
    rw [handle?_create h] at hid
    split at hid
    · rename_i he
      obtain ⟨-, hissued, hids⟩ := create_grants h
      rw [he, hissued, hids]
      exact .inr (Generator.hasIssued_next _ _)
    · exact .inl hid
  | destroyed h =>
    rw [handle?_destroy h] at hid
    split at hid
    · rename_i he
      rw [he, handle?_of_session? (destroy_some h).1]
      exact .inl (by simp)
    · exact .inl hid
  | subscribed h =>
    obtain ⟨s, hs, rfl⟩ := subscribe_ok h
    exact .inl (hreplaced hs rfl rfl)
  | unsubscribed h =>
    obtain ⟨s, hs, ⟨-, rfl⟩ | ⟨-, rfl⟩⟩ := unsubscribe_ok h
    · exact .inl hid
    · exact .inl (hreplaced hs rfl rfl)

theorem Issued.step {r r' : Registry} {x : Op} (hr : r.Issued) (h : Stepped r x r') : r'.Issued := by
  intro id hid
  rcases h.handle? hid with hknown | hissued
  · rcases h.ids with he | ⟨now, he⟩
    · rw [he]
      exact hr id hknown
    · rw [he]
      exact (hr id hknown).next now
  · exact hissued

theorem Exact.withIds {r : Registry} (hr : r.Exact) (ids : Generator) : Exact { r with ids } :=
  ⟨⟨hr.1.1, hr.1.2, hr.1.3, hr.1.4, hr.1.5⟩, hr.2, hr.3, hr.4, hr.5⟩

theorem Exact.step {r r' : Registry} {x : Op} (hr : r.Exact) (hissued : r.Issued) (h : Stepped r x r')
    (hfits : r'.ids.Fits) : r'.Exact := by
  cases h with
  | refused => exact hr
  | created h => exact hr.create h (session?_eq_none_of_handle? (hissued.fresh h hfits))
  | destroyed h => exact hr.destroy h
  | subscribed h => exact hr.subscribe h
  | unsubscribed h => exact hr.unsubscribe h
  | drawn now => exact hr.withIds _

theorem run_append (r : Registry) (xs ys : List Op) : r.run (xs ++ ys) = (r.run xs).run ys := List.foldl_append

theorem run_exact (ops : List Op) {r : Registry} (hr : r.Exact) (hissued : r.Issued)
    (hfits : (r.run ops).ids.Fits) : (r.run ops).Exact ∧ (r.run ops).Issued := by
  induction ops generalizing r with
  | nil => exact ⟨hr, hissued⟩
  | cons x xs ih =>
    have hstep := stepped r x
    exact ih (hr.step hissued hstep (fits_step hfits)) (hissued.step hstep) hfits

/-! ## Sessions that were destroyed -/

/-- The session is not live any more, and those who hold on to it find it as it was left. -/
def Buried (r : Registry) (id : SessionId) : Prop := r.session? id = none ∧ ∃ s, r.retired[id]? = some s

theorem buried_destroy {id : SessionId} {r r' : Registry} {s : Session} (h : r.destroy id = some (s, r')) :
    r'.Buried id := by
  refine ⟨?_, retire s, ?_⟩
  · rw [session?, sessions_destroy h, getElem?_erase_eq, if_pos rfl]
  · obtain ⟨-, _, rfl⟩ := destroy_some h
    show (r.retired.insert id (retire s))[id]? = _
    rw [getElem?_insert_eq, if_pos rfl]

/-- **Nobody comes back.** -/
theorem Buried.step {r r' : Registry} {x : Op} {id : SessionId} (hid : r.Buried id) (hissued : r.Issued)
    (h : Stepped r x r') (hfits : r'.ids.Fits) : r'.Buried id := by
  obtain ⟨hgone, s₀, hs₀⟩ := hid
  have hother : ∀ {i s}, r.session? i = some s → id ≠ i := by
    intro i s hs he
    rw [← he, hgone] at hs; cases hs
  have hreplaced : ∀ {i s s'}, r.session? i = some s → r'.sessions = r.sessions.insert i s' →
      r'.retired = r.retired → r'.Buried id := by
    intro i s s' hs hsessions hretired
    refine ⟨?_, s₀, by rw [hretired, hs₀]⟩
    rw [session?, hsessions, getElem?_insert_eq, if_neg (hother hs)]
    exact hgone
  cases h with
  | refused | drawn => exact ⟨hgone, s₀, hs₀⟩
  | created h =>
    have hfresh := hissued.fresh h hfits
    refine ⟨?_, s₀, ?_⟩
    · rw [session?, sessions_create h, getElem?_insert_eq, if_neg]
      · exact hgone
      · intro he
        rw [← he, handle?_of_session?_eq_none hgone, hs₀] at hfresh
        cases hfresh
    · obtain ⟨_, _, _, rfl⟩ := create_ok h
      exact hs₀
  | destroyed h =>
    obtain ⟨hs, _, rfl⟩ := destroy_some h
    refine ⟨?_, s₀, ?_⟩
    · show (r.sessions.erase _)[id]? = none
      rw [getElem?_erase_eq, if_neg (hother hs)]
      exact hgone
    · show (r.retired.insert _ _)[id]? = _
      rw [getElem?_insert_eq, if_neg (hother hs), hs₀]
  | subscribed h =>
    obtain ⟨s, hs, rfl⟩ := subscribe_ok h
    exact hreplaced hs rfl rfl
  | unsubscribed h =>
    obtain ⟨s, hs, ⟨-, rfl⟩ | ⟨-, rfl⟩⟩ := unsubscribe_ok h
    · exact ⟨hgone, s₀, hs₀⟩
    · exact hreplaced hs rfl rfl

theorem Buried.run (ops : List Op) {r : Registry} {id : SessionId} (hid : r.Buried id) (hissued : r.Issued)
    (hfits : (r.run ops).ids.Fits) : (r.run ops).Buried id := by
  induction ops generalizing r with
  | nil => exact hid
  | cons x xs ih =>
    have hstep := stepped r x
    exact ih (hid.step hissued hstep (fits_step hfits)) (hissued.step hstep) hfits

theorem destroy_of_session? {r : Registry} {id : SessionId} {s : Session} (h : r.session? id = some s) :
    r.destroy id = some (s, r.step (.destroy id)) := by
  obtain ⟨r', hr'⟩ : ∃ r', r.destroy id = some (s, r') := ⟨_, by rw [Registry.destroy, h]; rfl⟩
  rw [Registry.step, hr']
  rfl

/-- A session that is destroyed in a run is buried at its end. -/
theorem run_buried {ids : Generator} {queue : QueueConfig} {before after : List Op} {id : SessionId}
    (hlive : ((new ids queue).run before).session? id ≠ none)
    (hfits : ((new ids queue).run (before ++ .destroy id :: after)).ids.Fits) :
    ((new ids queue).run (before ++ .destroy id :: after)).Buried id := by
  rw [run_append] at hfits ⊢
  have hbefore := hfits.mono (run_time_le (.destroy id :: after) _)
  obtain ⟨-, hissued⟩ := run_exact before (exact_new ids queue) (issued_new ids queue) hbefore
  obtain ⟨s, hs⟩ := Option.ne_none_iff_exists'.1 hlive
  exact (buried_destroy (destroy_of_session? hs)).run after (hissued.step (stepped _ (.destroy id))) hfits

/-- **Nothing leads to the session any more**: its connection is free, and its user and its scopes are gone where
nobody else has them. -/
structure Forgets (r : Registry) (s : Session) : Prop where
  session? : r.session? s.id = none
  byConnection : ∀ connection : ConnectionId, r.byConnection[connection]? ≠ some s.id
  connection : r.byConnection[s.connection.id]? = none
  byIdentity : ∀ user, s.id ∉ r.byIdentity.ids user
  user : (∀ id, ¬ r.Has id (·.user = s.user)) → s.user ∉ r.byIdentity
  byScope : ∀ scope, s.id ∉ r.byScope.ids scope
  scope : ∀ scope, (∀ id, ¬ r.Has id (scope ∈ ·.subscriptions)) → scope ∉ r.byScope

/-- **Nothing leads to a session that is not live**, if its connection has no other one. -/
theorem Exact.forgets {r : Registry} (hr : r.Exact) {s : Session} (hs : r.session? s.id = none)
    (hconnection : r.byConnection[s.connection.id]? = none) : r.Forgets s := by
  have hnone := not_has_of_session?_eq_none hs
  refine ⟨hs, fun c hc => hnone _ ((hr.byConnection c _).1 hc), hconnection,
    fun user hu => hnone _ ((hr.byIdentity.mem_ids user _).1 hu), fun hlast hu => ?_,
    fun scope hc => hnone _ ((hr.byScope.mem_ids scope _).1 hc), fun scope hlast hc => ?_⟩
  · obtain ⟨i, hi⟩ := (hr.byIdentity.mem_iff _).1 hu
    exact hlast i hi
  · obtain ⟨i, hi⟩ := (hr.byScope.mem_iff _).1 hc
    exact hlast i hi

theorem Exact.forgets_destroyed {id : SessionId} {r r' : Registry} {s : Session} (hr : r.Exact)
    (h : r.destroy id = some (s, r')) : s.id = id ∧ r'.Forgets s := by
  have hs := (destroy_some h).1
  have hid : s.id = id := hr.live_id hs
  refine ⟨hid, (hr.destroy h).forgets (hid ▸ (buried_destroy h).1) ?_⟩
  rw [byConnection_destroy h, if_pos ((hr.byConnection _ _).2 ⟨s, hs, rfl⟩), getElem?_erase_eq, if_pos rfl]

/-! ## What the registry answers -/

/-- `n` is the number of those of which `p` holds. -/
def Counts {α : Type} (n : Nat) (p : α → Prop) : Prop :=
  ∃ all : List α, all.Nodup ∧ (∀ a, a ∈ all ↔ p a) ∧ n = all.length

theorem counts_size {κ V : Type} [Ord κ] [TransOrd κ] [LawfulEqOrd κ] (m : ExtTreeMap κ V) {p : κ → Prop}
    (h : ∀ k, k ∈ m ↔ p k) : Counts m.size p :=
  ⟨m.keys, ExtTreeMap.nodup_keys, fun k => ExtTreeMap.mem_keys.trans (h k), ExtTreeMap.length_keys.symm⟩

/-- **Lookups and counts speak of the live sessions**, of all of them, and of each once. -/
structure Reports (r : Registry) : Prop where
  ofConnection? : ∀ connection s, r.ofConnection? connection = some s ↔
    r.session? s.id = some s ∧ s.connection.id = connection
  subscribers : ∀ scope, ((r.subscribers scope).map (·.id)).Nodup ∧
    ∀ s, s ∈ r.subscribers scope ↔ r.session? s.id = some s ∧ scope ∈ s.subscriptions
  ofIdentity : ∀ user, ((r.ofIdentity user).map (·.id)).Nodup ∧
    ∀ s, s ∈ r.ofIdentity user ↔ r.session? s.id = some s ∧ s.user = user
  sessionCount : Counts r.sessionCount (fun id => ∃ s, r.session? id = some s)
  identityCount : Counts r.identityCount (fun user => ∃ id, r.Has id (·.user = user))
  scopeCount : Counts r.scopeCount (fun scope => ∃ id, r.Has id (scope ∈ ·.subscriptions))

/-- The sessions found through an index are those that belong to the key. -/
theorem Exact.found {κ : Type} [Ord κ] [TransOrd κ] {r : Registry} (hr : r.Exact) {index : SessionIndex κ}
    {p : κ → Session → Prop} (h : index.Lists (fun key id => r.Has id (p key))) (key : κ) :
    (((index.ids key).filterMap r.session?).map (·.id)).Nodup ∧
      ∀ s, s ∈ (index.ids key).filterMap r.session? ↔ r.session? s.id = some s ∧ p key s := by
  have hids : ∀ ids : List SessionId, (∀ id ∈ ids, ∃ s, r.session? id = some s) →
      (ids.filterMap r.session?).map (·.id) = ids := by
    intro ids hlive
    induction ids with
    | nil => rfl
    | cons id ids ih =>
      obtain ⟨s, hs⟩ := hlive id List.mem_cons_self
      rw [List.filterMap_cons_some hs, List.map_cons, hr.live_id hs,
        ih (fun j hj => hlive j (List.mem_cons_of_mem _ hj))]
  refine ⟨?_, fun s => ?_⟩
  · rw [hids]
    · exact index.nodup_ids key
    · intro id hid
      obtain ⟨s, hs, -⟩ := (h.mem_ids key id).1 hid
      exact ⟨s, hs⟩
  · rw [List.mem_filterMap]
    constructor
    · rintro ⟨id, hid, hs⟩
      rw [hr.live_id hs]
      exact ⟨hs, (has_of_session? hs _).1 ((h.mem_ids key id).1 hid)⟩
    · rintro ⟨hs, hp⟩
      exact ⟨s.id, (h.mem_ids key s.id).2 ⟨s, hs, hp⟩, hs⟩

theorem Exact.reports {r : Registry} (hr : r.Exact) : r.Reports := by
  refine ⟨fun c s => ?_, hr.found hr.byScope, hr.found hr.byIdentity, counts_size _ fun id => ?_,
    counts_size _ hr.byIdentity.mem_iff, counts_size _ hr.byScope.mem_iff⟩
  · unfold ofConnection?
    constructor
    · intro h
      obtain ⟨id, hid, hs⟩ := Option.bind_eq_some_iff.1 h
      rw [hr.live_id hs]
      exact ⟨hs, (has_of_session? hs _).1 ((hr.byConnection c id).1 hid)⟩
    · rintro ⟨hs, hc⟩
      exact Option.bind_eq_some_iff.2 ⟨s.id, (hr.byConnection c s.id).2 ⟨s, hs, hc⟩, hs⟩
  · rw [ExtTreeMap.mem_iff_isSome_getElem?, Option.isSome_iff_exists]
    rfl

/-- **The registry is consistent after every run.**  Its indexes are what the live sessions determine, what it answers
speaks of these and of nothing else, and a session that is destroyed is forgotten at once and for good: nothing leads to
it, and whoever still holds it finds it released and subscribed to nothing.  The ids come from one generator, whose
clock still fits into an id at the end of the run. -/
theorem indexes_match_sessions (ids : Generator) (queue : QueueConfig) (ops : List Op)
    (fits : ((new ids queue).run ops).ids.Fits) :
    let r := (new ids queue).run ops
    r.Exact ∧ r.Reports ∧
      (∀ id s r', r.destroy id = some (s, r') → s.id = id ∧ r'.Exact ∧ r'.Forgets s) ∧
      ∀ before id after, ops = before ++ .destroy id :: after → ((new ids queue).run before).session? id ≠ none →
        r.session? id = none ∧ ∃ s, r.retired[id]? = some s ∧ s.released = true ∧ s.subscriptions = ∅ := by
  intro r
  obtain ⟨hr, -⟩ := run_exact ops (exact_new ids queue) (issued_new ids queue) fits
  refine ⟨hr, hr.reports, fun id s r' h => ?_, fun before id after hops hlive => ?_⟩
  · obtain ⟨hid, hforgets⟩ := hr.forgets_destroyed h
    exact ⟨hid, hr.destroy h, hforgets⟩
  · subst hops
    obtain ⟨hgone, t, ht⟩ := run_buried hlive fits
    exact ⟨hgone, t, ht, hr.retired_released ht, hr.retired_subscriptions ht⟩

/-- A user leaves and comes back on the same connection with a new session; the first one stays released.  A second
session for a connection is refused, and so is a subscription of one that is gone. -/
theorem indexes_match_sessions_reconnected :
    let client := Op.create ⟨0, 0⟩ ⟨1, .json, ⟨2, 0⟩⟩ ⟨⟨7⟩, "agent"⟩ .all
    let ops := [client, client, .subscribe ⟨4097⟩ .presence .presence, .draw ⟨0, 0⟩, .destroy ⟨4097⟩, client,
      .subscribe ⟨4097⟩ .presence .presence, .destroy ⟨4097⟩]
    let r := (new ⟨1, 0, 0⟩ ⟨1, 1, .disconnect⟩).run ops
    r.ids.Fits ∧ r.byConnection[1]? = some ⟨4099⟩ ∧ (r.sessionCount, r.identityCount, r.scopeCount) = (1, 1, 0) ∧
      ∃ s, r.retired[(⟨4097⟩ : SessionId)]? = some s ∧ s.released = true ∧ s.subscriptions = ∅ := by
  intro client ops r
  have hfits : r.ids.Fits := by
    show r.ids.time * _ < _
    decide +kernel
  obtain ⟨-, -, -, hgone⟩ := indexes_match_sessions ⟨1, 0, 0⟩ ⟨1, 1, .disconnect⟩ ops hfits
  refine ⟨hfits, by decide +kernel, by decide +kernel, ?_⟩
  exact (hgone [client, client, .subscribe ⟨4097⟩ .presence .presence, .draw ⟨0, 0⟩] ⟨4097⟩ _ rfl
    (by decide +kernel)).2

end Registry
end EventGateway
