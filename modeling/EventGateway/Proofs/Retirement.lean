import EventGateway.Proofs.Freshness
/-!
# Retirement — nothing comes to a session that is gone

A session that is destroyed is `Gone` for whoever still holds on to it: every push finds it closed, a drain says that it
is finished, and no lookup leads to it.  All of this follows from two marks, that it is released and that its queue is
shut (`Consistent.gone`); destroying sets both, and no move takes either of them away (`Session.Retired.move`).
-/
namespace EventGateway

namespace Session

/-- The marks of a session that was destroyed. -/
structure Retired (s : Session) : Prop where
  released : s.released = true
  shut : s.queue.shut = true

theorem retired_retire (s : Session) : (Registry.retire s).Retired := ⟨rfl, rfl⟩

namespace Retired

variable {s : Session}

theorem isClosing (h : s.Retired) : s.queue.isClosing = true := by rw [Queue.isClosing, h.shut, Bool.or_true]

/-- **A push finds it closed**, and leaves nothing with it. -/
theorem push (h : s.Retired) (now : Nat) (p : Wire.Payload) : s.push now p = (.closed, s) := by
  rw [Session.push, Queue.push, if_pos h.isClosing]

theorem closeWith (h : s.Retired) (code : CloseCode) : s.closeWith code = (false, s) := by
  rw [Session.closeWith, Queue.closeWith, if_pos h.isClosing]

/-- **A drain only says that it is finished**, whatever was queued, missed or closing before. -/
theorem nextOutgoing (h : s.Retired) : s.nextOutgoing.1 = some ⟨[], none, true⟩ := by
  have hwork : s.queue.hasWork = true := by rw [Queue.hasWork, h.shut, Bool.or_true]
  have hbatch : s.queue.drain.1 = some ⟨0, [], none, true⟩ := by
    rw [Queue.drain, hwork, h.shut]; rfl
  unfold Session.nextOutgoing
  generalize s.queue.drain = d at hbatch
  obtain ⟨batch, q⟩ := d
  obtain rfl : batch = some ⟨0, [], none, true⟩ := hbatch
  rfl

/-- **No move takes the marks away.** -/
theorem move (h : s.Retired) (m : Move) : (s.move m).Retired := by
  cases m with
  | offer now e =>
    rw [Session.move, offer_of_released h.released]
    exact h
  | push now p =>
    rw [Session.move, h.push]
    exact h
  | heartbeat now =>
    rw [Session.move, h.push]
    exact h
  | close code =>
    rw [Session.move, h.closeWith]
    exact h
  | drain =>
    refine ⟨s.sameStanding_nextOutgoing.released_eq.trans h.released, ?_⟩
    rw [Session.move, nextOutgoing_queue, Queue.drain_shut]
    exact h.shut
  | subscribe => exact ⟨h.released, h.shut⟩
  | unsubscribe scope =>
    rw [Session.move]
    split
    · exact ⟨h.released, h.shut⟩
    · exact h
  | retire => exact retired_retire s

theorem moves (h : s.Retired) : ∀ ms : List Move, (ms.foldl Session.move s).Retired := by
  intro ms
  induction ms generalizing s with
  | nil => exact h
  | cons m ms ih => exact ih (h.move m)

end Retired

/-- Only retiring releases a session. -/
theorem released_move (s : Session) {m : Move} (hm : m ≠ .retire) : (s.move m).released = s.released := by
  cases m with
  | offer now e =>
    rw [move, offer]
    split <;> rfl
  | drain => exact s.sameStanding_nextOutgoing.released_eq
  | unsubscribe scope =>
    rw [move]
    split <;> rfl
  | retire => exact absurd rfl hm
  | _ => rfl

/-- **A session that is released has its queue shut**, whatever was done to it. -/
theorem retired_of_moves : ∀ (ms : List Move) {s : Session}, (s.released = true → s.Retired) →
    (ms.foldl move s).released = true → (ms.foldl move s).Retired
  | [], _, hs, h => hs h
  | m :: ms, s, hs, h => by
    refine retired_of_moves ms (fun hm => ?_) h
    by_cases hretire : m = .retire
    · rw [hretire]
      exact retired_retire s
    · rw [s.released_move hretire] at hm
      exact (hs hm).move m

end Session

namespace Registry

/-- Putting back a session as it is changes nothing. -/
theorem put_self {r : Registry} (hr : r.Consistent) {id : SessionId} {s : Session} (h : r.handle? id = some s) :
    r.put s = r := by
  have hid : s.id = id := hr.handle_id h
  have hsame : ∀ m : Std.ExtTreeMap SessionId Session, m[id]? = some s → m.insert s.id s = m := fun m hm => by
    refine Std.ExtTreeMap.ext_getElem? fun i => ?_
    rw [getElem?_insert_eq, hid]
    split
    · rename_i hi
      rw [hi, hm]
    · rfl
  unfold put
  split
  · rename_i hlive
    rw [hid, Std.ExtTreeMap.contains_eq_isSome_getElem?] at hlive
    obtain ⟨t, ht⟩ := Option.isSome_iff_exists.1 hlive
    have ht' : r.handle? id = some t := handle?_of_session? ht
    rw [hsame r.sessions (by rw [ht, ← ht', h])]
  · rename_i hlive
    rw [hid, Std.ExtTreeMap.contains_eq_isSome_getElem?, Bool.not_eq_true, Option.isSome_eq_false_iff,
      Option.isNone_iff_eq_none] at hlive
    rw [hsame r.retired (by rw [← handle?_of_session?_eq_none hlive, h])]

/-- A session that is known and released is not among the live ones. -/
theorem Consistent.session?_of_released {r : Registry} (hr : r.Consistent) {id : SessionId} {s : Session}
    (h : r.handle? id = some s) (hs : s.released = true) : r.session? id = none := by
  cases ht : r.session? id with
  | none => rfl
  | some t =>
    rw [handle?_of_session? ht] at h
    rw [← Option.some.inj h, hr.live_released ht] at hs
    cases hs

/-- A change that leaves the session as it is. -/
theorem modify?_self {α : Type} {r : Registry} (hr : r.Consistent) {id : SessionId} {s : Session}
    (h : r.handle? id = some s) {f : Session → α × Session} {a : α} (hf : f s = (a, s)) :
    r.modify? id f = some (a, r) := by
  rw [modify?_of_handle? f h, hf, put_self hr h]

end Registry

namespace Router

/-- **What is left of a session that was destroyed**, for whoever still holds on to it. -/
structure Gone (id : SessionId) (r : Router) : Prop where
  enqueue : ∀ now p, r.enqueue now id p = (.closed, r)
  reply : ∀ now p, r.reply now id p = (.closed, r)
  closeWith : ∀ code, r.closeWith id code = (false, r)
  subscribe : ∀ scope kinds, r.subscribe id scope kinds = .error (.sessionNotFound id)
  unsubscribe : ∀ scope, r.unsubscribe id scope = .error (.sessionNotFound id)
  nextOutgoing : (r.nextOutgoing id).1 = some ⟨[], none, true⟩
  destroy : r.destroy id = none
  session? : r.registry.session? id = none
  ofConnection? : ∀ c s, r.registry.ofConnection? c = some s → s.id ≠ id
  subscribers : ∀ scope, ∀ s ∈ r.registry.subscribers scope, s.id ≠ id
  ofIdentity : ∀ user, ∀ s ∈ r.registry.ofIdentity user, s.id ≠ id
  /-- Publishing an event pushes nothing to it, and so counts nothing for it. -/
  publish : ∀ now e, (∀ outcome, (id, outcome) ∉ (r.fanOut now e e.scopes).outcomes) ∧
    (r.publish now e).2.registry.handle? id = r.registry.handle? id
  /-- Neither its own commands nor those of others bring it anything. -/
  submit : ∀ handler now i command,
    (r.submit handler now i command).2.registry.handle? id = r.registry.handle? id

section Gone

variable {r : Router} {id : SessionId} {s : Session}

theorem handle?_publishAll_of_released (now : Moment) (es : List Event) (hr : r.registry.Consistent)
    (h : r.registry.handle? id = some s) (hs : s.released = true) :
    (publishAll now es r).registry.handle? id = some s := by
  rw [handle?_publishAll now id es hr, h, Option.map_some]
  congr 1
  induction es with
  | nil => rfl
  | cons e es ih =>
    rw [List.map_cons, List.foldl_cons, Session.move, Session.offer_of_released hs]
    exact ih

/-- A push to some session leaves one that was destroyed as it is. -/
theorem handle?_pushed_of_retired {registry : Registry} (hr : registry.Consistent)
    (h : registry.handle? id = some s) (hs : s.Retired) (i : SessionId) (now : Nat) (p : Wire.Payload) :
    (registry.changed i (·.push now p)).handle? id = some s := by
  rw [handle?_pushed hr, h]
  split
  · rw [Option.map_some, Session.move, hs.push]
  · rfl

/-- A command changes the subscriptions of live sessions only. -/
theorem handle?_executed_of_retired {handler : CommandHandler} {now : Moment} {sender : Session} {command : Command}
    {answer : Except CommandError Unit} {registry : Registry} (hr : r.registry.Consistent)
    (h : r.registry.handle? id = some s) (hs : s.Retired)
    (hexecuted : Executed handler now sender r command answer registry) : registry.handle? id = some s := by
  have hsession : r.registry.session? id = none := hr.session?_of_released h hs.released
  cases hexecuted with
  | refused => exact h
  | failed action e r₁ h₁ =>
    rw [registry_perform h₁]
    exact h
  | subscribed scope kinds r₀ r₁ changed h₀ h₁ =>
    obtain ⟨t, ht, -⟩ := Registry.subscribe_ok (subscribe_ok h₁)
    rw [h₀] at ht
    have hne : id ≠ sender.id := fun he => by rw [he, ht] at hsession; cases hsession
    refine handle?_pushed_of_retired (Registry.Consistent.subscribe (h₀ ▸ hr) (subscribe_ok h₁)) ?_ hs _ _ _
    rw [handle?_subscribe h₁, if_neg hne, h₀, h]
  | unsubscribed scope r₁ changed h₁ =>
    obtain ⟨t, ht, -⟩ := Registry.unsubscribe_ok (unsubscribe_ok h₁)
    have hne : id ≠ sender.id := fun he => by rw [he, ht] at hsession; cases hsession
    refine handle?_pushed_of_retired (hr.unsubscribe (unsubscribe_ok h₁)) ?_ hs _ _ _
    rw [handle?_unsubscribe h₁, if_neg hne, h]
  | heartbeat => exact handle?_pushed_of_retired hr h hs _ _ _
  | acted action events r₁ h₁ =>
    have hr₁ := registry_perform h₁
    refine handle?_publishAll_of_released now events (hr₁ ▸ consistent_withIds hr _) ?_ hs.released
    rw [hr₁]
    exact h

theorem handle?_submit_of_retired (hr : r.registry.Consistent) (h : r.registry.handle? id = some s) (hs : s.Retired)
    (handler : CommandHandler) (now : Moment) (i : SessionId) (command : Command) :
    (r.submit handler now i command).2.registry.handle? id = some s := by
  generalize hregistry : (r.submit handler now i command).2.registry = registry
  have hsubmitted : Submitted handler now i r command registry := hregistry ▸ submitted handler now i command r
  cases hsubmitted with
  | unknown => exact h
  | reported sender _ e registry hexecuted =>
    exact handle?_pushed_of_retired (kept_consistent.execute hr hexecuted)
      (handle?_executed_of_retired hr h hs hexecuted) hs _ _ _
  | done sender _ _ hexecuted => exact handle?_executed_of_retired hr h hs hexecuted

/-- **The marks say it all.** -/
theorem gone_of_retired (hr : r.registry.Consistent) (h : r.registry.handle? id = some s) (hs : s.Retired) :
    r.Gone id := by
  have hsession : r.registry.session? id = none := hr.session?_of_released h hs.released
  have henqueue : ∀ now p, r.enqueue now id p = (.closed, r) := fun now p => by
    unfold enqueue
    rw [Registry.modify?_self hr h (hs.push now.ticks p)]
  have hfound : ∀ {i t}, r.registry.session? i = some t → t.id ≠ id := fun ht he => by
    rw [← he, hr.live_id ht, ht] at hsession
    cases hsession
  refine ⟨henqueue, fun now p => ?_, fun code => ?_, fun scope kinds => ?_, fun scope => ?_, ?_, ?_, hsession,
    fun c t ht => ?_, fun scope t ht => ?_, fun user t ht => ?_, fun now e => ⟨fun outcome hmem => ?_, ?_⟩,
    fun handler now i command => ?_⟩
  · rw [reply, henqueue]; rfl
  · unfold closeWith
    rw [Registry.modify?_self hr h (hs.closeWith code)]
  · exact (subscribe_eq id scope kinds r).1 _ (Registry.subscribe_of_session?_eq_none hsession scope kinds)
  · exact (unsubscribe_eq id scope r).1 _ (Registry.unsubscribe_of_session?_eq_none hsession scope)
  · rw [nextOutgoing_fst_of_handle? h, hs.nextOutgoing]
  · rw [destroy, Registry.destroy, hsession]; rfl
  · obtain ⟨i, -, hi⟩ := Option.bind_eq_some_iff.1 ht
    exact hfound hi
  · obtain ⟨i, -, hi⟩ := List.mem_filterMap.1 ht
    exact hfound hi
  · obtain ⟨i, -, hi⟩ := List.mem_filterMap.1 ht
    exact hfound hi
  · obtain ⟨t, ht, -⟩ := ((fanOut_spec now e (List.Subset.refl e.scopes) hr).2 id).1
      (List.mem_map_of_mem (f := Prod.fst) hmem)
    rw [hsession] at ht
    cases ht
  · rw [handle?_publish now e hr, h, Option.map_some, Session.offer_of_released hs.released]
  · rw [handle?_submit_of_retired hr h hs handler now i command, h]

end Gone

/-! ## Along runs -/

/-- No step of a run begins the session anew. -/
def Spares (id : SessionId) : List Step → Router → Prop
  | [], _ => True
  | x :: xs, r => r.begins id x = false ∧ Spares id xs (r.step x)

theorem begins_of_no_create {r : Router} {id : SessionId} {x : Step} (hx : ∀ c, x.isFor c = false) :
    r.begins id x = false := by
  cases x with
  | create now connection identity capabilities =>
    have h := hx connection.id
    simp [Step.isFor] at h
  | _ => rfl

theorem spares_of_no_create {id : SessionId} : ∀ (xs : List Step) (r : Router), (∀ x ∈ xs, ∀ c, x.isFor c = false) →
    r.Spares id xs
  | [], _, _ => trivial
  | x :: xs, r, h => ⟨begins_of_no_create (h x List.mem_cons_self),
      spares_of_no_create xs (r.step x) fun y hy => h y (List.mem_cons_of_mem _ hy)⟩

/-- **The id of a session that is known is not given to another one.** -/
theorem Sound.spares {queue : QueueConfig} {id : SessionId} {xs : List Step} {r : Router} {s : Session}
    (hr : r.Sound queue) (hdraws : ∀ x ∈ xs, x.Draws) (hfits : (r.run xs).registry.ids.Fits)
    (hs : r.registry.handle? id = some s) : r.Spares id xs := by
  induction xs generalizing r s with
  | nil => trivial
  | cons x xs ih =>
    have hdraws' : ∀ y ∈ xs, y.Draws := fun y hy => hdraws y (List.mem_cons_of_mem _ hy)
    have hfits' : (r.step x).registry.ids.Fits := Generator.Fits.mono hfits (run_keeps xs hdraws').2
    obtain ⟨ms, -, hs'⟩ := hr.moves hs hfits'
    refine ⟨Bool.eq_false_iff.2 fun hbegins => ?_, ih (hr.step (hdraws x List.mem_cons_self)) hdraws' hfits hs'⟩
    rw [hr.fresh hbegins hfits'] at hs
    cases hs

/-- **Once the marks are set, they stay.** -/
theorem retired_run {id : SessionId} : ∀ (xs : List Step) {r : Router} {s : Session}, r.registry.Consistent →
    r.Spares id xs → r.registry.handle? id = some s → s.Retired →
      ∃ s', (r.run xs).registry.handle? id = some s' ∧ s'.Retired
  | [], _, s, _, _, hs, hretired => ⟨s, hs, hretired⟩
  | x :: xs, r, s, hr, hspares, hs, hretired => by
    obtain ⟨ms, -, hundergoes⟩ := step_moves hr x id hspares.1
    refine retired_run xs (consistent_step hr x).1 hspares.2 ?_ (hretired.moves ms)
    rw [hundergoes.handle?, hs]
    rfl

/-- What released a session has shut its queue. -/
def Marked (r : Router) : Prop := ∀ {id : SessionId} {s : Session}, r.registry.handle? id = some s →
  s.released = true → s.Retired

theorem marked_step {r : Router} (hr : r.registry.Consistent) (hmarked : r.Marked) (x : Step) : (r.step x).Marked :=
  fun {id s} hs => step_invariant (P := fun _ s => s.released = true → s.Retired) (a := .empty)
    (fun _ _ _ _ h => by cases h) hr rfl (fun ms _ _ _ ht => Session.retired_of_moves ms ht) (fun _ ht => hmarked ht) s hs

theorem marked_run : ∀ (xs : List Step) {r : Router}, r.registry.Consistent → r.Marked → (r.run xs).Marked
  | [], _, _, hmarked => hmarked
  | x :: xs, _, hr, hmarked => marked_run xs (consistent_step hr x).1 (marked_step hr hmarked x)

/-- **Destroying a session that is known**, for the first time or not, leaves it with the marks. -/
theorem retired_destroyed {r : Router} (hr : r.registry.Consistent) (hmarked : r.Marked) {id : SessionId} {s : Session}
    (h : r.registry.handle? id = some s) :
    ∃ s', (r.step (.destroy id)).registry.handle? id = some s' ∧ s'.Retired := by
  cases hs : r.registry.session? id with
  | some t =>
    obtain ⟨r', hdestroy⟩ : ∃ r', r.destroy id = some (t, r') := by
      rw [destroy, Registry.destroy_of_session? hs]
      exact ⟨_, rfl⟩
    refine ⟨Registry.retire t, ?_, Session.retired_retire t⟩
    simp only [step, hdestroy]
    exact (Registry.handle?_destroy (destroy_some hdestroy) id).trans (if_pos rfl)
  | none =>
    have hdestroy : r.destroy id = none := by
      rw [destroy, Registry.destroy, hs]; rfl
    refine ⟨s, by simp only [step, hdestroy]; exact h, hmarked h ?_⟩
    rw [Registry.handle?_of_session?_eq_none hs] at h
    exact hr.retired_released h

/-- **Nothing is delivered after a session was destroyed.**  Whatever a run does before that and after it, every push
to the session finds it closed, a drain says that it is finished and hands over nothing, it takes no subscription, no
lookup leads to it, and publishing counts nothing for it.  The run may go on with sessions that come later, as long as
ids are only taken from the generator and an id has room for its clock. -/
theorem destroyed_is_gone (ids : Generator) (queue : QueueConfig) (before after : List Step) (id : SessionId)
    (hknown : ((new ids queue).run before).registry.handle? id ≠ none)
    (hlater : (∀ x ∈ after, ∀ c, x.isFor c = false) ∨ (∀ x ∈ before ++ after, x.Draws) ∧
      ((new ids queue).run (before ++ .destroy id :: after)).registry.ids.Fits) :
    ((new ids queue).run (before ++ .destroy id :: after)).Gone id := by
  have hsplit : (new ids queue).run (before ++ .destroy id :: after) =
      (((new ids queue).run before).step (.destroy id)).run after := List.foldl_append
  rw [hsplit] at hlater ⊢
  obtain ⟨s, hs⟩ := Option.ne_none_iff_exists'.1 hknown
  have hnew : (new ids queue).registry.Consistent := Registry.consistent_new ids queue
  obtain ⟨s₁, hs₁, hretired⟩ :=
    retired_destroyed (consistent_run before hnew) (marked_run before hnew fun h => by cases h) hs
  have hr : (((new ids queue).run before).step (.destroy id)).registry.Consistent :=
    (consistent_step (consistent_run before hnew) _).1
  have hspares : (((new ids queue).run before).step (.destroy id)).Spares id after := by
    rcases hlater with hcreate | ⟨hdraws, hfits⟩
    · exact spares_of_no_create after _ hcreate
    · have hsound := (sound_new ids queue).run before fun x hx => hdraws x (List.mem_append_left _ hx)
      exact (hsound.step (x := .destroy id) trivial).spares (fun x hx => hdraws x (List.mem_append_right _ hx)) hfits hs₁
  obtain ⟨s₂, hs₂, hretired₂⟩ := retired_run after hr hspares hs₁ hretired
  exact gone_of_retired (consistent_run after hr) hs₂ hretired₂

/-- A session is destroyed with an event in its queue, another one missed and a close code recorded.  Then events are
published, its own commands and replies go on, and another session comes: the writer is told that it is finished. -/
theorem destroyed_is_gone_closing :
    let client (n : Nat) := Step.create ⟨0, 0⟩ ⟨n, .json, ⟨2, 0⟩⟩ ⟨⟨7⟩, "agent"⟩ .all
    let event := Step.publish ⟨0, 0⟩ (.presenceUpdated ⟨5⟩ .online)
    let before := [client 1, .subscribe ⟨4097⟩ .presence .all, event, event]
    let after := [event, .submit (LocalChannels.handler ⟨[]⟩) ⟨0, 0⟩ ⟨4097⟩ (.subscribe .presence .all),
      .reply ⟨0, 0⟩ ⟨4097⟩ (.heartbeatAck 0), .close ⟨4097⟩ .timeout, client 2, .drain ⟨4097⟩, event]
    let r := (new ⟨1, 0, 0⟩ ⟨1, 1, .disconnect⟩).run before
    let r' := (new ⟨1, 0, 0⟩ ⟨1, 1, .disconnect⟩).run (before ++ .destroy ⟨4097⟩ :: after)
    (r.registry.session? ⟨4097⟩).map (fun s => (s.queue.items.length, s.queue.missed, s.queue.close)) =
        some (1, 1, some .backpressureOverflow) ∧
      r'.registry.sessionCount = 1 ∧ (r'.nextOutgoing ⟨4097⟩).1 = some ⟨[], none, true⟩ := by
  intro client event before after r r'
  have hfits : r'.registry.ids.Fits := by
    show r'.registry.ids.time * _ < _
    decide +kernel
  have hdraws : ∀ x ∈ before ++ after, x.Draws := by
    intro x hx
    simp only [before, after, event, client, List.mem_append, List.mem_cons, List.not_mem_nil, or_false] at hx
    rcases hx with (rfl | rfl | rfl | rfl) | (rfl | rfl | rfl | rfl | rfl | rfl | rfl)
    case inr.inr.inl => exact LocalChannels.execute_draws ⟨[]⟩
    all_goals exact trivial
  have hgone : r'.Gone ⟨4097⟩ := destroyed_is_gone ⟨1, 0, 0⟩ ⟨1, 1, .disconnect⟩ before after ⟨4097⟩ (by decide +kernel)
    (.inr ⟨hdraws, hfits⟩)
  exact ⟨by decide +kernel, by decide +kernel, hgone.nextOutgoing⟩

end Router
end EventGateway
