import EventGateway.Proofs.Accounting
import EventGateway.Proofs.Counters
import EventGateway.Proofs.Retirement
import EventGateway.Proofs.Totals
/-!
# The ledger — the counters of the router against what was handed over

The router counts what its pushes answer; the writers see what is drained.  A `Ledger` writes down what each step of a
run publishes, hands over and throws away, and `Balanced` ties it to the queues of the live sessions.  Publishing is
balanced session by session (`offer_balance`) and then summed up; every other step concerns one session at most.
-/
namespace EventGateway

open Wire (Payload Envelope)

namespace Session

/-- The number of events in the queue. -/
def queued (s : Session) : Nat := (eventsOf s.queue.items).length

/-- The number of lost events that the session has still to be told of. -/
def missed (s : Session) : Nat := s.queue.missed

/-- The number of events that leave the queue because an event is published. -/
def evicted (now : Nat) (e : Event) (s : Session) : Nat :=
  if s.wants e ∧ (s.push now e.payload).1 = .queuedAfterDrop ∧ s.queue.items.any (·.isSequenced) then 1 else 0

/-- The queue is open, and every dispatch in it is an event. -/
structure Proper (s : Session) : Prop where
  shut : s.queue.shut = false
  events : ∀ p ∈ s.queue.items, p.isSequenced = true → p.isEvent = true

theorem eventsOf_eraseP : ∀ {ps : List Payload}, (∀ p ∈ ps, p.isSequenced = true → p.isEvent = true) →
    (eventsOf (ps.eraseP (·.isSequenced))).length + (if ps.any (·.isSequenced) then 1 else 0) = (eventsOf ps).length
  | [], _ => rfl
  | p :: ps, h => by
    have ih := eventsOf_eraseP fun q hq => h q (List.mem_cons_of_mem _ hq)
    cases hp : p.isSequenced with
    | true =>
      have hevent : p.isEvent = true := h p List.mem_cons_self hp
      simp [hp, eventsOf, hevent]
    | false =>
      have hevent : p.isEvent = false := by simp [Payload.isEvent, hp]
      simpa [hp, eventsOf, hevent] using ih

/-- **An event that is pushed stands in the queue or is counted as lost**, and so is the one that it evicts. -/
theorem push_balance {s : Session} (hs : s.Proper) (now : Nat) (e : Event) :
    (s.push now e.payload).2.Proper ∧
      (s.push now e.payload).2.queued + (if (s.push now e.payload).1 = .queuedAfterDrop ∧
        s.queue.items.any (·.isSequenced) then 1 else 0) = s.queued + (s.push now e.payload).1.isQueued.toNat ∧
      (s.push now e.payload).2.missed = s.missed + (s.push now e.payload).1.dropped := by
  have houtcome : (s.push now e.payload).1 = (s.queue.push now e.payload).1 := rfl
  have hqueue : (s.push now e.payload).2.queue = (s.queue.push now e.payload).2 := rfl
  have hself : eventsOf [e.payload] = [e.payload] := by simp [eventsOf, isEvent_payload]
  have hcontrol : ∀ {P : Prop}, e.payload.isSequenced = false → P := fun h => by
    rw [isSequenced_payload] at h; cases h
  have hlast : ∀ {ps : List Payload}, (∀ p ∈ ps, p.isSequenced = true → p.isEvent = true) →
      ∀ p ∈ ps ++ [e.payload], p.isSequenced = true → p.isEvent = true := fun hps p hp hseq => by
    rcases List.mem_append.1 hp with hp | hp
    · exact hps p hp hseq
    · rw [List.mem_singleton.1 hp]; exact isEvent_payload e
  suffices h : ((s.queue.push now e.payload).2.shut = false ∧
      ∀ p ∈ (s.queue.push now e.payload).2.items, p.isSequenced = true → p.isEvent = true) ∧
      (eventsOf (s.queue.push now e.payload).2.items).length + (if (s.queue.push now e.payload).1 = .queuedAfterDrop ∧
        s.queue.items.any (·.isSequenced) then 1 else 0) =
          (eventsOf s.queue.items).length + (s.queue.push now e.payload).1.isQueued.toNat ∧
      (s.queue.push now e.payload).2.missed = s.queue.missed + (s.queue.push now e.payload).1.dropped from
    ⟨⟨h.1.1, h.1.2⟩, h.2.1, h.2.2⟩
  obtain ⟨hshut, hevents⟩ := hs
  generalize hr : s.queue.push now e.payload = r
  have hpushed : Queue.Pushed now e.payload s.queue r := hr ▸ Queue.pushed now e.payload s.queue
  cases hpushed with
  | closing => exact ⟨⟨hshut, hevents⟩, rfl, rfl⟩
  | control _ h => exact hcontrol h
  | controlRefused _ h => exact hcontrol h
  | dispatch =>
    refine ⟨⟨hshut, hlast hevents⟩, ?_, rfl⟩
    show (eventsOf (s.queue.items ++ [e.payload])).length + _ = _
    rw [eventsOf_append, hself]
    simp [PushOutcome.isQueued]
  | evicting =>
    refine ⟨⟨hshut, hlast fun p hp => hevents p (List.mem_of_mem_eraseP hp)⟩, ?_, rfl⟩
    show (eventsOf (s.queue.items.eraseP (·.isSequenced) ++ [e.payload])).length + _ = _
    have herased := eventsOf_eraseP hevents
    rw [eventsOf_append, hself]
    simp only [List.length_append, List.length_singleton, true_and, PushOutcome.isQueued, Bool.toNat_true]
    omega
  | dispatchRefused => exact ⟨⟨hshut, hevents⟩, rfl, rfl⟩

/-- The same of an offer, which is no push to a session that does not want the event. -/
theorem offer_balance {s : Session} (hs : s.Proper) (now : Nat) (e : Event) :
    (s.offer now e).Proper ∧
      (s.offer now e).queued + s.evicted now e =
        s.queued + (if s.wants e then (s.push now e.payload).1.isQueued.toNat else 0) ∧
      (s.offer now e).missed = s.missed + (if s.wants e then (s.push now e.payload).1.dropped else 0) := by
  unfold offer evicted
  by_cases hw : s.wants e = true
  · simp only [hw, if_true, true_and]
    exact push_balance hs now e
  · simp [hw, hs]

/-- **No event comes or goes, and none is counted.** -/
structure Undisturbed (s s' : Session) : Prop where
  proper : s.Proper → s'.Proper
  queued : s'.queued = s.queued
  missed : s'.missed = s.missed

theorem Undisturbed.refl (s : Session) : s.Undisturbed s := ⟨fun hs => hs, rfl, rfl⟩

/-- Nothing but control replies is pushed, and the queue is closed at most. -/
theorem undisturbed_push (s : Session) (now : Nat) {p : Payload} (hp : p.isSequenced = false) :
    s.Undisturbed (s.push now p).2 := by
  have hdispatch : ∀ {P : Prop}, p.isSequenced = true → P := fun h => by rw [hp] at h; cases h
  have hevent : p.isEvent = false := by simp [Payload.isEvent, hp]
  suffices h : ((s.queue.push now p).2.shut = s.queue.shut ∧
      ∀ x ∈ (s.queue.push now p).2.items, x.isSequenced = true → x ∈ s.queue.items) ∧
      eventsOf (s.queue.push now p).2.items = eventsOf s.queue.items ∧
      (s.queue.push now p).2.missed = s.queue.missed from
    ⟨fun hs => ⟨h.1.1.trans hs.shut, fun x hx hseq => hs.events x (h.1.2 x hx hseq) hseq⟩,
      congrArg List.length h.2.1, h.2.2⟩
  generalize hr : s.queue.push now p = r
  have hpushed : Queue.Pushed now p s.queue r := hr ▸ Queue.pushed now p s.queue
  cases hpushed with
  | closing => exact ⟨⟨rfl, fun _ hx _ => hx⟩, rfl, rfl⟩
  | control =>
    refine ⟨⟨rfl, fun x hx hseq => ?_⟩, ?_, rfl⟩
    · rcases List.mem_append.1 hx with hx | hx
      · exact hx
      · rw [List.mem_singleton.1 hx] at hseq
        exact hdispatch hseq
    · show eventsOf (s.queue.items ++ [p]) = _
      rw [eventsOf_append]
      simp [eventsOf, hevent]
  | controlRefused => exact ⟨⟨rfl, fun _ hx _ => hx⟩, rfl, rfl⟩
  | dispatch _ h => exact hdispatch h
  | evicting _ _ _ h => exact hdispatch h
  | dispatchRefused _ _ h => exact hdispatch h

theorem undisturbed_closeWith (s : Session) (code : CloseCode) : s.Undisturbed (s.closeWith code).2 := by
  suffices h : (s.queue.closeWith code).2.shut = s.queue.shut ∧ (s.queue.closeWith code).2.items = s.queue.items ∧
      (s.queue.closeWith code).2.missed = s.queue.missed from
    ⟨fun hs => ⟨h.1.trans hs.shut, fun p hp => hs.events p (h.2.1 ▸ hp)⟩,
      congrArg (fun ps => (eventsOf ps).length) h.2.1, h.2.2⟩
  unfold Queue.closeWith
  split <;> exact ⟨rfl, rfl, rfl⟩

end Session

namespace Router

/-! ## Counters -/

/-- The counters of what was published. -/
def counts (r : Router) : Nat × Nat × Nat := (r.stats.published, r.stats.delivered, r.stats.dropped)

theorem counts_of_stats {r r' : Router} (h : r'.stats = r.stats) : r'.counts = r.counts := by
  rw [counts, counts, h]

/-- **Publishing counts the event, its answer, and what the pushes have lost.** -/
theorem counts_publish (now : Moment) (e : Event) (r : Router) : (r.publish now e).2.counts =
    (r.stats.published + 1, r.stats.delivered + (r.publish now e).1,
      r.stats.dropped + tally PushOutcome.dropped ((r.fanOut now e e.scopes).outcomes.map Prod.snd)) := by
  rw [counts, stats_publish]
  simp only [Stats.countPublish, publish, Fanout.delivered, List.countP_map, foldl_add_eq_tally, Nat.zero_add]
  rfl

theorem counts_reportFailure (now : Moment) (id : SessionId) (command : String) (e : CommandError) (r : Router) :
    (r.reportFailure now id command e).counts = r.counts :=
  counts_of_stats (stats_reportFailure now id command e r)

/-- A command that publishes nothing. -/
theorem counts_submit {handler : CommandHandler} {now : Moment} {i : SessionId} {command : Command}
    (hcommand : ∀ action, command ≠ .act action) (r : Router) :
    (r.submit handler now i command).2.counts = r.counts := by
  cases hs : r.registry.handle? i with
  | none => rw [submit_of_handle?_eq_none hs]
  | some s =>
    rw [counts, stats_submit hs, stats_execute hcommand]
    rfl

end Router

/-! ## What a step leaves undisturbed -/

namespace Registry

/-- The same sessions live, and **no event comes to them or leaves them**. -/
def Undisturbed (r r' : Registry) : Prop := ∀ i, (r.session? i = none ∧ r'.session? i = none) ∨
  ∃ s s', r.session? i = some s ∧ r'.session? i = some s' ∧ s.Undisturbed s'

variable {r r' : Registry}

theorem undisturbed_of_sessions (h : r'.sessions = r.sessions) : r.Undisturbed r' := by
  intro i
  have hsame : r'.session? i = r.session? i := by rw [session?, h]; rfl
  rw [hsame]
  cases hs : r.session? i with
  | none => exact .inl ⟨rfl, rfl⟩
  | some s => exact .inr ⟨s, s, rfl, rfl, .refl s⟩

theorem undisturbed_changed {α : Type} {id : SessionId} {f : Session → α × Session} (hr : r.Consistent)
    (hf : ∀ s : Session, s.SameStanding (f s).2) (hf' : ∀ s : Session, s.Undisturbed (f s).2) :
    r.Undisturbed (r.changed id f) := by
  intro i
  rw [session?_changed hr hf]
  cases hs : r.session? i with
  | none => exact .inl ⟨rfl, by simp⟩
  | some s =>
    split
    · exact .inr ⟨s, (f s).2, rfl, rfl, hf' s⟩
    · exact .inr ⟨s, s, rfl, rfl, .refl s⟩

theorem undisturbed_resubscribed {id : SessionId} {s : Session} (hs : r.session? id = some s)
    (subscriptions : Subscriptions) (h : r'.sessions = r.sessions.insert id { s with subscriptions }) :
    r.Undisturbed r' := by
  intro i
  rw [show r'.session? i = if i = id then some { s with subscriptions } else r.session? i by
    rw [session?, h, getElem?_insert_eq]; rfl]
  by_cases hi : i = id
  · rw [if_pos hi, hi]
    exact .inr ⟨s, { s with subscriptions }, hs, rfl, fun h => ⟨h.shut, h.events⟩, rfl, rfl⟩
  · rw [if_neg hi]
    exact undisturbed_of_sessions rfl i

theorem undisturbed_subscribe {id : SessionId} {scope : Scope} {kinds : EventKinds} {changed : Bool}
    (h : r.subscribe id scope kinds = .ok (changed, r')) : r.Undisturbed r' := by
  obtain ⟨s, hs, rfl⟩ := subscribe_ok h
  exact undisturbed_resubscribed hs _ rfl

theorem undisturbed_unsubscribe {id : SessionId} {scope : Scope} {changed : Bool}
    (h : r.unsubscribe id scope = .ok (changed, r')) : r.Undisturbed r' := by
  obtain ⟨s, hs, ⟨-, rfl⟩ | ⟨-, rfl⟩⟩ := unsubscribe_ok h
  · exact undisturbed_of_sessions rfl
  · exact undisturbed_resubscribed hs _ rfl

theorem undisturbed_push (hr : r.Consistent) (id : SessionId) (now : Nat) {p : Payload} (hp : p.isSequenced = false) :
    r.Undisturbed (r.changed id (·.push now p)) :=
  undisturbed_changed hr (fun s => s.sameStanding_push _ _) fun s => s.undisturbed_push now hp

end Registry

/-! ## Ledgers -/

/-- **What is written down along a run of a router.** -/
structure Ledger where
  /-- The events published. -/
  published : Nat
  /-- The sum of the answers of these publications. -/
  answered : Nat
  /-- The events that left a queue for a later one. -/
  evicted : Nat
  /-- The events handed to a writer. -/
  handed : Nat
  /-- The losses that the notices among what was handed over tell of. -/
  told : Nat
  /-- The events that were queued for a session when it was destroyed. -/
  discarded : Nat
  /-- The losses that such a session was still to be told of. -/
  forgotten : Nat
deriving DecidableEq

namespace Ledger

def empty : Ledger := ⟨0, 0, 0, 0, 0, 0, 0⟩

def publish (now : Moment) (e : Event) (r : Router) (l : Ledger) : Ledger :=
  { l with
    published := l.published + 1
    answered := l.answered + (r.publish now e).1
    evicted := l.evicted + r.registry.total (·.evicted now.ticks e) }

def publishAll (now : Moment) (l : Ledger) : List Event → Router → Ledger
  | [], _ => l
  | e :: es, r => publishAll now (l.publish now e r) es (r.publish now e).2

/-- What a step is written down as, at the router that it begins with. -/
def step (r : Router) (l : Ledger) : Router.Step → Ledger
  | .publish now e => l.publish now e r
  | .submit handler now i (.act action) => (r.registry.handle? i).elim l fun s =>
    ((r.perform handler now s action).1.toOption).elim l fun events =>
      publishAll now l events (r.perform handler now s action).2
  | .drain i =>
    let sent := ((r.nextOutgoing i).1.elim [] (·.envelopes)).map (·.payload)
    { l with handed := l.handed + (eventsOf sent).length, told := l.told + toldOf sent }
  | .destroy i => (r.registry.session? i).elim l fun s =>
    { l with discarded := l.discarded + s.queued, forgotten := l.forgotten + s.missed }
  | _ => l

def run (l : Ledger) : List Router.Step → Router → Ledger
  | [], _ => l
  | x :: xs, r => (l.step r x).run xs (r.step x)

/-! ### Publications and answers -/

/-- The counters of the router are those of the ledger. -/
def Counted (l : Ledger) (r : Router) : Prop := r.stats.published = l.published ∧ r.stats.delivered = l.answered

variable {l : Ledger} {r r' : Router}

theorem Counted.of_counts (hl : l.Counted r) (h : r'.counts = r.counts) : l.Counted r' := by
  simp only [Router.counts, Prod.mk.injEq] at h
  exact ⟨h.1.trans hl.1, h.2.1.trans hl.2⟩

theorem Counted.publish (hl : l.Counted r) (now : Moment) (e : Event) :
    (l.publish now e r).Counted (r.publish now e).2 := by
  have h := Router.counts_publish now e r
  simp only [Router.counts, Prod.mk.injEq] at h
  exact ⟨by rw [h.1, hl.1]; rfl, by rw [h.2.1, hl.2]; rfl⟩

theorem Counted.publishAll (now : Moment) : ∀ (es : List Event) {l : Ledger} {r : Router}, l.Counted r →
    (publishAll now l es r).Counted (Router.publishAll now es r)
  | [], _, _, hl => hl
  | e :: es, _, _, hl => Counted.publishAll now es (hl.publish now e)

theorem Counted.submit (hl : l.Counted r) (handler : CommandHandler) (now : Moment) (i : SessionId)
    (action : Action) :
    (l.step r (.submit handler now i (.act action))).Counted (r.submit handler now i (.act action)).2 := by
  cases hs : r.registry.handle? i with
  | none =>
    rw [Router.submit_of_handle?_eq_none hs, step, hs]
    exact hl
  | some s =>
    have hperform : l.Counted (r.perform handler now s action).2 := hl
    rcases hresult : r.perform handler now s action with ⟨e | events, r₁⟩
    · rw [Router.submit_act_failed hs hresult, step, hs, Option.elim_some, hresult]
      rw [hresult] at hperform
      exact hperform.of_counts (Router.counts_reportFailure now i action.name e _)
    · rw [Router.submit_act_done hs hresult, step, hs, Option.elim_some, hresult]
      rw [hresult] at hperform
      exact Counted.publishAll now events hperform

theorem Counted.step (hl : l.Counted r) (x : Router.Step) : (l.step r x).Counted (r.step x) := by
  have hquiet : x.isCounted = false → l.Counted (r.step x) := fun hx =>
    hl.of_counts (Router.counts_of_stats (Router.stats_step r hx))
  cases x with
  | publish now e => exact hl.publish now e
  | submit handler now i command =>
    cases command with
    | act action => exact hl.submit handler now i action
    | _ => exact hl.of_counts (Router.counts_submit (fun _ h => by cases h) r)
  | destroy i =>
    rw [Ledger.step]
    cases r.registry.session? i <;> exact hquiet rfl
  | _ => exact hquiet rfl

theorem Counted.run : ∀ (xs : List Router.Step) {l : Ledger} {r : Router}, l.Counted r →
    (l.run xs r).Counted (r.run xs)
  | [], _, _, hl => hl
  | x :: xs, _, _, hl => Counted.run xs (hl.step x)

/-! ### Events and losses -/

/-- **What ties the ledger to the queues.**  `lost` is the number of events that the notices should have told of; a
notice holds 64 bits of its part. -/
structure Balanced (l : Ledger) (registry : Registry) (dropped : Nat) : Prop where
  proper : ∀ {id s}, registry.session? id = some s → s.Proper
  events : l.answered = l.evicted + (l.handed + registry.total Session.queued + l.discarded)
  losses : ∃ lost, dropped = lost + registry.total Session.missed + l.forgotten ∧
    l.told % UInt64.size = lost % UInt64.size ∧ (lost < UInt64.size → l.told = lost)

theorem balanced_new (ids : Generator) (queue : QueueConfig) : Balanced .empty (.new ids queue) 0 :=
  ⟨(fun h => by cases h), rfl, 0, rfl, rfl, fun _ => rfl⟩

variable {registry registry' : Registry} {dropped : Nat}

theorem Balanced.undisturbed (hb : l.Balanced registry dropped) (h : registry.Undisturbed registry') :
    l.Balanced registry' dropped := by
  have htotal : ∀ w : Session → Nat, (∀ s s', s.Undisturbed s' → w s' = w s) → registry'.total w = registry.total w := by
    intro w hw
    refine Registry.total_congr fun i => ?_
    rcases h i with ⟨hs, hs'⟩ | ⟨s, s', hs, hs', hsame⟩
    · rw [hs, hs']
    · rw [hs, hs', Option.map_some, Option.map_some, hw s s' hsame]
  refine ⟨fun {id t} ht => ?_, ?_, ?_⟩
  · rcases h id with ⟨-, hs'⟩ | ⟨s, s', hs, hs', hsame⟩
    · rw [hs'] at ht; cases ht
    · obtain rfl : s' = t := Option.some.inj (hs'.symm.trans ht)
      exact hsame.proper (hb.proper hs)
  · rw [htotal Session.queued fun _ _ hsame => hsame.queued]
    exact hb.events
  · rw [htotal Session.missed fun _ _ hsame => hsame.missed]
    exact hb.losses

/-- **Publishing**: each live session is balanced, and so is their sum. -/
theorem Balanced.publish (hb : l.Balanced r.registry r.stats.dropped) (hr : r.registry.Consistent) (now : Moment)
    (e : Event) : (l.publish now e r).Balanced (r.publish now e).2.registry (r.publish now e).2.stats.dropped := by
  have hcounts := Router.counts_publish now e r
  simp only [Router.counts, Prod.mk.injEq] at hcounts
  have hanswer : (r.publish now e).1 = r.registry.total fun s =>
      if s.wants e then (s.push now.ticks e.payload).1.isQueued.toNat else 0 := by
    rw [← Router.tally_outcomes now e hr fun o => o.isQueued.toNat, ← countP_eq_tally, List.countP_map]
    rfl
  -- The weights of both sides of the two balances agree at each live session.
  have hlive : ∀ {w w' : Session → Nat}, (∀ s : Session, s.Proper → w s = w' s) →
      r.registry.total w = r.registry.total w' := fun hw => Registry.total_congr fun i => by
    cases hs : r.registry.session? i with
    | none => rfl
    | some s => rw [Option.map_some, Option.map_some, hw s (hb.proper hs)]
  have hqueued : r.registry.total (fun s => (s.offer now.ticks e).queued) + r.registry.total (·.evicted now.ticks e) =
      r.registry.total Session.queued + (r.publish now e).1 := by
    rw [hanswer, ← Registry.total_add, ← Registry.total_add]
    exact hlive fun s hs => (Session.offer_balance hs now.ticks e).2.1
  have hmissed : r.registry.total (fun s => (s.offer now.ticks e).missed) =
      r.registry.total Session.missed + tally PushOutcome.dropped ((r.fanOut now e e.scopes).outcomes.map Prod.snd) := by
    rw [Router.tally_outcomes now e hr, ← Registry.total_add]
    exact hlive fun s hs => (Session.offer_balance hs now.ticks e).2.2
  obtain ⟨lost, hdropped, htold, hexact⟩ := hb.losses
  refine ⟨fun {id t} ht => ?_, ?_, lost, ?_, htold, hexact⟩
  · rw [Router.registry_publish, Router.session?_fanOut now e (List.Subset.refl e.scopes) hr] at ht
    obtain ⟨s, hs, rfl⟩ := Option.map_eq_some_iff.1 ht
    exact (Session.offer_balance (hb.proper hs) now.ticks e).1
  · have hevents := hb.events
    rw [Router.total_publish now e hr]
    simp only [Ledger.publish]
    omega
  · rw [hcounts.2.2, Router.total_publish now e hr, hmissed, hdropped]
    simp only [Ledger.publish]
    omega

theorem Balanced.publishAll (now : Moment) : ∀ (es : List Event) {l : Ledger} {r : Router}, r.registry.Consistent →
    l.Balanced r.registry r.stats.dropped → (l.publishAll now es r).Balanced
      (Router.publishAll now es r).registry (Router.publishAll now es r).stats.dropped
  | [], _, _, _, hb => hb
  | e :: es, _, _, hr, hb => Balanced.publishAll now es (Router.consistent_publish now e hr) (hb.publish hr now e)

/-- A drain of nobody, or of a session that is gone, hands over nothing. -/
theorem step_drain_of_session?_eq_none (l : Ledger) (hr : r.registry.Consistent) (hmarked : r.Marked) {i : SessionId}
    (hs : r.registry.session? i = none) : l.step r (.drain i) = l := by
  have hsent : (((r.nextOutgoing i).1.elim [] (·.envelopes)).map (·.payload) : List Payload) = [] := by
    rw [Router.nextOutgoing_fst]
    cases hh : r.registry.handle? i with
    | none => rfl
    | some s =>
      have hmarks : s.Retired := hmarked hh (by
        rw [Registry.handle?_of_session?_eq_none hs] at hh
        exact hr.retired_released hh)
      rw [Option.bind_some, hmarks.nextOutgoing]
      rfl
  rw [step, hsent]
  rfl

/-- A drain of a live session leaves nothing queued and nothing missed. -/
theorem Balanced.drained (hb : l.Balanced r.registry dropped) {i : SessionId} {s : Session}
    (hs : r.registry.session? i = some s) (hafter : ∀ j, registry.session? j =
      if j = i then some s.nextOutgoing.2 else r.registry.session? j) :
    (l.step r (.drain i)).Balanced registry dropped := by
  have hopen : s.queue.shut = false := (hb.proper hs).shut
  have hsent : ((r.nextOutgoing i).1.elim [] (·.envelopes)).map (·.payload) =
      Session.announced ⟨s.queue.missed, s.queue.items, none, false⟩ := by
    rw [Router.nextOutgoing_fst_of_handle? (Registry.handle?_of_session? hs), Session.nextOutgoing_payloads, hopen]
    rfl
  obtain ⟨hevents, htells⟩ := announced_account s.queue.missed s.queue.items none (hb.proper hs).events
  obtain ⟨hitems, hmissed⟩ := Queue.drain_empties s.queue
  rw [← Session.nextOutgoing_queue] at hitems hmissed
  have hqueued₀ : s.nextOutgoing.2.queued = 0 := by rw [Session.queued, hitems]; rfl
  have hqueued := Registry.total_replace (w := Session.queued) hs hafter
  have hlosses := Registry.total_replace (w := Session.missed) hs hafter
  rw [hqueued₀] at hqueued
  rw [show s.nextOutgoing.2.missed = 0 from hmissed] at hlosses
  obtain ⟨lost, hdropped, htold, hexact⟩ := hb.losses
  refine ⟨fun {id t} ht => ?_, ?_, lost + s.missed, ?_, ?_, fun hfew => ?_⟩
  · rw [hafter] at ht
    split at ht
    · rw [← Option.some.inj ht]
      refine ⟨?_, fun p hp => ?_⟩
      · rw [Session.nextOutgoing_queue, Queue.drain_shut, hopen]
      · rw [hitems] at hp; cases hp
    · exact hb.proper ht
  · have hbalance := hb.events
    simp only [step, hsent, hevents]
    simp only [Session.queued] at hqueued ⊢
    omega
  · simp only [step]
    omega
  · simp only [step, hsent, htells, Session.missed]
    rw [Nat.add_mod_mod, Nat.add_mod, htold, ← Nat.add_mod]
  · have htold' := hexact (by omega)
    simp only [step, hsent, htells]
    rw [htold', Nat.mod_eq_of_lt (a := s.queue.missed) (by simp only [Session.missed] at hfew; omega)]
    rfl

/-- **Draining** hands over what is queued and tells of what is missed. -/
theorem Balanced.drain (hb : l.Balanced r.registry r.stats.dropped) (hr : r.registry.Consistent)
    (hmarked : r.Marked) (i : SessionId) :
    (l.step r (.drain i)).Balanced (r.nextOutgoing i).2.registry (r.nextOutgoing i).2.stats.dropped := by
  have hlive : ∀ j, (r.registry.changed i (·.nextOutgoing)).session? j =
      if j = i then (r.registry.session? i).map (·.nextOutgoing.2) else r.registry.session? j := fun j => by
    rw [Registry.session?_changed hr fun s => s.sameStanding_nextOutgoing]
    split
    · rename_i hj
      rw [hj]
    · rfl
  rw [Router.stats_nextOutgoing i r, Router.registry_nextOutgoing]
  cases hs : r.registry.session? i with
  | none =>
    rw [l.step_drain_of_session?_eq_none hr hmarked hs]
    refine hb.undisturbed (Registry.undisturbed_of_sessions (Std.ExtTreeMap.ext_getElem? fun j => (hlive j).trans ?_))
    split
    · rename_i hj
      rw [hj, hs]
      exact hs.symm
    · rfl
  | some s => exact hb.drained hs fun j => by rw [hlive, hs, Option.map_some]

/-- **Destroying** throws away what is queued and missed. -/
theorem Balanced.destroy (hb : l.Balanced r.registry r.stats.dropped) {i : SessionId} {s : Session} {r' : Router}
    (h : r.destroy i = some (s, r')) : (l.step r (.destroy i)).Balanced r'.registry r'.stats.dropped := by
  have hdestroy := Router.destroy_some h
  have hs := (Registry.destroy_some hdestroy).1
  have hafter := Registry.session?_destroy hdestroy
  have hqueued := Registry.total_erase (w := Session.queued) hs hafter
  have hmissed := Registry.total_erase (w := Session.missed) hs hafter
  obtain ⟨lost, hdropped, htold, hexact⟩ := hb.losses
  have hbook : l.step r (.destroy i) =
      { l with discarded := l.discarded + s.queued, forgotten := l.forgotten + s.missed } := by
    rw [step, hs]; rfl
  rw [hbook, Router.stats_destroy h]
  refine ⟨fun {id t} ht => ?_, ?_, lost, ?_, htold, hexact⟩
  · rw [hafter] at ht
    split at ht
    · cases ht
    · exact hb.proper ht
  · have hevents := hb.events
    dsimp only
    omega
  · dsimp only
    omega

/-- **A session that comes** has nothing queued and nothing missed. -/
theorem Balanced.create (hb : l.Balanced r.registry r.stats.dropped) {now : Moment} {connection : Connection}
    {identity : Identity} {capabilities : Wire.Capabilities} {s : Session} {r' : Router}
    (h : r.create now connection identity capabilities = .ok (s, r')) (hfresh : r.registry.session? s.id = none) :
    l.Balanced r'.registry r'.stats.dropped := by
  have hcreate := Router.create_ok h
  have hafter := Registry.session?_create hcreate
  obtain ⟨id, ids, hs, -⟩ := Registry.create_ok hcreate
  have hqueued := Registry.total_insert (w := Session.queued) hfresh hafter
  have hmissed := Registry.total_insert (w := Session.missed) hfresh hafter
  have hempty : s.queued = 0 ∧ s.missed = 0 ∧ s.Proper := by
    rw [hs]
    exact ⟨rfl, rfl, rfl, fun p hp => by cases hp⟩
  rw [hempty.1, Nat.zero_add] at hqueued
  rw [hempty.2.1, Nat.zero_add] at hmissed
  rw [Router.stats_create h]
  refine ⟨fun {id t} ht => ?_, by rw [hqueued]; exact hb.events, by rw [hmissed]; exact hb.losses⟩
  rw [hafter] at ht
  split at ht
  · rw [← Option.some.inj ht]
    exact hempty.2.2
  · exact hb.proper ht

/-- A step that leaves the counters and the queues alone. -/
theorem Balanced.quiet (hb : l.Balanced r.registry r.stats.dropped) (hcounts : r'.counts = r.counts)
    (h : r.registry.Undisturbed r'.registry) : l.Balanced r'.registry r'.stats.dropped := by
  simp only [Router.counts, Prod.mk.injEq] at hcounts
  rw [hcounts.2.2]
  exact hb.undisturbed h

/-- A command that is no action changes subscriptions at most, and is answered by control replies. -/
theorem Balanced.executed (hb : l.Balanced r.registry dropped) (hr : r.registry.Consistent)
    {handler : CommandHandler} {now : Moment} {s : Session} {command : Command} {answer : Except CommandError Unit}
    (hcommand : ∀ action, command ≠ .act action) (h : Router.Executed handler now s r command answer registry) :
    l.Balanced registry dropped := by
  cases h with
  | refused => exact hb
  | failed action => exact absurd rfl (hcommand action)
  | subscribed scope kinds r₀ r₁ changed h₀ h =>
    have hsub := Router.subscribe_ok h
    rw [h₀] at hsub
    exact (hb.undisturbed (Registry.undisturbed_subscribe hsub)).undisturbed
      (Registry.undisturbed_push (hr.subscribe hsub) _ _ rfl)
  | unsubscribed scope r₁ changed h =>
    have hsub := Router.unsubscribe_ok h
    exact (hb.undisturbed (Registry.undisturbed_unsubscribe hsub)).undisturbed
      (Registry.undisturbed_push (hr.unsubscribe hsub) _ _ rfl)
  | heartbeat => exact hb.undisturbed (Registry.undisturbed_push hr _ _ rfl)
  | acted action => exact absurd rfl (hcommand action)

theorem Balanced.submit (hb : l.Balanced r.registry r.stats.dropped) (hr : r.registry.Consistent)
    {handler : CommandHandler} {now : Moment} {i : SessionId} {command : Command}
    (hcommand : ∀ action, command ≠ .act action) :
    l.Balanced (r.submit handler now i command).2.registry (r.submit handler now i command).2.stats.dropped := by
  have hcounts : (r.submit handler now i command).2.counts = r.counts := Router.counts_submit hcommand r
  simp only [Router.counts, Prod.mk.injEq] at hcounts
  rw [hcounts.2.2]
  generalize hregistry : (r.submit handler now i command).2.registry = registry
  have hsubmitted : Router.Submitted handler now i r command registry :=
    hregistry ▸ Router.submitted handler now i command r
  cases hsubmitted with
  | unknown => exact hb
  | reported s _ e registry h =>
    exact (hb.executed hr hcommand h).undisturbed
      (Registry.undisturbed_push (Router.kept_consistent.execute hr h) _ _ rfl)
  | done s _ _ h => exact hb.executed hr hcommand h

theorem Balanced.act (hb : l.Balanced r.registry r.stats.dropped) (hr : r.registry.Consistent)
    (handler : CommandHandler) (now : Moment) (i : SessionId) (action : Action) :
    (l.step r (.submit handler now i (.act action))).Balanced (r.submit handler now i (.act action)).2.registry
      (r.submit handler now i (.act action)).2.stats.dropped := by
  cases hs : r.registry.handle? i with
  | none =>
    rw [Router.submit_of_handle?_eq_none hs, step, hs]
    exact hb
  | some s =>
    have hperform : l.Balanced (r.perform handler now s action).2.registry
        (r.perform handler now s action).2.stats.dropped := hb.undisturbed (Registry.undisturbed_of_sessions rfl)
    rcases hresult : r.perform handler now s action with ⟨e | events, r₁⟩
    all_goals
      have hr₁ : r₁.registry.Consistent := Router.registry_perform hresult ▸ Router.consistent_withIds hr _
      rw [hresult] at hperform
    · rw [Router.submit_act_failed hs hresult, step, hs, Option.elim_some, hresult]
      refine Balanced.quiet (r := { r₁ with stats := r₁.stats.countCommand true }) hperform
        (Router.counts_reportFailure now i action.name e _) ?_
      rw [Router.registry_reportFailure]
      exact Registry.undisturbed_push hr₁ _ _ rfl
    · rw [Router.submit_act_done hs hresult, step, hs, Option.elim_some, hresult]
      exact Balanced.publishAll now events hr₁ hperform

end Ledger

namespace Router

/-- Whether a step pushes events only by publishing them. -/
def Step.publishesEvents : Step → Bool
  | .enqueue _ _ p | .reply _ _ p => !p.isSequenced
  | _ => true

end Router

namespace Ledger

variable {l : Ledger} {r : Router} {queue : QueueConfig}

theorem Balanced.step (hb : l.Balanced r.registry r.stats.dropped) (hr : r.Sound queue) (hmarked : r.Marked)
    {x : Router.Step} (hx : x.publishesEvents = true) (hfits : (r.step x).registry.ids.Fits) :
    (l.step r x).Balanced (r.step x).registry (r.step x).stats.dropped := by
  have hc := hr.consistent
  have hcontrol : ∀ {p : Payload}, (!p.isSequenced) = true → p.isSequenced = false := fun h => by simpa using h
  cases x with
  | create now connection identity capabilities =>
    have hfresh : ∀ {id}, r.begins id (.create now connection identity capabilities) = true →
        r.registry.handle? id = none := fun h => hr.fresh h hfits
    simp only [Router.begins] at hfresh
    simp only [Router.step]
    cases h : r.create now connection identity capabilities with
    | error => exact hb
    | ok sr =>
      rw [h] at hfresh
      exact hb.create h (Registry.session?_eq_none_of_handle? (hfresh (by simp [Except.toOption])))
  | destroy i =>
    simp only [Router.step]
    cases h : r.destroy i with
    | some sr => exact hb.destroy h
    | none =>
      have hs : r.registry.session? i = none := by
        cases hs : r.registry.session? i with
        | none => rfl
        | some s =>
          rw [Router.destroy, Registry.destroy_of_session? hs] at h
          cases h
      rw [Ledger.step, hs]
      exact hb
  | subscribe i scope kinds =>
    simp only [Router.step]
    cases h : r.subscribe i scope kinds with
    | error => exact hb
    | ok cr =>
      have hcounts := Router.counts_of_stats (Router.stats_subscribe h)
      exact hb.quiet hcounts (Registry.undisturbed_subscribe (Router.subscribe_ok h))
  | unsubscribe i scope =>
    simp only [Router.step]
    cases h : r.unsubscribe i scope with
    | error => exact hb
    | ok cr =>
      have hcounts := Router.counts_of_stats (Router.stats_unsubscribe h)
      exact hb.quiet hcounts (Registry.undisturbed_unsubscribe (Router.unsubscribe_ok h))
  | publish now e => exact hb.publish hc now e
  | enqueue now i p =>
    have hpush := Registry.undisturbed_push hc i now.ticks (hcontrol hx)
    rw [← Router.registry_enqueue] at hpush
    exact hb.quiet (Router.counts_of_stats (Router.stats_enqueue now i p r)) hpush
  | reply now i p =>
    have hpush := Registry.undisturbed_push hc i now.ticks (hcontrol hx)
    rw [← Router.registry_reply] at hpush
    exact hb.quiet (Router.counts_of_stats (Router.stats_reply now i p r)) hpush
  | close i code =>
    have hclose : r.registry.Undisturbed (r.registry.changed i (·.closeWith code)) :=
      Registry.undisturbed_changed hc (fun s => s.sameStanding_closeWith code) fun s => s.undisturbed_closeWith code
    rw [← Router.registry_closeWith] at hclose
    exact hb.quiet (Router.counts_of_stats (Router.stats_closeWith i code r)) hclose
  | drain i => exact hb.drain hc hmarked i
  | submit handler now i command =>
    cases command with
    | act action => exact hb.act hc handler now i action
    | _ => exact hb.submit hc (fun _ h => by cases h)

theorem Balanced.run {xs : List Router.Step} (hb : l.Balanced r.registry r.stats.dropped) (hr : r.Sound queue)
    (hmarked : r.Marked) (hpublish : ∀ x ∈ xs, x.publishesEvents = true) (hdraws : ∀ x ∈ xs, x.Draws)
    (hfits : (r.run xs).registry.ids.Fits) :
    (l.run xs r).Balanced (r.run xs).registry (r.run xs).stats.dropped := by
  induction xs generalizing l r with
  | nil => exact hb
  | cons x xs ih =>
    have hdraws' : ∀ y ∈ xs, y.Draws := fun y hy => hdraws y (List.mem_cons_of_mem _ hy)
    have hfits' : (r.step x).registry.ids.Fits := Generator.Fits.mono hfits (Router.run_keeps xs hdraws').2
    exact ih (hb.step hr hmarked (hpublish x List.mem_cons_self) hfits') (hr.step (hdraws x List.mem_cons_self))
      (Router.marked_step hr.consistent hmarked x) (fun y hy => hpublish y (List.mem_cons_of_mem _ hy)) hdraws' hfits

end Ledger

namespace Router

/-- **The delivery counters are exact.**  At every point of every run, the router has counted the events that were
published and the sum of the answers.  If events come into queues only by being published, what was answered is what
was evicted, handed over, thrown away with a session or still queued; and the losses counted are those that the notices
told of, those still to be told and those forgotten with a session.  A notice counts in 64 bits. -/
theorem counters_exact (ids : Generator) (queue : QueueConfig) (steps : List Step) :
    let r := (new ids queue).run steps
    let l := Ledger.empty.run steps (new ids queue)
    r.stats.published = l.published ∧ r.stats.delivered = l.answered ∧
      ((∀ x ∈ steps, x.publishesEvents = true) → (∀ x ∈ steps, x.Draws) → r.registry.ids.Fits →
        r.stats.delivered = l.evicted + (l.handed + r.registry.total Session.queued + l.discarded) ∧
        r.stats.dropped % UInt64.size = (l.told + r.registry.total Session.missed + l.forgotten) % UInt64.size ∧
        (r.stats.dropped < UInt64.size →
          r.stats.dropped = l.told + r.registry.total Session.missed + l.forgotten)) := by
  intro r l
  obtain ⟨hpublished, hdelivered⟩ : l.Counted r := Ledger.Counted.run steps ⟨rfl, rfl⟩
  refine ⟨hpublished, hdelivered, fun hpublish hdraws hfits => ?_⟩
  have hb : l.Balanced r.registry r.stats.dropped :=
    (Ledger.balanced_new ids queue).run (sound_new ids queue) (fun h => by cases h) hpublish hdraws hfits
  obtain ⟨lost, hdropped, htold, hexact⟩ := hb.losses
  refine ⟨hdelivered.trans hb.events, ?_, fun hfew => ?_⟩
  · rw [hdropped, Nat.add_assoc, Nat.add_assoc, Nat.add_mod, ← htold, ← Nat.add_mod]
  · have : l.told = lost := hexact (by omega)
    omega

/-- Room for one event, and the second overflow closes.  Two sessions follow the presence of everyone: both evict an
event, one of them is told so, and the other one overflows again and is destroyed with an event in its queue. -/
theorem counters_exact_destroyed :
    let client (n : Nat) := Step.create ⟨0, 0⟩ ⟨n, .json, ⟨2, 0⟩⟩ ⟨⟨7⟩, "agent"⟩ .all
    let event := Step.publish ⟨0, 0⟩ (.presenceUpdated ⟨5⟩ .online)
    let steps := [client 1, client 2, .subscribe ⟨4097⟩ .presence .all, .subscribe ⟨4098⟩ .presence .all, event, event,
      .drain ⟨4097⟩, .reply ⟨0, 0⟩ ⟨4097⟩ (.heartbeatAck 1), event, .destroy ⟨4098⟩, event,
      .submit (LocalChannels.handler ⟨[]⟩) ⟨0, 0⟩ ⟨4097⟩ (.act (.updatePresence .online))]
    let r := (new ⟨1, 0, 0⟩ ⟨1, 8, .dropOldest 2 1000⟩).run steps
    let l := Ledger.empty.run steps (new ⟨1, 0, 0⟩ ⟨1, 8, .dropOldest 2 1000⟩)
    (r.stats.published, r.stats.delivered, r.stats.dropped) = (5, 5, 4) ∧ l = ⟨5, 5, 2, 1, 1, 1, 2⟩ ∧
      r.stats.delivered = 2 + (1 + r.registry.total Session.queued + 1) ∧
      r.stats.dropped = 1 + r.registry.total Session.missed + 2 := by
  intro client event steps
  dsimp only
  have hpublish : ∀ x ∈ steps, x.publishesEvents = true := by decide
  have hdraws : ∀ x ∈ steps, x.Draws := by
    intro x hx
    simp only [steps, event, client, List.mem_cons, List.not_mem_nil, or_false] at hx
    rcases hx with rfl | rfl | rfl | rfl | rfl | rfl | rfl | rfl | rfl | rfl | rfl | rfl
    case inr.inr.inr.inr.inr.inr.inr.inr.inr.inr.inr => exact LocalChannels.execute_draws ⟨[]⟩
    all_goals exact trivial
  have hfits : ((new ⟨1, 0, 0⟩ ⟨1, 8, .dropOldest 2 1000⟩).run steps).registry.ids.Fits := by
    show ((new ⟨1, 0, 0⟩ ⟨1, 8, .dropOldest 2 1000⟩).run steps).registry.ids.time * _ < _
    decide +kernel
  have hdropped : ((new ⟨1, 0, 0⟩ ⟨1, 8, .dropOldest 2 1000⟩).run steps).stats.dropped = 4 := by decide +kernel
  have hledger : Ledger.empty.run steps (new ⟨1, 0, 0⟩ ⟨1, 8, .dropOldest 2 1000⟩) = ⟨5, 5, 2, 1, 1, 1, 2⟩ := by
    decide +kernel
  obtain ⟨-, -, hexact⟩ := counters_exact ⟨1, 0, 0⟩ ⟨1, 8, .dropOldest 2 1000⟩ steps
  obtain ⟨hevents, -, hlosses⟩ := hexact hpublish hdraws hfits
  have hlosses := hlosses (by rw [hdropped]; decide)
  rw [hledger] at hevents hlosses
  exact ⟨by decide +kernel, hledger, hevents, hlosses⟩

end Router
end EventGateway
