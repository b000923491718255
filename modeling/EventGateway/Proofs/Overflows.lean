import EventGateway.Proofs.Counters
import EventGateway.Proofs.Retirement
import EventGateway.Proofs.Totals
/-!
# Overflows — which sessions were closed for backpressure, and which of them are counted

A session is closed for backpressure by an event that finds no room in its queue, by a control reply that finds none, or
because somebody asks for it.  `Closures` writes down who was closed by what along a run, and every session stands in it
once (`Closures.Exact`).  The router counts the first of the three kinds only (`overflows_count_events`).
-/
namespace EventGateway

namespace Session

/-- Whether the queue has recorded that it closes for backpressure. -/
def isOverflown (s : Session) : Bool := s.queue.close == some .backpressureOverflow

theorem isOverflown_of_close_eq {s s' : Session} (h : s'.queue.close = s.queue.close) :
    s'.isOverflown = s.isOverflown := by rw [isOverflown, isOverflown, h]

theorem isOverflown_of_close_eq_none {s : Session} (h : s.queue.close = none) : s.isOverflown = false := by
  rw [isOverflown, h]
  rfl

/-- **A push closes a session for backpressure exactly where it answers so.** -/
theorem push_overflown (s : Session) (now : Nat) (p : Wire.Payload) :
    ((s.push now p).2.queue.close = s.queue.close ∨ s.queue.close = none) ∧
      (s.push now p).2.isOverflown.toNat = s.isOverflown.toNat + ((s.push now p).1 == .overflowed).toNat := by
  suffices h : ∀ r, Queue.Pushed now p s.queue r → (r.2.close = s.queue.close ∨ s.queue.close = none) ∧
      (r.2.close == some .backpressureOverflow).toNat =
        (s.queue.close == some .backpressureOverflow).toNat + (r.1 == .overflowed).toNat from
    h _ (Queue.pushed now p s.queue)
  intro r h
  cases h with
  | closing | control | dispatch | evicting => exact ⟨.inl rfl, rfl⟩
  | controlRefused h | dispatchRefused _ h =>
    rw [Queue.close_of_isClosing_eq_false h]
    exact ⟨.inr rfl, rfl⟩

/-- **The first code stands**: no move takes it away, or puts another in its place. -/
theorem close_move (s : Session) (m : Move) : (s.move m).queue.close = s.queue.close ∨ s.queue.close = none := by
  cases m with
  | offer now e =>
    rw [move, offer]
    split
    · exact (s.push_overflown now e.payload).1
    · exact .inl rfl
  | push now p => exact (s.push_overflown now p).1
  | heartbeat now => exact (s.push_overflown now _).1
  | close code =>
    show (s.queue.closeWith code).2.close = _ ∨ _
    unfold Queue.closeWith
    split
    · exact .inl rfl
    · rename_i h
      exact .inr (Queue.close_of_isClosing_eq_false (Bool.eq_false_iff.2 h))
  | drain => exact .inl (by rw [move, nextOutgoing_queue, Queue.drain_close])
  | unsubscribe scope =>
    rw [move]
    split <;> exact .inl rfl
  | subscribe | retire => exact .inl rfl

theorem close_moves : ∀ (ms : List Move) (s : Session),
    (ms.foldl move s).queue.close = s.queue.close ∨ s.queue.close = none
  | [], _ => .inl rfl
  | m :: ms, s => by
    rcases s.close_move m with hm | hm
    · rcases close_moves ms (s.move m) with h | h
      · exact .inl (h.trans hm)
      · exact .inr (hm.symm.trans h)
    · exact .inr hm

/-- A session that is gone is closed no more. -/
theorem Retired.close_moves {s : Session} (hs : s.Retired) : ∀ ms : List Move,
    (ms.foldl Session.move s).queue.close = s.queue.close := by
  intro ms
  induction ms generalizing s with
  | nil => rfl
  | cons m ms ih =>
    refine (ih (hs.move m)).trans ?_
    cases m with
    | offer now e => rw [Session.move, offer_of_released hs.released]
    | push now p => rw [Session.move, hs.push]
    | heartbeat now => rw [Session.move, hs.push]
    | close code => rw [Session.move, hs.closeWith]
    | drain => rw [Session.move, nextOutgoing_queue, Queue.drain_close]
    | unsubscribe scope =>
      rw [Session.move]
      split <;> rfl
    | subscribe | retire => rfl

end Session

namespace Router

/-! ## Who is closed by a step, and by what -/

/-- What closes a session. -/
inductive Closer where
  | event
  /-- A control reply, or anything else that is pushed to one session. -/
  | reply
  | request
deriving DecidableEq

/-- What a step closes sessions by, if it closes any.  A command publishes events if it is an action and succeeds. -/
def Step.closer (r : Router) : Step → Closer
  | .publish _ _ => .event
  | .submit handler now i (.act action) =>
    if (r.registry.handle? i).any fun s => (r.perform handler now s action).1.isOk then .event else .reply
  | .close _ _ => .request
  | _ => .reply

/-- **The sessions that a step closes for backpressure**: their queues had no code, and have this one after it. -/
def closed (r : Router) (x : Step) : List SessionId :=
  (r.registry.sessions.toList.filter fun found => found.2.queue.close.isNone &&
    ((r.step x).registry.handle? found.1).any (·.isOverflown)).map Prod.fst

theorem nodup_closed (r : Router) (x : Step) : (r.closed x).Nodup :=
  (nodup_keys_toList r.registry.sessions).sublist (List.filter_sublist.map _)

theorem mem_closed {r : Router} {x : Step} {id : SessionId} : id ∈ r.closed x ↔
    ∃ s s', r.registry.session? id = some s ∧ s.queue.close = none ∧ (r.step x).registry.handle? id = some s' ∧
      s'.isOverflown = true := by
  simp only [closed, List.mem_map, List.mem_filter, Prod.exists, exists_and_right, exists_eq_right,
    Std.ExtTreeMap.mem_toList_iff_getElem?_eq_some, Bool.and_eq_true, Option.isNone_iff_eq_none, Option.any_eq_true]
  constructor
  · rintro ⟨s, hs, hnone, s', hs', h⟩
    exact ⟨s, s', hs, hnone, hs', h⟩
  · rintro ⟨s, s', hs, hnone, hs', h⟩
    exact ⟨s, hs, hnone, s', hs', h⟩

/-- The number of sessions that a step closes is the difference it makes, if none is closed but by its moves. -/
theorem length_closed {r : Router} {x : Step} {f : Session → Session}
    (hf : ∀ s : Session, (f s).queue.close = s.queue.close ∨ s.queue.close = none)
    (h : ∀ {id s}, r.registry.session? id = some s → (r.step x).registry.handle? id = some (f s)) :
    (r.closed x).length + r.registry.total (·.isOverflown.toNat) = r.registry.total fun s => (f s).isOverflown.toNat := by
  have hcount : (r.closed x).length =
      r.registry.total fun s => (s.queue.close.isNone && (f s).isOverflown).toNat := by
    rw [closed, List.length_map, ← List.countP_eq_length_filter, Registry.total,
      ← countP_eq_tally fun found : SessionId × Session => found.2.queue.close.isNone && (f found.2).isOverflown]
    refine List.countP_congr fun found hfound => ?_
    rw [h (Std.ExtTreeMap.mem_toList_iff_getElem?_eq_some.1 hfound)]
    rfl
  rw [hcount, ← Registry.total_add]
  congr 1
  funext s
  rcases hf s with hsame | hnone
  · rw [Session.isOverflown_of_close_eq hsame]
    cases hclose : s.queue.close with
    | none => simp [Session.isOverflown, hclose]
    | some code => simp
  · simp [hnone, Session.isOverflown_of_close_eq_none hnone]

/-! ## What the router counts -/

/-- Publishing counts the sessions that it closes. -/
theorem overflows_publish (now : Moment) (e : Event) {r : Router} (hr : r.registry.Consistent) :
    (r.publish now e).2.stats.overflows + r.registry.total (·.isOverflown.toNat) =
      r.stats.overflows + r.registry.total fun s => (s.offer now.ticks e).isOverflown.toNat := by
  have hcount : ((r.fanOut now e e.scopes).outcomes.map Prod.snd).count .overflowed = r.registry.total fun s =>
      if s.wants e then ((s.push now.ticks e.payload).1 == .overflowed).toNat else 0 := by
    rw [← tally_outcomes now e hr fun o => (o == .overflowed).toNat, ← countP_eq_tally]
    rfl
  have hoffer : (r.registry.total fun s => (s.offer now.ticks e).isOverflown.toNat) =
      r.registry.total (·.isOverflown.toNat) +
        ((r.fanOut now e e.scopes).outcomes.map Prod.snd).count .overflowed := by
    rw [hcount, ← Registry.total_add]
    congr 1
    funext s
    unfold Session.offer
    split
    · exact (s.push_overflown now.ticks e.payload).2
    · rfl
  rw [stats_publish, hoffer]
  simp only [Stats.countPublish]
  omega

theorem overflows_publishAll (now : Moment) : ∀ (es : List Event) {r : Router}, r.registry.Consistent →
    (publishAll now es r).stats.overflows + r.registry.total (·.isOverflown.toNat) =
      r.stats.overflows +
        r.registry.total fun s => ((es.map (.offer now.ticks)).foldl Session.move s).isOverflown.toNat
  | [], _, _ => rfl
  | e :: es, r, hr => by
    have hfirst := overflows_publish now e hr
    have hrest := overflows_publishAll now es (consistent_publish now e hr)
    -- The rest begins with the sessions as they are after the first offer.
    rw [total_publish now e hr, total_publish now e hr] at hrest
    have hmoves : ∀ s : Session, (((e :: es).map (.offer now.ticks)).foldl Session.move s) =
      ((es.map (.offer now.ticks)).foldl Session.move (s.offer now.ticks e)) := fun _ => rfl
    simp only [hmoves, publishAll]
    omega

/-- An action counts the sessions that its events close. -/
theorem overflows_act {r : Router} (hr : r.registry.Consistent) (handler : CommandHandler) (now : Moment) (i : SessionId)
    (action : Action) :
    let x := Step.submit handler now i (.act action)
    (r.step x).stats.overflows = r.stats.overflows + if x.closer r = .event then (r.closed x).length else 0 := by
  intro x
  cases hs : r.registry.handle? i with
  | none =>
    have hcloser : x.closer r = .reply := by rw [Step.closer, hs]; rfl
    rw [hcloser, step, submit_of_handle?_eq_none hs]
    rfl
  | some s =>
    rcases hresult : r.perform handler now s action with ⟨e | events, r₁⟩
    all_goals
      have hstats : r₁.stats = r.stats := congrArg (fun y => y.2.stats) hresult.symm
    · have hcloser : x.closer r = .reply := by rw [Step.closer, hs, Option.any_some, hresult]; rfl
      rw [hcloser, step, submit_act_failed hs hresult, stats_reportFailure, Stats.countCommand, hstats]
      rfl
    · have hcloser : x.closer r = .event := by rw [Step.closer, hs, Option.any_some, hresult]; rfl
      have hr₁ := registry_perform hresult
      have hc : r₁.registry.Consistent := hr₁ ▸ consistent_withIds hr _
      have hsame : ∀ w, r₁.registry.total w = r.registry.total w := fun w => by rw [hr₁]; rfl
      have hclosed := length_closed (r := r) (x := x)
        (f := fun t => (events.map (.offer now.ticks)).foldl Session.move t) (fun t => Session.close_moves _ t)
        fun {id t} ht => by
          have hhandle : r₁.registry.handle? id = some t := by
            rw [hr₁]
            exact Registry.handle?_of_session? ht
          rw [step, submit_act_done hs hresult]
          exact (handle?_publishAll now id events hc).trans (by rw [hhandle]; rfl)
      have hcount := overflows_publishAll now events hc
      rw [hsame, hsame, hstats] at hcount
      rw [hcloser, if_pos rfl, step, submit_act_done hs hresult]
      show (publishAll now events r₁).stats.overflows = _
      omega

/-- Any other command counts none. -/
theorem overflows_command {command : Command} (hcommand : ∀ action, command ≠ .act action) (handler : CommandHandler)
    (now : Moment) (i : SessionId) (r : Router) :
    (r.submit handler now i command).2.stats.overflows = r.stats.overflows := by
  cases hs : r.registry.handle? i with
  | none => rw [submit_of_handle?_eq_none hs]
  | some s =>
    rw [stats_submit hs]
    show (r.execute handler now s command).2.stats.overflows = _
    rw [stats_execute hcommand]

/-- **A step counts the sessions that it closes by an event**, and no others. -/
theorem overflows_step {r : Router} (hr : r.registry.Consistent) (x : Step) : (r.step x).stats.overflows =
    r.stats.overflows + if x.closer r = .event then (r.closed x).length else 0 := by
  cases x with
  | publish now e =>
    have hclosed := length_closed (r := r) (x := .publish now e) (f := (·.offer now.ticks e))
      (fun s => s.close_move (.offer now.ticks e)) fun {id s} hs => by
        rw [step, handle?_publish now e hr, Registry.handle?_of_session? hs]
        rfl
    have hcount := overflows_publish now e hr
    rw [Step.closer, if_pos rfl]
    show (r.publish now e).2.stats.overflows = _
    omega
  | submit handler now i command =>
    cases command with
    | act action => exact overflows_act hr handler now i action
    | _ => exact overflows_command (fun _ h => by cases h) handler now i r
  | _ => exact congrArg Stats.overflows (stats_step r rfl)

/-! ## Runs -/

/-- **The sessions closed for backpressure along a run**, by what closed them. -/
structure Closures where
  byEvents : List SessionId
  byReplies : List SessionId
  byRequest : List SessionId
deriving DecidableEq

namespace Closures

def none : Closures := ⟨[], [], []⟩

def all (c : Closures) : List SessionId := c.byEvents ++ c.byReplies ++ c.byRequest

/-- What a step is written down as, at the router that it begins with. -/
def step (r : Router) (c : Closures) (x : Step) : Closures :=
  match x.closer r with
  | .event => { c with byEvents := c.byEvents ++ r.closed x }
  | .reply => { c with byReplies := c.byReplies ++ r.closed x }
  | .request => { c with byRequest := c.byRequest ++ r.closed x }

def run (c : Closures) : List Step → Router → Closures
  | [], _ => c
  | x :: xs, r => (c.step r x).run xs (r.step x)

variable {c : Closures} {r : Router} {queue : QueueConfig}

theorem all_step (c : Closures) (r : Router) (x : Step) : (c.step r x).all.Perm (c.all ++ r.closed x) := by
  obtain ⟨byEvents, byReplies, byRequest⟩ := c
  unfold step all
  cases x.closer r with
  | event =>
    simp only [List.append_assoc]
    refine List.Perm.append_left _ ?_
    calc (r.closed x ++ (byReplies ++ byRequest)).Perm (byReplies ++ byRequest ++ r.closed x) := List.perm_append_comm
      _ = byReplies ++ (byRequest ++ r.closed x) := List.append_assoc _ _ _
  | reply =>
    simp only [List.append_assoc]
    exact List.Perm.append_left _ (List.Perm.append_left _ List.perm_append_comm)
  | request => simp only [List.append_assoc]; rfl

/-- **Every session that closes for backpressure is written down, and none twice.** -/
structure Exact (c : Closures) (r : Router) : Prop where
  nodup : c.all.Nodup
  mem_iff : ∀ id, id ∈ c.all ↔ ∃ s, r.registry.handle? id = some s ∧ s.isOverflown = true

theorem exact_new (ids : Generator) (queue : QueueConfig) : Exact none (.new ids queue) := by
  refine ⟨List.nodup_nil, fun id => ⟨(fun h => nomatch h), ?_⟩⟩
  rintro ⟨s, hs, -⟩
  simp [Router.new, Registry.new, Registry.handle?] at hs

theorem Exact.step (hc : c.Exact r) (hr : r.Sound queue) (hmarked : r.Marked) {x : Step}
    (hfits : (r.step x).registry.ids.Fits) : (c.step r x).Exact (r.step x) := by
  have hperm := c.all_step r x
  refine ⟨hperm.nodup_iff.2 (List.nodup_append.2 ⟨hc.nodup, r.nodup_closed x, ?_⟩), fun id => ?_⟩
  · rintro id hid _ hid' rfl
    obtain ⟨s, hs, hover⟩ := (hc.mem_iff id).1 hid
    obtain ⟨t, -, ht, hnone, -⟩ := mem_closed.1 hid'
    obtain rfl : t = s := Option.some.inj ((Registry.handle?_of_session? ht).symm.trans hs)
    exact absurd hover (Bool.eq_false_iff.1 (Session.isOverflown_of_close_eq_none hnone))
  rw [hperm.mem_iff, List.mem_append, hc.mem_iff, mem_closed]
  cases hs : r.registry.handle? id with
  | none =>
    have hsession := Registry.session?_eq_none_of_handle? hs
    rw [hsession]
    suffices h : ∀ s, (r.step x).registry.handle? id = some s → s.isOverflown = false by
      simp only [reduceCtorEq, false_and, exists_false, or_self, false_iff, not_exists, not_and, Bool.not_eq_true]
      exact h
    intro s hs'
    cases hbegins : r.begins id x with
    | true =>
      obtain ⟨_, _, _, _, -, hnew⟩ := handle?_step_of_begins hbegins
      rw [← Option.some.inj (hnew.symm.trans hs')]
      rfl
    | false =>
      obtain ⟨ms, -, hundergoes⟩ := step_moves hr.consistent x id hbegins
      rw [hundergoes.handle?, hs] at hs'
      cases hs'
  | some s =>
    obtain ⟨ms, -, hs'⟩ := hr.moves hs hfits
    rw [hs']
    simp only [Option.some.injEq, exists_eq_left', exists_and_left]
    rcases Session.close_moves ms s with hsame | hnone
    · rw [Session.isOverflown_of_close_eq hsame]
      exact ⟨fun h => h.elim (fun h => h) fun ⟨_, _, _, h⟩ => h, .inl⟩
    · rw [Session.isOverflown_of_close_eq_none hnone]
      cases ht : r.registry.session? id with
      | some t =>
        obtain rfl : t = s := Option.some.inj ((Registry.handle?_of_session? ht).symm.trans hs)
        simp [hnone]
      | none =>
        -- Who is no longer live is closed by nothing.
        have hretired : s.Retired := hmarked hs (hr.consistent.retired_released
          ((Registry.handle?_of_session?_eq_none ht).symm.trans hs))
        have hclose : (ms.foldl Session.move s).queue.close = Option.none := (hretired.close_moves ms).trans hnone
        simp [Session.isOverflown_of_close_eq_none hclose]

theorem Exact.run {xs : List Step} (hc : c.Exact r) (hr : r.Sound queue) (hmarked : r.Marked)
    (hdraws : ∀ x ∈ xs, x.Draws) (hfits : (r.run xs).registry.ids.Fits) : (c.run xs r).Exact (r.run xs) := by
  induction xs generalizing c r with
  | nil => exact hc
  | cons x xs ih =>
    have hdraws' : ∀ y ∈ xs, y.Draws := fun y hy => hdraws y (List.mem_cons_of_mem _ hy)
    have hfits' : (r.step x).registry.ids.Fits := Generator.Fits.mono hfits (run_keeps xs hdraws').2
    exact ih (hc.step hr hmarked hfits') (hr.step (hdraws x List.mem_cons_self))
      (marked_step hr.consistent hmarked x) hdraws' hfits

theorem overflows_run : ∀ (xs : List Step) {c : Closures} {r : Router}, r.registry.Consistent →
    r.stats.overflows = c.byEvents.length → (r.run xs).stats.overflows = (c.run xs r).byEvents.length
  | [], _, _, _, h => h
  | x :: xs, c, r, hr, h => by
    refine overflows_run xs (consistent_step hr x).1 ?_
    rw [overflows_step hr x, h, step]
    cases x.closer r with
    | event => exact List.length_append.symm
    | reply | request => rfl

end Closures

/-- **The router counts the sessions that events have closed.**  At every point of every run a session closes for
backpressure if and only if it was closed by an event, by a reply or on request, and by one of them only; the counter
is the number of the first.  So it is the number of all sessions that a push has closed exactly as long as no reply has
closed one. -/
theorem overflows_count_events (ids : Generator) (queue : QueueConfig) (steps : List Step) :
    let r := (new ids queue).run steps
    let c := Closures.none.run steps (new ids queue)
    r.stats.overflows = c.byEvents.length ∧
      (r.stats.overflows = (c.byEvents ++ c.byReplies).length ↔ c.byReplies = []) ∧
      ((∀ x ∈ steps, x.Draws) → r.registry.ids.Fits → (c.byEvents ++ c.byReplies ++ c.byRequest).Nodup ∧
        ∀ id, id ∈ c.byEvents ++ c.byReplies ++ c.byRequest ↔
          ∃ s, r.registry.handle? id = some s ∧ s.queue.close = some .backpressureOverflow) := by
  intro r c
  have hcount : r.stats.overflows = c.byEvents.length :=
    Closures.overflows_run steps (Registry.consistent_new ids queue) rfl
  refine ⟨hcount, ?_, fun hdraws hfits => ?_⟩
  · rw [hcount, List.length_append, ← List.length_eq_zero_iff]
    omega
  · have hexact : c.Exact r :=
      (Closures.exact_new ids queue).run (sound_new ids queue) (fun h => by cases h) hdraws hfits
    refine ⟨hexact.nodup, fun id => (hexact.mem_iff id).trans ?_⟩
    simp only [Session.isOverflown, beq_iff_eq]

/-- Room for one control reply: the second heartbeat closes its session for backpressure, and nothing is counted. -/
theorem overflow_by_reply_uncounted :
    let r := (new ⟨1, 0, 0⟩ ⟨256, 1, .dropOldest 64 3600000⟩).run
      [.create ⟨0, 0⟩ ⟨1, .json, ⟨2, 0⟩⟩ ⟨⟨7⟩, "t"⟩ .all,
        .submit (LocalChannels.handler ⟨[]⟩) ⟨0, 0⟩ ⟨4097⟩ (.heartbeat 0),
        .submit (LocalChannels.handler ⟨[]⟩) ⟨0, 0⟩ ⟨4097⟩ (.heartbeat 1)]
    (r.registry.handle? ⟨4097⟩).map (·.queue.close) = some (some .backpressureOverflow) ∧ r.stats.overflows = 0 := by
  decide +kernel

end Router
end EventGateway
