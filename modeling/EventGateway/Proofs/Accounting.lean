import EventGateway.Proofs.Run
/-!
# Accounting — every event pushed to a session is delivered, queued or told as missed

`Balanced` ties the account of a session to its queue: what was handed over and what is still queued are the pushed
events but for some, in their order, and the ones left out are those that the notices and the counter of the queue
tell of.  Each move keeps it, whichever event an overflow loses: the oldest one in the queue, or the one that closes it.
-/
namespace EventGateway

open Wire (Payload Envelope)

/-- The event dispatches among some payloads. -/
def eventsOf (ps : List Payload) : List Payload := ps.filter (·.isEvent)

/-- The number of lost events that the notices among some payloads tell of. -/
def toldOf : List Payload → Nat
  | [] => 0
  | p :: ps => p.missedCount + toldOf ps

theorem eventsOf_append (xs ys : List Payload) : eventsOf (xs ++ ys) = eventsOf xs ++ eventsOf ys :=
  List.filter_append ..

theorem toldOf_append : ∀ xs ys : List Payload, toldOf (xs ++ ys) = toldOf xs + toldOf ys
  | [], ys => (Nat.zero_add _).symm
  | x :: xs, ys => by rw [List.cons_append, toldOf, toldOf, toldOf_append xs ys, Nat.add_assoc]

/-- Only a notice tells of lost events, and an event is not one. -/
theorem missedCount_eq_zero {p : Payload} (h : p.isSequenced = true → p.isEvent = true) : p.missedCount = 0 := by
  cases p with
  | eventsMissed n => cases h rfl
  | _ => rfl

theorem toldOf_eq_zero : ∀ {ps : List Payload}, (∀ p ∈ ps, p.isSequenced = true → p.isEvent = true) → toldOf ps = 0
  | [], _ => rfl
  | p :: ps, h => by
    have hrest : toldOf ps = 0 := toldOf_eq_zero fun q hq => h q (List.mem_cons_of_mem _ hq)
    rw [toldOf, missedCount_eq_zero (h p List.mem_cons_self), hrest]

/-- A notice is no event, and tells of as many lost ones as fit on the wire. -/
theorem announced_account (missed : Nat) (items : List Payload) (close : Option CloseCode)
    (hitems : ∀ p ∈ items, p.isSequenced = true → p.isEvent = true) :
    eventsOf (Session.announced ⟨missed, items, close, false⟩) = eventsOf items ∧
      toldOf (Session.announced ⟨missed, items, close, false⟩) = missed % UInt64.size := by
  unfold Session.announced
  rw [eventsOf_append, toldOf_append, toldOf_eq_zero hitems]
  by_cases h : 0 < missed
  · rw [if_pos h]
    exact ⟨rfl, by simp [toldOf, Payload.missedCount]⟩
  · obtain rfl : missed = 0 := by omega
    exact ⟨rfl, rfl⟩

/-- Whether a move keeps the session alive and pushes nothing but events and control replies. -/
def Session.Move.isOrdinary : Session.Move → Bool
  | .retire => false
  | .push _ p => !p.isSequenced
  | _ => true

namespace Account

/-- **What ties the account of a session to its queue.**  `lost` is the number of events that the notices should tell
of; a notice holds 64 bits of its part. -/
structure Balanced (a : Account) (q : Queue) : Prop where
  tidy : q.Tidy
  live : q.shut = false
  events : ∀ p ∈ q.items, p.isSequenced = true → p.isEvent = true
  inOrder : (eventsOf a.delivered ++ eventsOf q.items).Sublist (a.pushed.map Event.payload)
  counts : ∃ lost, a.pushed.length = (eventsOf a.delivered).length + (eventsOf q.items).length + lost + q.missed ∧
    toldOf a.delivered % UInt64.size = lost % UInt64.size ∧ (lost < UInt64.size → toldOf a.delivered = lost)

theorem balanced_new (config : QueueConfig) (h : 0 < config.capacity) : Balanced .empty (.new config) :=
  ⟨Queue.tidy_new config h, rfl, (fun _ hp => by cases hp), List.Sublist.refl [], 0, rfl, rfl, fun _ => rfl⟩

/-- A control reply is not on the account. -/
theorem Balanced.control {a : Account} {q : Queue} (hb : a.Balanced q) (now : Nat) {p : Payload}
    (hp : p.isSequenced = false) : a.Balanced (q.push now p).2 := by
  have htidy := hb.tidy.push now p
  generalize hr : q.push now p = r at htidy ⊢
  have hpushed : Queue.Pushed now p q r := hr ▸ Queue.pushed now p q
  have hdispatch : ∀ {P : Prop}, p.isSequenced = true → P := fun h => by rw [hp] at h; cases h
  have hevent : eventsOf [p] = [] := by simp [eventsOf, Payload.isEvent, hp]
  cases hpushed with
  | closing => exact hb
  | control =>
    have hevents : eventsOf (q.items ++ [p]) = eventsOf q.items := by
      rw [eventsOf_append, hevent, List.append_nil]
    refine ⟨htidy, hb.live, fun x hx => ?_, ?_, ?_⟩
    · rcases List.mem_append.1 hx with hx | hx
      · exact hb.events x hx
      · rw [List.mem_singleton.1 hx]; exact hdispatch
    · rw [hevents]; exact hb.inOrder
    · rw [hevents]; exact hb.counts
  | controlRefused => exact ⟨htidy, hb.live, hb.events, hb.inOrder, hb.counts⟩
  | dispatch _ h => exact hdispatch h
  | evicting _ _ _ h => exact hdispatch h
  | dispatchRefused _ _ h => exact hdispatch h

/-- **An event that finds the queue open is on the account**, and so is the one that it evicts, or it is lost itself. -/
theorem Balanced.event {a : Account} {q : Queue} (hb : a.Balanced q) (now : Nat) (e : Event) :
    (if (q.push now e.payload).1 != .closed then { a with pushed := a.pushed ++ [e] } else a : Account).Balanced
      (q.push now e.payload).2 := by
  have htidy := hb.tidy.push now e.payload
  generalize hr : q.push now e.payload = r at htidy ⊢
  have hpushed : Queue.Pushed now e.payload q r := hr ▸ Queue.pushed now e.payload q
  have hcontrol : ∀ {P : Prop}, e.payload.isSequenced = false → P := fun h => by
    rw [isSequenced_payload] at h; cases h
  have hself : eventsOf [e.payload] = [e.payload] := by simp [eventsOf, isEvent_payload]
  have hlast : ∀ x ∈ [e.payload], x.isSequenced = true → x.isEvent = true := fun x hx _ => by
    rw [List.mem_singleton.1 hx]; exact isEvent_payload e
  obtain ⟨lost, hlength, htold, hexact⟩ := hb.counts
  cases hpushed with
  | closing => exact hb
  | control _ h => exact hcontrol h
  | controlRefused _ h => exact hcontrol h
  | dispatch =>
    have hevents : eventsOf (q.items ++ [e.payload]) = eventsOf q.items ++ [e.payload] := by
      rw [eventsOf_append, hself]
    refine ⟨htidy, hb.live, fun x hx => ?_, ?_, lost, ?_, htold, hexact⟩
    · exact (List.mem_append.1 hx).elim (hb.events x) (hlast x)
    · show (eventsOf a.delivered ++ eventsOf (q.items ++ [e.payload])).Sublist ((a.pushed ++ [e]).map Event.payload)
      rw [hevents, ← List.append_assoc, List.map_append]
      exact hb.inOrder.append (List.Sublist.refl _)
    · show (a.pushed ++ [e]).length = (eventsOf a.delivered).length + (eventsOf (q.items ++ [e.payload])).length + _ + _
      rw [hevents, List.length_append, List.length_append, hlength]
      simp only [List.length_singleton]
      omega
  | evicting threshold window _ _ full =>
    -- The oldest dispatch is the first event in the queue.
    obtain ⟨before, old, after, hitems, hold, hbefore, herase⟩ := Queue.evicted_of_full hb.tidy full
    have hnone : eventsOf before = [] := List.filter_eq_nil_iff.2 fun x hx => by
      simp [Payload.isEvent, hbefore x hx]
    have holdEvent : old.isEvent = true := hb.events old (by rw [hitems]; simp) hold
    have hqueued : eventsOf q.items = old :: eventsOf after := by
      rw [hitems, eventsOf_append, hnone, List.nil_append, eventsOf, List.filter_cons_of_pos holdEvent]; rfl
    have hevents : eventsOf (q.items.eraseP (·.isSequenced) ++ [e.payload]) = eventsOf after ++ [e.payload] := by
      rw [herase, eventsOf_append, eventsOf_append, hnone, hself, List.nil_append]
    refine ⟨htidy, hb.live, fun x hx => ?_, ?_, lost, ?_, htold, hexact⟩
    · exact (List.mem_append.1 hx).elim (fun h => hb.events x (List.mem_of_mem_eraseP h)) (hlast x)
    · show (eventsOf a.delivered ++ eventsOf (q.items.eraseP (·.isSequenced) ++ [e.payload])).Sublist
        ((a.pushed ++ [e]).map Event.payload)
      rw [hevents, ← List.append_assoc, List.map_append]
      have hshorter : (eventsOf a.delivered ++ eventsOf after).Sublist (eventsOf a.delivered ++ eventsOf q.items) := by
        rw [hqueued]
        exact (List.Sublist.refl _).append (List.sublist_cons_self old _)
      exact (hshorter.trans hb.inOrder).append (List.Sublist.refl _)
    · show (a.pushed ++ [e]).length = (eventsOf a.delivered).length +
        (eventsOf (q.items.eraseP (·.isSequenced) ++ [e.payload])).length + lost + (q.missed + 1)
      rw [hevents, List.length_append, List.length_append, hlength, hqueued]
      simp only [List.length_cons]
      omega
  | dispatchRefused =>
    refine ⟨htidy, hb.live, hb.events, ?_, lost, ?_, htold, hexact⟩
    · show (eventsOf a.delivered ++ eventsOf q.items).Sublist ((a.pushed ++ [e]).map Event.payload)
      rw [List.map_append]
      exact hb.inOrder.trans (List.sublist_append_left _ _)
    · show (a.pushed ++ [e]).length = (eventsOf a.delivered).length + (eventsOf q.items).length + lost + (q.missed + 1)
      rw [List.length_append, hlength, List.length_singleton]
      omega

theorem Balanced.closeWith {a : Account} {q : Queue} (hb : a.Balanced q) (code : CloseCode) :
    a.Balanced (q.closeWith code).2 := by
  have htidy := hb.tidy.closeWith code
  unfold Queue.closeWith at htidy ⊢
  split
  · exact hb
  · rename_i h
    rw [if_neg h] at htidy
    exact ⟨htidy, hb.live, hb.events, hb.inOrder, hb.counts⟩

/-- **A drain moves what is queued, and what is counted as missed, to the other side.** -/
theorem Balanced.drain {a : Account} {s : Session} (hb : a.Balanced s.queue) :
    ({ a with sent := a.sent ++ s.nextOutgoing.1.elim [] (·.envelopes) } : Account).Balanced
      s.nextOutgoing.2.queue := by
  rw [Session.nextOutgoing_queue]
  obtain ⟨hitems, hmissed⟩ := s.queue.drain_empties
  have hdelivered : ({ a with sent := a.sent ++ s.nextOutgoing.1.elim [] (·.envelopes) } : Account).delivered =
      a.delivered ++ Session.announced ⟨s.queue.missed, s.queue.items, none, false⟩ := by
    rw [delivered, List.map_append, Session.nextOutgoing_payloads, hb.live]; rfl
  obtain ⟨hevents, htold⟩ := announced_account s.queue.missed s.queue.items none hb.events
  obtain ⟨lost, hlength, hmod, hexact⟩ := hb.counts
  refine ⟨hb.tidy.drain, s.queue.drain_shut.trans hb.live, ?_, ?_, lost + s.queue.missed, ?_⟩
  · rw [hitems]
    exact fun _ hp => by cases hp
  · rw [hdelivered, eventsOf_append, hevents, hitems]
    exact (List.append_nil _).symm ▸ hb.inOrder
  · rw [hdelivered, eventsOf_append, toldOf_append, hevents, htold, hitems, hmissed, List.length_append]
    refine ⟨?_, ?_, fun hfew => ?_⟩
    · show a.pushed.length = _ + 0 + _ + 0
      omega
    · rw [Nat.add_mod_mod, Nat.add_mod, hmod, ← Nat.add_mod]
    · rw [Nat.mod_eq_of_lt (by omega), hexact (by omega)]

/-! ## One move, and a run of them -/

theorem Balanced.move {a : Account} {s : Session} (hb : a.Balanced s.queue) {m : Session.Move}
    (hm : m.isOrdinary = true) : (a.move s m).Balanced (s.move m).queue := by
  cases m with
  | offer now e =>
    by_cases hw : s.wants e = true
    · obtain ⟨haccount, hsession⟩ := a.move_offer_of_wants now hw
      rw [haccount, hsession]
      exact hb.event now e
    · obtain ⟨haccount, hsession⟩ := a.move_offer_of_not_wants now hw
      rw [haccount, hsession]
      exact hb
  | push now p => exact hb.control now (by simpa [Session.Move.isOrdinary] using hm)
  | heartbeat now => exact hb.control now rfl
  | close code => exact hb.closeWith code
  | drain => exact hb.drain
  | subscribe scope kinds => exact hb
  | unsubscribe scope =>
    simp only [Account.move, Session.move]
    split <;> exact hb
  | retire => cases hm

theorem Balanced.moves (ms : List Session.Move) {a : Account} {s : Session} (hms : ∀ m ∈ ms, m.isOrdinary = true)
    (hb : a.Balanced s.queue) : (a.moves s ms).Balanced (ms.foldl Session.move s).queue :=
  Account.moves_keep (P := fun a s => a.Balanced s.queue) (fun hm hb => hb.move hm) ms hms hb

end Account

namespace Router

/-- Whether a step destroys no session and pushes nothing but events and control replies. -/
def Step.isOrdinary : Step → Bool
  | .destroy _ => false
  | .enqueue _ _ p | .reply _ _ p => p.isCritical
  | _ => true

theorem Step.Moves.isOrdinary {id : SessionId} {x : Step} {ms : List Session.Move} (h : x.Moves id ms)
    (hx : x.isOrdinary = true) : ∀ m ∈ ms, m.isOrdinary = true := by
  cases h with
  | untouched => exact fun _ hm => by cases hm
  | destroy => cases hx
  | enqueue now p => exact List.forall_mem_singleton.2 hx
  | reply now p => exact List.forall_mem_singleton.2 hx
  | subscribed handler now scope kinds => exact List.forall_mem_cons.2 ⟨rfl, List.forall_mem_singleton.2 rfl⟩
  | unsubscribed handler now scope => exact List.forall_mem_cons.2 ⟨rfl, List.forall_mem_singleton.2 rfl⟩
  | acted handler now i action events => exact List.forall_mem_map.2 fun _ _ => rfl
  | _ => exact List.forall_mem_singleton.2 rfl

/-- **No event is lost silently, duplicated or reordered.**  At every point of every run, what a session was handed and
has still queued are the events pushed to it but for some, in their order; and the ones left out are as many as the
notices that it was handed and its counter tell of.  A notice counts in 64 bits. -/
theorem pushed_events_accounted (ids : Generator) (settings : Settings) (steps : List Step)
    (hsteps : ∀ x ∈ steps, x.isOrdinary = true) (id : SessionId) (s : Session)
    (hs : ((new ids settings.queue).run steps).registry.handle? id = some s) :
    let a := account id steps (new ids settings.queue) .empty
    let handed := eventsOf (a.sent.map (·.payload))
    let queued := eventsOf s.queue.items
    let told := toldOf (a.sent.map (·.payload))
    (handed ++ queued).Sublist (a.pushed.map Event.payload) ∧
      a.pushed.length % UInt64.size = (handed.length + queued.length + told + s.queue.missed) % UInt64.size ∧
      (a.pushed.length < UInt64.size → a.pushed.length = handed.length + queued.length + told + s.queue.missed) := by
  intro a handed queued told
  have hb : a.Balanced s.queue := by
    refine run_invariant (P := fun a s => a.Balanced s.queue) ?_ steps (Registry.consistent_new _ _) rfl ?_ ?_ s hs
    · exact fun _ _ _ _ => Account.balanced_new _ settings.queue_capacity_pos
    · exact fun x hx ms hms a s hb => hb.moves ms (hms.isOrdinary (hsteps x hx))
    · exact fun s hnone => by cases hnone
  obtain ⟨lost, hlength, htold, hexact⟩ := hb.counts
  have hlength : a.pushed.length = handed.length + queued.length + lost + s.queue.missed := hlength
  have htold : told % UInt64.size = lost % UInt64.size := htold
  refine ⟨hb.inOrder, ?_, fun hfew => ?_⟩
  · have htotal : ∀ n, handed.length + queued.length + n + s.queue.missed =
        handed.length + queued.length + s.queue.missed + n := fun n => by omega
    rw [hlength, htotal, htotal, Nat.add_mod, ← htold, ← Nat.add_mod]
  · have : told = lost := hexact (by omega)
    omega

/-- Room for one event: the second event evicts the first, a notice tells of it, and the fourth one closes the session
and is lost itself while the third one is still queued. -/
theorem pushed_events_accounted_evicting :
    let settings := { Settings.standard with queueCapacity := 1, overflowThreshold := 2 }
    let deleted (n : Nat) := Step.publish ⟨0, 0⟩ (.messageDeleted ⟨5⟩ (.ofNat n))
    let steps := [.create ⟨0, 0⟩ ⟨1, .json, ⟨2, 0⟩⟩ ⟨⟨7⟩, "agent"⟩ .all, .subscribe ⟨4097⟩ (.channel ⟨5⟩) .all,
      deleted 1, deleted 2, .drain ⟨4097⟩, deleted 3, deleted 4]
    let start := new ⟨1, 0, 0⟩ settings.queue
    let a := account ⟨4097⟩ steps start .empty
    (∀ x ∈ steps, x.isOrdinary = true) ∧ ∃ s, (start.run steps).registry.handle? ⟨4097⟩ = some s ∧
      (eventsOf (a.sent.map (·.payload)) ++ eventsOf s.queue.items).Sublist (a.pushed.map Event.payload) ∧
      4 = 1 + (eventsOf s.queue.items).length + 1 + s.queue.missed := by
  intro settings deleted steps start a
  have hsteps : ∀ x ∈ steps, x.isOrdinary = true := by decide
  have hsome : ((start.run steps).registry.handle? ⟨4097⟩).isSome = true := by decide +kernel
  obtain ⟨s, hs⟩ := Option.isSome_iff_exists.1 hsome
  obtain ⟨horder, -, hexact⟩ := pushed_events_accounted ⟨1, 0, 0⟩ settings steps hsteps ⟨4097⟩ s hs
  have hpushed : a.pushed.length = 4 := by decide +kernel
  have hhanded : (eventsOf (a.sent.map (·.payload))).length = 1 := by decide +kernel
  have htold : toldOf (a.sent.map (·.payload)) = 1 := by decide +kernel
  have hcount := hexact (hpushed ▸ (by decide : 4 < UInt64.size))
  rw [hpushed, hhanded, htold] at hcount
  exact ⟨hsteps, s, hs, horder, hcount⟩

end Router
end EventGateway
