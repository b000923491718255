import EventGateway.Proofs.Fanout
import EventGateway.Proofs.Numbering
/-!
# Moves — what the router does, as one session sees it

Whatever the router does, a session only goes through `Move`s of its own.  One lemma for each operation of the router
says which (`handle?_publish` and the others), and an `Account` keeps what passes between the two meanwhile.
-/
namespace EventGateway

theorem isEvent_payload (e : Event) : e.payload.isEvent = true := by cases e <;> rfl

theorem isSequenced_payload (e : Event) : e.payload.isSequenced = true :=
  Wire.Payload.isSequenced_of_isEvent (isEvent_payload e)

/-- What has passed between the router and a session: the events that were pushed to it while it was not closing, and
the envelopes that were handed to its writer. -/
structure Account where
  pushed : List Event
  sent : List Wire.Envelope

namespace Account

def empty : Account := ⟨[], []⟩

/-- The payloads that were handed to the writer. -/
def delivered (a : Account) : List Wire.Payload := a.sent.map (·.payload)

end Account

namespace Session

/-! ## What a drain hands over -/

theorem nextOutgoing_queue (s : Session) : s.nextOutgoing.2.queue = s.queue.drain.2 := by
  unfold nextOutgoing
  rcases s.queue.drain with ⟨_ | b, q⟩
  · rfl
  · dsimp only
    unfold stamp
    split <;> rfl

/-- **Everything that is queued is handed over at once**, after a notice of what was lost; but nothing of a session that
is gone. -/
theorem nextOutgoing_payloads (s : Session) : (s.nextOutgoing.1.elim [] (·.envelopes)).map (·.payload) =
    if s.queue.shut then [] else announced ⟨s.queue.missed, s.queue.items, none, false⟩ := by
  unfold nextOutgoing
  cases hw : s.queue.hasWork with
  | false =>
    simp only [Queue.hasWork, Bool.or_eq_false_iff, Bool.not_eq_false', decide_eq_false_iff_not,
      List.isEmpty_iff] at hw
    have hdrain : s.queue.drain = (none, s.queue) := by simp [Queue.drain, Queue.hasWork, hw]
    simp [hdrain, announced, hw]
  | true =>
    cases hshut : s.queue.shut with
    | true => simp [Queue.drain, hw, hshut, stamp]
    | false =>
      simp only [Queue.drain, hw, hshut, stamp]
      exact number_payloads _ _

end Session

namespace Session

/-- What a step of the router can do to one session. -/
inductive Move where
  | offer (now : Nat) (e : Event)
  | push (now : Nat) (p : Wire.Payload)
  | heartbeat (now : Nat)
  | close (code : CloseCode)
  | drain
  | subscribe (scope : Scope) (kinds : EventKinds)
  | unsubscribe (scope : Scope)
  | retire

def move (s : Session) : Move → Session
  | .offer now e => s.offer now e
  | .push now p => (s.push now p).2
  | .heartbeat now => (s.push now (.heartbeatAck s.sequence)).2
  | .close code => (s.closeWith code).2
  | .drain => s.nextOutgoing.2
  | .subscribe scope kinds => { s with subscriptions := s.subscriptions.insert scope kinds }
  | .unsubscribe scope =>
    if s.subscriptions.contains scope then { s with subscriptions := s.subscriptions.erase scope } else s
  | .retire => Registry.retire s

/-- Whether the client is told that a command has failed. -/
def Move.isReport : Move → Bool
  | .push _ (.error ..) => true
  | _ => false

/-- What happens to a session that does nothing itself: it is offered events. -/
def Move.isOffer : Move → Bool
  | .offer .. => true
  | _ => false

theorem Move.isReport_of_isOffer {m : Move} (h : m.isOffer = true) : m.isReport = false := by
  cases m <;> first | rfl | cases h

theorem Move.isOffer_offers (now : Nat) (es : List Event) : ∀ m ∈ es.map (Move.offer now), m.isOffer = true :=
  List.forall_mem_map.2 fun _ _ => rfl

/-- Whether an offer is pushed to a session that is not closing. -/
def takes (s : Session) (now : Nat) (e : Event) : Bool := s.wants e && (s.push now e.payload).1 != .closed

end Session

namespace Account

/-- What a move adds to the account. -/
def move (a : Account) (s : Session) : Session.Move → Account
  | .offer now e => if s.takes now e then { a with pushed := a.pushed ++ [e] } else a
  | .drain => { a with sent := a.sent ++ s.nextOutgoing.1.elim [] (·.envelopes) }
  | _ => a

/-- A session that wants an event is pushed to, and the event is on the account if the queue was open. -/
theorem move_offer_of_wants (a : Account) {s : Session} (now : Nat) {e : Event} (hw : s.wants e = true) :
    a.move s (.offer now e) =
        (if (s.queue.push now e.payload).1 != .closed then { a with pushed := a.pushed ++ [e] } else a) ∧
      s.move (.offer now e) = { s with queue := (s.queue.push now e.payload).2 } := by
  have htakes : s.takes now e = ((s.queue.push now e.payload).1 != .closed) := by rw [Session.takes, hw]; rfl
  exact ⟨by rw [move, htakes], if_pos hw⟩

theorem move_offer_of_not_wants (a : Account) {s : Session} (now : Nat) {e : Event} (hw : ¬ s.wants e = true) :
    a.move s (.offer now e) = a ∧ s.move (.offer now e) = s := by
  have htakes : s.takes now e = false := by rw [Session.takes, Bool.eq_false_iff.2 hw]; rfl
  exact ⟨by rw [move, htakes]; rfl, if_neg hw⟩

/-- The account after some moves. -/
def moves (a : Account) (s : Session) : List Session.Move → Account
  | [] => a
  | m :: ms => (a.move s m).moves (s.move m) ms

/-- **What a move of some kind keeps is kept by any number of them.** -/
theorem moves_keep {P : Account → Session → Prop} {Q : Session.Move → Prop}
    (hmove : ∀ {a : Account} {s : Session} {m : Session.Move}, Q m → P a s → P (a.move s m) (s.move m)) :
    ∀ (ms : List Session.Move) {a : Account} {s : Session}, (∀ m ∈ ms, Q m) → P a s →
      P (a.moves s ms) (ms.foldl Session.move s)
  | [], _, _, _, h => h
  | m :: ms, _, _, hms, h =>
    moves_keep hmove ms (fun m' hm' => hms m' (List.mem_cons_of_mem _ hm')) (hmove (hms m List.mem_cons_self) h)

end Account

namespace Router

/-! ## Publishing -/

/-- Of the events published one after the other, those that are pushed to a session and do not find it closing. -/
def pushedOf (now : Moment) (id : SessionId) : List Event → Router → List Event
  | [], _ => []
  | e :: es, r =>
    (if (r.fanOut now e e.scopes).outcomes.any (fun x => x.1 == id && x.2 != .closed) then [e] else []) ++
      pushedOf now id es (r.publish now e).2

theorem reached_any_iff_takes {now : Moment} {e : Event} {r : Router} (hr : r.registry.Consistent) {id : SessionId}
    {s : Session} (hs : r.registry.handle? id = some s) :
    (r.fanOut now e e.scopes).outcomes.any (fun x => x.1 == id && x.2 != .closed) = s.takes now.ticks e := by
  obtain ⟨hprogress, hreached⟩ := fanOut_spec now e (List.Subset.refl e.scopes) hr
  have hself : ∀ {t}, r.registry.session? id = some t → t = s := fun ht => by
    rw [Registry.handle?_of_session? ht] at hs
    exact Option.some.inj hs
  rw [Bool.eq_iff_iff, List.any_eq_true, Session.takes, Bool.and_eq_true]
  constructor
  · rintro ⟨⟨i, o⟩, hmem, hx⟩
    obtain ⟨hi, ho⟩ := Bool.and_eq_true_iff.1 hx
    obtain rfl : i = id := by simpa using hi
    obtain ⟨t, ht, hw⟩ := (hreached i).1 (List.mem_map_of_mem hmem)
    obtain ⟨t', ht', hout⟩ := hprogress.outcome _ hmem
    rw [hself ht] at hw
    rw [hself ht'] at hout
    exact ⟨hw, hout ▸ ho⟩
  · rintro ⟨hw, ho⟩
    obtain ⟨t, ht⟩ : ∃ t, r.registry.session? id = some t := by
      cases ht : r.registry.session? id with
      | some t => exact ⟨t, rfl⟩
      | none =>
        -- A session that is gone is released, and wants nothing.
        rw [Registry.handle?_of_session?_eq_none ht] at hs
        exact absurd (hr.retired_released hs) (by rw [(s.wants_iff.1 hw).2.1]; simp)
    obtain ⟨⟨i, o⟩, hmem, hi⟩ := List.mem_map.1 ((hreached id).2 ⟨t, ht, hself ht ▸ hw⟩)
    obtain rfl : i = id := hi
    obtain ⟨t', ht', hout⟩ := hprogress.outcome _ hmem
    rw [hself ht'] at hout
    exact ⟨(i, o), hmem, by rw [Bool.and_eq_true]; exact ⟨by simp, hout ▸ ho⟩⟩

theorem queue_publish (now : Moment) (e : Event) {r : Router} (hr : r.registry.Consistent) :
    (r.publish now e).2.registry.queue = r.registry.queue :=
  (fanOut_spec now e (List.Subset.refl e.scopes) hr).1.queue

/-- **To a session, publishing some events is being offered one after the other.** -/
theorem handle?_publishAll (now : Moment) (id : SessionId) : ∀ (es : List Event) {r : Router}, r.registry.Consistent →
    (publishAll now es r).registry.handle? id =
      (r.registry.handle? id).map ((es.map (.offer now.ticks)).foldl Session.move)
  | [], _, _ => by simp [publishAll]
  | e :: es, r, hr => by
    rw [publishAll, handle?_publishAll now id es (consistent_publish now e hr), handle?_publish now e hr,
      Option.map_map]
    rfl

theorem pushedOf_eq_moves (now : Moment) (id : SessionId) : ∀ (es : List Event) {r : Router} {s : Session}
    (a : Account), r.registry.Consistent → r.registry.handle? id = some s →
      ⟨a.pushed ++ pushedOf now id es r, a.sent⟩ = a.moves s (es.map (.offer now.ticks))
  | [], _, _, _, _, _ => by simp [pushedOf, Account.moves]
  | e :: es, r, s, a, hr, hs => by
    have hs' : (r.publish now e).2.registry.handle? id = some (s.offer now.ticks e) := by
      rw [handle?_publish now e hr, hs]; rfl
    refine Eq.trans ?_ (pushedOf_eq_moves now id es (a.move s (.offer now.ticks e)) (consistent_publish now e hr) hs')
    rw [pushedOf, reached_any_iff_takes hr hs, Account.move]
    cases s.takes now.ticks e <;> simp

/-! ## The other operations -/

theorem create_ok {now : Moment} {connection : Connection} {identity : Identity} {capabilities : Wire.Capabilities}
    {r r' : Router} {s : Session} (h : r.create now connection identity capabilities = .ok (s, r')) :
    r.registry.create now connection identity capabilities = .ok (s, r'.registry) := by
  unfold create at h
  cases hc : r.registry.create now connection identity capabilities with
  | error => rw [hc] at h; cases h
  | ok sr =>
    rw [hc] at h
    cases h
    rfl

theorem destroy_some {id : SessionId} {r r' : Router} {s : Session} (h : r.destroy id = some (s, r')) :
    r.registry.destroy id = some (s, r'.registry) := by
  unfold destroy at h
  obtain ⟨⟨t, registry⟩, ht, h⟩ := Option.bind_eq_some_iff.1 h
  cases h
  exact ht

theorem registry_noteScope (message : String) (id : SessionId) (scope : Scope) (changed : Bool) (r : Router) :
    (r.noteScope message id scope changed).registry = r.registry := by
  unfold noteScope; split <;> rfl

theorem subscribe_ok {id : SessionId} {scope : Scope} {kinds : EventKinds} {r r' : Router} {changed : Bool}
    (h : r.subscribe id scope kinds = .ok (changed, r')) :
    r.registry.subscribe id scope kinds = .ok (changed, r'.registry) := by
  unfold subscribe at h
  cases hc : r.registry.subscribe id scope kinds with
  | error => rw [hc] at h; cases h
  | ok sr =>
    rw [hc] at h
    cases h
    rw [registry_noteScope]

theorem unsubscribe_ok {id : SessionId} {scope : Scope} {r r' : Router} {changed : Bool}
    (h : r.unsubscribe id scope = .ok (changed, r')) :
    r.registry.unsubscribe id scope = .ok (changed, r'.registry) := by
  unfold unsubscribe at h
  cases hc : r.registry.unsubscribe id scope with
  | error => rw [hc] at h; cases h
  | ok sr =>
    rw [hc] at h
    cases h
    rw [registry_noteScope]

theorem handle?_subscribe {i : SessionId} {scope : Scope} {kinds : EventKinds} {r r' : Router} {changed : Bool}
    (h : r.subscribe i scope kinds = .ok (changed, r')) (id : SessionId) : r'.registry.handle? id =
      if id = i then (r.registry.handle? id).map (·.move (.subscribe scope kinds)) else r.registry.handle? id := by
  obtain ⟨s, hs, hr'⟩ := Registry.subscribe_ok (subscribe_ok h)
  rw [hr', Registry.handle?, getElem?_insert_eq]
  split
  · rename_i hid
    rw [hid, Registry.handle?_of_session? hs]; rfl
  · rfl

theorem handle?_unsubscribe {i : SessionId} {scope : Scope} {r r' : Router} {changed : Bool}
    (h : r.unsubscribe i scope = .ok (changed, r')) (id : SessionId) : r'.registry.handle? id =
      if id = i then (r.registry.handle? id).map (·.move (.unsubscribe scope)) else r.registry.handle? id := by
  obtain ⟨s, hs, ⟨hscope, hr'⟩ | ⟨hscope, hr'⟩⟩ := Registry.unsubscribe_ok (unsubscribe_ok h)
  · rw [hr']
    split
    · rename_i hid
      rw [hid, Registry.handle?_of_session? hs, Option.map_some, Session.move, if_neg]
      rwa [Std.ExtTreeMap.contains_iff_mem]
    · rfl
  · rw [hr', Registry.handle?, getElem?_insert_eq]
    split
    · rename_i hid
      rw [hid, Registry.handle?_of_session? hs, Option.map_some, Session.move, if_pos]
      · rfl
      · rwa [Std.ExtTreeMap.contains_iff_mem]
    · rfl

theorem handle?_pushed {r : Registry} (hr : r.Consistent) (i : SessionId) (now : Nat) (p : Wire.Payload)
    (id : SessionId) : (r.changed i (·.push now p)).handle? id =
      if id = i then (r.handle? id).map (·.move (.push now p)) else r.handle? id :=
  Registry.handle?_changed hr (fun s => s.sameStanding_push _ _) id

theorem handle?_enqueue {r : Router} (hr : r.registry.Consistent) (now : Moment) (i : SessionId) (p : Wire.Payload)
    (id : SessionId) : (r.enqueue now i p).2.registry.handle? id =
      if id = i then (r.registry.handle? id).map (·.move (.push now.ticks p)) else r.registry.handle? id := by
  rw [registry_enqueue]
  exact handle?_pushed hr i now.ticks p id

theorem handle?_reply {r : Router} (hr : r.registry.Consistent) (now : Moment) (i : SessionId) (p : Wire.Payload)
    (id : SessionId) : (r.reply now i p).2.registry.handle? id =
      if id = i then (r.registry.handle? id).map (·.move (.push now.ticks p)) else r.registry.handle? id := by
  rw [registry_reply]
  exact handle?_pushed hr i now.ticks p id

theorem handle?_closeWith {r : Router} (hr : r.registry.Consistent) (i : SessionId) (code : CloseCode)
    (id : SessionId) : (r.closeWith i code).2.registry.handle? id =
      if id = i then (r.registry.handle? id).map (·.move (.close code)) else r.registry.handle? id := by
  rw [registry_closeWith]
  exact Registry.handle?_changed hr (fun s => s.sameStanding_closeWith _) id

theorem handle?_nextOutgoing {r : Router} (hr : r.registry.Consistent) (i : SessionId) (id : SessionId) :
    (r.nextOutgoing i).2.registry.handle? id =
      if id = i then (r.registry.handle? id).map (·.move .drain) else r.registry.handle? id := by
  rw [registry_nextOutgoing]
  exact Registry.handle?_changed hr (fun s => s.sameStanding_nextOutgoing) id

end Router
end EventGateway
