import EventGateway.Proofs.Run
import EventGateway.Proofs.ScopeText
/-!
# Acknowledgements — no event on the wrong side of one

The stream of a session is what it was handed and what is still queued.  In it every event follows an acknowledgement
of one of its scopes that lets it through and that no other one has taken back (`Bracketed`).  While the queue is open,
the subscriptions of the session are what the last acknowledgements in the stream say; an acknowledgement that is
refused closes the queue, and then no event follows.
-/
namespace EventGateway

open Wire (Payload Envelope)

/-- The text of the scope that a payload acknowledges a change to. -/
def Wire.Payload.acknowledged? : Payload → Option String
  | .subscribed text _ | .unsubscribed text => some text
  | _ => none

/-- The last acknowledgement of a scope among some payloads. -/
def lastAck (scope : Scope) (ps : List Payload) : Option Payload :=
  (ps.filter (·.acknowledged? == some scope.text)).getLast?

theorem lastAck_append (scope : Scope) (xs ys : List Payload) :
    lastAck scope (xs ++ ys) = (lastAck scope ys).or (lastAck scope xs) := by
  rw [lastAck, List.filter_append, List.getLast?_append]; rfl

theorem lastAck_concat_of_acknowledged {scope : Scope} {p : Payload} (h : p.acknowledged? = some scope.text)
    (ps : List Payload) : lastAck scope (ps ++ [p]) = some p := by
  rw [lastAck_append]
  simp [lastAck, h]

theorem lastAck_concat_of_ne {scope : Scope} {p : Payload} (h : p.acknowledged? ≠ some scope.text)
    (ps : List Payload) : lastAck scope (ps ++ [p]) = lastAck scope ps := by
  rw [lastAck_append]
  simp [lastAck, h]

/-- A payload that acknowledges nothing makes no difference. -/
theorem lastAck_insert {p : Payload} (hp : p.acknowledged? = none) (scope : Scope) (xs ys : List Payload) :
    lastAck scope (xs ++ p :: ys) = lastAck scope (xs ++ ys) := by
  simp [lastAck, hp]

theorem acknowledged?_of_isSequenced {p : Payload} (h : p.isSequenced = true) : p.acknowledged? = none := by
  cases p <;> first | rfl | cases h

/-- Whether an event may stand after some payloads: it was pushed, and the last acknowledgement of one of its scopes
there lets it through. -/
def Admitted (pushed : List Event) (before : List Payload) (p : Payload) : Prop :=
  ∃ e ∈ pushed, e.payload = p ∧ ∃ scope ∈ e.scopes, ∃ kinds : EventKinds,
    lastAck scope before = some (.subscribed scope.text kinds.bits) ∧ kinds.admits e.kind = true

/-- **Each event among some payloads may stand where it stands**, after the ones before it. -/
def Bracketed (pushed : List Event) : List Payload → List Payload → Prop
  | _, [] => True
  | before, p :: ps => (p.isEvent = true → Admitted pushed before p) ∧ Bracketed pushed (before ++ [p]) ps

theorem bracketed_append (pushed : List Event) : ∀ (before xs ys : List Payload),
    Bracketed pushed before (xs ++ ys) ↔ Bracketed pushed before xs ∧ Bracketed pushed (before ++ xs) ys
  | before, [], ys => by simp [Bracketed]
  | before, x :: xs, ys => by
    rw [List.cons_append, Bracketed, Bracketed, bracketed_append pushed _ xs ys, and_assoc, List.append_assoc]
    rfl

/-- Only the acknowledgements before an event matter to it. -/
theorem bracketed_congr (pushed : List Event) : ∀ (ps : List Payload) {before before' : List Payload},
    (∀ scope, lastAck scope before = lastAck scope before') →
      (Bracketed pushed before ps ↔ Bracketed pushed before' ps)
  | [], _, _, _ => Iff.rfl
  | p :: ps, before, before', h => by
    have hnext : ∀ scope, lastAck scope (before ++ [p]) = lastAck scope (before' ++ [p]) := fun scope => by
      rw [lastAck_append, lastAck_append, h]
    rw [Bracketed, Bracketed, bracketed_congr pushed ps hnext]
    simp only [Admitted, h]

theorem Bracketed.mono {pushed pushed' : List Event} (hsub : pushed ⊆ pushed') : ∀ (ps : List Payload)
    {before : List Payload}, Bracketed pushed before ps → Bracketed pushed' before ps
  | [], _, _ => trivial
  | p :: ps, _, ⟨hp, hps⟩ => by
    refine ⟨fun hevent => ?_, Bracketed.mono hsub ps hps⟩
    obtain ⟨e, he, hrest⟩ := hp hevent
    exact ⟨e, hsub he, hrest⟩

/-- A payload that acknowledges nothing may be taken out of the stream. -/
theorem Bracketed.erase {pushed : List Event} {xs ys : List Payload} {p : Payload} (hp : p.acknowledged? = none)
    (h : Bracketed pushed [] (xs ++ p :: ys)) : Bracketed pushed [] (xs ++ ys) := by
  obtain ⟨hxs, -, hys⟩ := (bracketed_append pushed [] xs (p :: ys)).1 h
  refine (bracketed_append pushed [] xs ys).2 ⟨hxs, (bracketed_congr pushed ys fun scope => ?_).1 hys⟩
  exact lastAck_concat_of_ne (by rw [hp]; simp) _

/-- One that is no event, besides, may be put in. -/
theorem Bracketed.insert {pushed : List Event} {xs ys : List Payload} {p : Payload} (hp : p.acknowledged? = none)
    (hevent : p.isEvent = false) (h : Bracketed pushed [] (xs ++ ys)) : Bracketed pushed [] (xs ++ p :: ys) := by
  obtain ⟨hxs, hys⟩ := (bracketed_append pushed [] xs ys).1 h
  refine (bracketed_append pushed [] xs (p :: ys)).2 ⟨hxs, fun he => ?_, ?_⟩
  · rw [hevent] at he; cases he
  · refine (bracketed_congr pushed ys fun scope => ?_).2 hys
    exact lastAck_concat_of_ne (by rw [hp]; simp) _

/-- A dispatch that gives way to another one acknowledges nothing. -/
theorem evict_stream (xs ys zs : List Payload) :
    (∀ pushed, Bracketed pushed [] (xs ++ (ys ++ zs)) → Bracketed pushed [] (xs ++ (ys.eraseP (·.isSequenced) ++ zs))) ∧
      ∀ scope, lastAck scope (xs ++ (ys.eraseP (·.isSequenced) ++ zs)) = lastAck scope (xs ++ (ys ++ zs)) := by
  rcases List.exists_or_eq_self_of_eraseP (·.isSequenced) ys with hsame | ⟨old, before, after, -, hold, hys, herase⟩
  · rw [hsame]
    exact ⟨fun _ h => h, fun _ => rfl⟩
  · have hnone : old.acknowledged? = none := acknowledged?_of_isSequenced hold
    have hwith : xs ++ (before ++ old :: after ++ zs) = xs ++ before ++ old :: (after ++ zs) := by simp
    have hwithout : xs ++ (before ++ after ++ zs) = xs ++ before ++ (after ++ zs) := by simp
    rw [herase, hys, hwith, hwithout]
    exact ⟨fun pushed h => h.erase hnone, fun scope => (lastAck_insert hnone scope _ _).symm⟩

/-- What stands at the end of a stream may be anything that may stand there. -/
theorem Bracketed.concat {pushed : List Event} {xs : List Payload} {p : Payload} (h : Bracketed pushed [] xs)
    (hp : p.isEvent = true → Admitted pushed xs p) : Bracketed pushed [] (xs ++ [p]) :=
  (bracketed_append pushed [] xs [p]).2 ⟨h, hp, trivial⟩

/-! ## One session -/

/-- What a session was handed, and what is still queued. -/
def Account.stream (a : Account) (q : Queue) : List Payload := a.delivered ++ q.items

/-- **While the queue is open, the stream tells the client what it is subscribed to**, and no event in it is without an
acknowledgement. -/
structure Acknowledged (a : Account) (s : Session) : Prop where
  bracketed : Bracketed a.pushed [] (a.stream s.queue)
  current : s.queue.isClosing = false → ∀ scope kinds, s.subscriptions[scope]? = some kinds →
    lastAck scope (a.stream s.queue) = some (.subscribed scope.text kinds.bits)

namespace Acknowledged

variable {a : Account} {s : Session}

/-- A control reply is pushed, perhaps after a change of the subscriptions that it acknowledges. -/
theorem control (h : Acknowledged a s) (now : Nat) {p : Payload} (hp : p.isSequenced = false)
    {subscriptions : Subscriptions} (hsubscriptions : ∀ (scope : Scope) (kinds : EventKinds),
      subscriptions[scope]? = some kinds → p = .subscribed scope.text kinds.bits ∨
        (p.acknowledged? ≠ some scope.text ∧ s.subscriptions[scope]? = some kinds)) :
    Acknowledged a (({ s with subscriptions } : Session).push now p).2 := by
  have hdispatch : ∀ {P : Prop}, p.isSequenced = true → P := fun h => by rw [hp] at h; cases h
  have hclosed : ∀ {P : Prop} {q : Queue}, q.isClosing = true → q.isClosing = false → P := fun h h' => by
    rw [h] at h'; cases h'
  show Acknowledged a { s with subscriptions, queue := (s.queue.push now p).2 }
  generalize hr : s.queue.push now p = r
  have hpushed : Queue.Pushed now p s.queue r := hr ▸ Queue.pushed now p s.queue
  cases hpushed with
  | closing hclosing => exact ⟨h.bracketed, hclosed hclosing⟩
  | control hopen =>
    have hstream : ∀ (controls : Nat), a.stream { s.queue with items := s.queue.items ++ [p], controls } =
        a.stream s.queue ++ [p] := fun _ => (List.append_assoc ..).symm
    refine ⟨?_, fun _ scope kinds hscope => ?_⟩
    · show Bracketed a.pushed [] (a.stream _)
      rw [hstream]
      refine h.bracketed.concat fun hevent => ?_
      rw [Payload.isEvent_eq_false_of_isCritical (Payload.isCritical_of_isSequenced_eq_false hp)] at hevent
      cases hevent
    · show lastAck scope (a.stream _) = _
      rw [hstream]
      rcases hsubscriptions scope kinds hscope with rfl | ⟨hother, hbefore⟩
      · exact lastAck_concat_of_acknowledged rfl _
      · rw [lastAck_concat_of_ne hother]
        exact h.current hopen scope kinds hbefore
  | controlRefused => exact ⟨h.bracketed, hclosed rfl⟩
  | dispatch _ h => exact hdispatch h
  | evicting _ _ _ h => exact hdispatch h
  | dispatchRefused _ _ h => exact hdispatch h

/-- A control reply that acknowledges nothing. -/
theorem push (h : Acknowledged a s) (now : Nat) {p : Payload} (hp : p.isSequenced = false)
    (hnone : p.acknowledged? = none) : Acknowledged a (s.push now p).2 :=
  h.control now hp fun _ _ hscope => .inr ⟨by rw [hnone]; simp, hscope⟩

theorem subscribe (h : Acknowledged a s) (now : Nat) (scope : Scope) (kinds : EventKinds) :
    Acknowledged a ((s.move (.subscribe scope kinds)).move (.push now (.subscribed scope.text kinds.bits))) := by
  refine h.control now rfl fun scope' kinds' hscope' => ?_
  rw [getElem?_insert_eq] at hscope'
  by_cases he : scope' = scope
  · rw [if_pos he] at hscope'
    rw [he, Option.some.inj hscope']
    exact .inl rfl
  · rw [if_neg he] at hscope'
    exact .inr ⟨fun ht => he (Scope.text_injective (Option.some.inj ht)).symm, hscope'⟩

theorem unsubscribe (h : Acknowledged a s) (now : Nat) (scope : Scope) :
    Acknowledged a ((s.move (.unsubscribe scope)).move (.push now (.unsubscribed scope.text))) := by
  have hother : ∀ {scope' : Scope}, scope' ≠ scope →
      (Payload.unsubscribed scope.text).acknowledged? ≠ some scope'.text :=
    fun he ht => he (Scope.text_injective (Option.some.inj ht)).symm
  simp only [Session.move]
  split
  · refine h.control now rfl fun scope' kinds' hscope' => ?_
    rw [getElem?_erase_eq] at hscope'
    by_cases he : scope' = scope
    · rw [if_pos he] at hscope'
      cases hscope'
    · rw [if_neg he] at hscope'
      exact .inr ⟨hother he, hscope'⟩
  · rename_i hscope
    refine h.control now rfl fun scope' kinds' hscope' => .inr ⟨hother fun he => hscope ?_, hscope'⟩
    rw [Std.ExtTreeMap.contains_eq_isSome_getElem?, ← he, hscope']
    rfl

/-- An event that is wanted is admitted by an acknowledgement, for the queue is open. -/
theorem admitted (h : Acknowledged a s) (hopen : s.queue.isClosing = false) {e : Event} (hw : s.wants e = true) :
    Admitted (a.pushed ++ [e]) (a.stream s.queue) e.payload := by
  obtain ⟨-, -, scope, hscope, kinds, hkinds, hadmits⟩ := s.wants_iff.1 hw
  exact ⟨e, by simp, rfl, scope, hscope, kinds, h.current hopen scope kinds hkinds, hadmits⟩

/-- **An event that is offered comes after its acknowledgement**, and an event that gives way to it acknowledges
nothing. -/
theorem offer (h : Acknowledged a s) (now : Nat) (e : Event) :
    Acknowledged (a.move s (.offer now e)) (s.move (.offer now e)) := by
  by_cases hw : s.wants e = true
  case neg =>
    obtain ⟨haccount, hsession⟩ := a.move_offer_of_not_wants now hw
    rw [haccount, hsession]
    exact h
  obtain ⟨haccount, hsession⟩ := a.move_offer_of_wants now hw
  rw [haccount, hsession]
  generalize hr : s.queue.push now e.payload = r
  have hpushed : Queue.Pushed now e.payload s.queue r := hr ▸ Queue.pushed now e.payload s.queue
  have hcontrol : ∀ {P : Prop}, e.payload.isSequenced = false → P := fun h => by
    rw [isSequenced_payload] at h; cases h
  have hnone : e.payload.acknowledged? = none := acknowledged?_of_isSequenced (isSequenced_payload e)
  have hlonger : Bracketed (a.pushed ++ [e]) [] (a.stream s.queue) :=
    h.bracketed.mono (List.subset_append_left _ _)
  have hstream : a.delivered ++ (s.queue.items ++ [e.payload]) = a.stream s.queue ++ [e.payload] :=
    (List.append_assoc ..).symm
  have hadmitted : s.queue.isClosing = false →
      Bracketed (a.pushed ++ [e]) [] (a.delivered ++ (s.queue.items ++ [e.payload])) := fun hopen => by
    rw [hstream]
    exact hlonger.concat fun _ => h.admitted hopen hw
  have hcurrent : s.queue.isClosing = false → ∀ scope kinds, s.subscriptions[scope]? = some kinds →
      lastAck scope (a.delivered ++ (s.queue.items ++ [e.payload])) =
        some (.subscribed scope.text kinds.bits) := fun hopen scope kinds hscope => by
    rw [hstream, lastAck_insert hnone, List.append_nil]
    exact h.current hopen scope kinds hscope
  cases hpushed with
  | closing => exact h
  | control _ hc => exact hcontrol hc
  | controlRefused _ hc => exact hcontrol hc
  | dispatch hopen => exact ⟨hadmitted hopen, fun _ => hcurrent hopen⟩
  | evicting threshold window hopen =>
    obtain ⟨hbracketed, hlast⟩ := evict_stream a.delivered s.queue.items [e.payload]
    exact ⟨hbracketed _ (hadmitted hopen), fun _ scope kinds hscope =>
      (hlast scope).trans (hcurrent hopen scope kinds hscope)⟩
  | dispatchRefused overflows hopen => exact ⟨hlonger, fun hc => by cases hc⟩

theorem close (h : Acknowledged a s) (code : CloseCode) : Acknowledged a (s.closeWith code).2 := by
  show Acknowledged a { s with queue := (s.queue.closeWith code).2 }
  unfold Queue.closeWith
  split
  · exact h
  · exact ⟨h.bracketed, fun hc => by cases hc⟩

/-- A drain puts a notice into the stream, perhaps, or cuts off what is queued. -/
theorem drain (h : Acknowledged a s) : Acknowledged (a.move s .drain) (s.move .drain) := by
  have hsubscriptions : s.nextOutgoing.2.subscriptions = s.subscriptions := s.sameStanding_nextOutgoing.subscriptions_eq
  have hclosing : s.nextOutgoing.2.queue.isClosing = s.queue.isClosing := by
    rw [s.nextOutgoing_queue, Queue.drain_isClosing]
  have hstream : (a.move s .drain).stream s.nextOutgoing.2.queue = a.delivered ++
      if s.queue.shut then [] else Session.announced ⟨s.queue.missed, s.queue.items, none, false⟩ := by
    rw [Account.stream, s.nextOutgoing_queue, s.queue.drain_empties.1, List.append_nil, Account.delivered, Account.move,
      List.map_append, s.nextOutgoing_payloads]; rfl
  have hkept : Bracketed a.pushed [] ((a.move s .drain).stream s.nextOutgoing.2.queue) ∧
      (s.queue.isClosing = false → ∀ scope, lastAck scope ((a.move s .drain).stream s.nextOutgoing.2.queue) =
        lastAck scope (a.stream s.queue)) := by
    rw [hstream]
    split
    · rename_i hshut
      rw [List.append_nil]
      refine ⟨((bracketed_append _ _ _ _).1 h.bracketed).1, fun hopen => ?_⟩
      simp [Queue.isClosing, hshut] at hopen
    · unfold Session.announced
      split
      · exact ⟨h.bracketed.insert rfl rfl, fun _ scope => lastAck_insert rfl scope _ _⟩
      · exact ⟨h.bracketed, fun _ _ => rfl⟩
  refine ⟨hkept.1, fun hopen scope kinds hscope => ?_⟩
  have hopen : s.queue.isClosing = false := hclosing.symm.trans hopen
  rw [show (s.move .drain).subscriptions = s.subscriptions from hsubscriptions] at hscope
  exact (hkept.2 hopen scope).trans (h.current hopen scope kinds hscope)

/-- A session that is gone has nothing queued, and gets nothing more. -/
theorem retire (h : Acknowledged a s) : Acknowledged a (Registry.retire s) := by
  have hstream : a.stream (Registry.retire s).queue = a.delivered := List.append_nil _
  have hclosing : (Registry.retire s).queue.isClosing = true := by simp [Registry.retire, Session.shutdown,
    Queue.shutdown, Queue.isClosing]
  refine ⟨?_, fun hopen => ?_⟩
  · rw [hstream]
    exact ((bracketed_append _ _ _ _).1 h.bracketed).1
  · rw [hopen] at hclosing; cases hclosing

theorem offers (now : Nat) : ∀ (es : List Event) {a : Account} {s : Session}, Acknowledged a s →
    Acknowledged (a.moves s (es.map (.offer now))) ((es.map (.offer now)).foldl Session.move s)
  | [], _, _, h => h
  | e :: es, _, _, h => offers now es (h.offer now e)

end Acknowledged

theorem acknowledged_new (now : Moment) (id : SessionId) (connection : Connection) (identity : Identity)
    (capabilities : Wire.Capabilities) (queue : QueueConfig) :
    Acknowledged .empty (.new now id connection identity capabilities queue) := by
  refine ⟨trivial, fun _ scope kinds hscope => ?_⟩
  rw [show (Session.new now id connection identity capabilities queue).subscriptions[scope]? = none from
    Std.ExtTreeMap.getElem?_empty] at hscope
  cases hscope

namespace Router

/-- Whether a step leaves the subscriptions of a session, and their acknowledgements, to its commands. -/
def Step.leavesToCommands (id : SessionId) : Step → Bool
  | .subscribe i _ _ | .unsubscribe i _ => i != id
  | .enqueue _ i p | .reply _ i p => i != id || (p.isCritical && p.acknowledged? == none)
  | _ => true

theorem Step.Moves.acknowledged {id : SessionId} {x : Step} {ms : List Session.Move} (hms : x.Moves id ms)
    (hx : x.leavesToCommands id = true) {a : Account} {s : Session} (h : Acknowledged a s) :
    Acknowledged (a.moves s ms) (ms.foldl Session.move s) := by
  have hcontrol : ∀ {p : Payload}, (id != id || (p.isCritical && p.acknowledged? == none)) = true →
      p.isSequenced = false ∧ p.acknowledged? = none := fun hp => by simpa [Payload.isCritical] using hp
  cases hms with
  | untouched => exact h
  | destroy => exact h.retire
  | subscribe => simp [Step.leavesToCommands] at hx
  | unsubscribe => simp [Step.leavesToCommands] at hx
  | publish now e => exact h.offer now.ticks e
  | enqueue now p => exact h.push now.ticks (hcontrol hx).1 (hcontrol hx).2
  | reply now p => exact h.push now.ticks (hcontrol hx).1 (hcontrol hx).2
  | close code => exact h.close code
  | drain => exact h.drain
  | failed handler now command e => exact h.push now.ticks rfl rfl
  | subscribed handler now scope kinds => exact h.subscribe now.ticks scope kinds
  | unsubscribed handler now scope => exact h.unsubscribe now.ticks scope
  | heartbeat handler now lastSeq => exact h.push now.ticks rfl rfl
  | acted handler now i action events => exact Acknowledged.offers now.ticks events h

/-- **Acknowledgements bracket delivery.**  Where only its commands change the subscriptions of a session, before every
event that it is handed stands an acknowledgement of one of the event's scopes that lets the event through, and no
later one for that scope. -/
theorem events_follow_acknowledgements (ids : Generator) (queue : QueueConfig) (id : SessionId) (steps : List Step)
    (hsteps : ∀ x ∈ steps, x.leavesToCommands id = true) (s : Session)
    (hs : ((new ids queue).run steps).registry.handle? id = some s) :
    let a := account id steps (new ids queue) .empty
    ∀ before d after, a.sent = before ++ d :: after → d.payload.isEvent = true →
      ∃ e ∈ a.pushed, e.payload = d.payload ∧ ∃ scope ∈ e.scopes, ∃ kinds : EventKinds,
        lastAck scope (before.map (·.payload)) = some (.subscribed scope.text kinds.bits) ∧
          kinds.admits e.kind = true := by
  intro a before d after hsent hevent
  have h : Acknowledged a s := by
    refine run_invariant (P := Acknowledged) ?_ steps (Registry.consistent_new _ _) rfl ?_ ?_ s hs
    · exact fun now connection identity capabilities => acknowledged_new now id connection identity capabilities queue
    · exact fun x hx ms hms a s h => hms.acknowledged (hsteps x hx) h
    · exact fun s hnone => by cases hnone
  have hbracketed := h.bracketed
  rw [Account.stream, Account.delivered, hsent, List.map_append, List.map_cons, List.append_assoc,
    bracketed_append] at hbracketed
  exact hbracketed.2.1 hevent

/-- A filter is replaced, and the event that was let through by the first one gives way to one that is let through by
the second: the acknowledgements of both stand before it. -/
theorem events_follow_acknowledgements_replaced :
    let handler := LocalChannels.handler ⟨[]⟩
    let deleted (n : Nat) := Step.publish ⟨0, 0⟩ (.messageDeleted ⟨5⟩ (.ofNat n))
    let steps := [.create ⟨0, 0⟩ ⟨1, .json, ⟨2, 0⟩⟩ ⟨⟨7⟩, "agent"⟩ .all,
      .submit handler ⟨0, 0⟩ ⟨4097⟩ (.subscribe (.channel ⟨5⟩) .all), deleted 1,
      .submit handler ⟨0, 0⟩ ⟨4097⟩ (.subscribe (.channel ⟨5⟩) .messages), deleted 2, .drain ⟨4097⟩]
    let start := new ⟨1, 0, 0⟩ ⟨1, 2, .dropOldest 9 1000⟩
    let a := account ⟨4097⟩ steps start .empty
    let before := [⟨1, .eventsMissed 1⟩, ⟨0, .subscribed "channel:5" 31⟩, ⟨0, .subscribed "channel:5" 7⟩]
    let d := ⟨2, .messageDeleted 5 2⟩
    (∀ x ∈ steps, x.leavesToCommands ⟨4097⟩ = true) ∧ a.sent = before ++ [d] ∧
      ∃ e ∈ a.pushed, e.payload = d.payload ∧ ∃ scope ∈ e.scopes, ∃ kinds : EventKinds,
        lastAck scope (before.map (·.payload)) = some (.subscribed scope.text kinds.bits) ∧
          kinds.admits e.kind = true := by
  intro handler deleted steps start a before d
  have hsteps : ∀ x ∈ steps, x.leavesToCommands ⟨4097⟩ = true := by decide
  have hsome : ((start.run steps).registry.handle? ⟨4097⟩).isSome = true := by decide +kernel
  have hsent : a.sent = before ++ [d] := by decide +kernel
  obtain ⟨s, hs⟩ := Option.isSome_iff_exists.1 hsome
  exact ⟨hsteps, hsent,
    events_follow_acknowledgements ⟨1, 0, 0⟩ ⟨1, 2, .dropOldest 9 1000⟩ ⟨4097⟩ steps hsteps s hs before d [] hsent rfl⟩

end Router
end EventGateway
