import EventGateway.Proofs.Batches
import EventGateway.Proofs.Reports
import EventGateway.Proofs.Resubscription
import EventGateway.Proofs.Steps
/-!
# Replies — commands are answered one to one, and in order

What is due to a client for a frame can be told from the frame and from how its command has ended (`Exchange.reply?`).
Replies are queued among events that may give way, and are handed over in batches; but whatever gives way is no reply,
and a batch takes all that is queued.  So the replies in the stream of a session are the ones that are due, as long as
its frames find room for them: `Due` says so, each move keeps it, and a frame adds its own reply at the end.
-/
namespace EventGateway

open Wire (Payload Envelope)

/-- A notice of losses is no reply. -/
theorem repliesOf_announced (b : Batch) : repliesOf (Session.announced b) = repliesOf b.items := by
  rw [Session.announced, repliesOf_append]
  split <;> rfl

/-! ## What is due for a frame -/

namespace Router

/-- A frame of a session, how its command has ended, and the sequence number that the session had reached before. -/
structure Exchange extends Handled where
  sequence : UInt64

namespace Exchange

/-- Whether the client is told nothing: the business of others has been done. -/
def isSilent (x : Exchange) : Bool :=
  x.answer.isOk && match x.payload with
    | .sendMessage .. | .startTyping .. | .updatePresence .. => true
    | _ => false

/-- **The reply to a frame.**  A failure is told under the name of its command, and a subscription with the text of the
scope and the bits of the filter, whatever the words and the bits of the client are. -/
def reply? (x : Exchange) : Option Payload :=
  match x.answer with
  | .error e => some (.error e.code e.message x.payload.name)
  | .ok () =>
    match x.payload with
    | .subscribe text events =>
      (Scope.parse text).toOption.map fun scope => .subscribed scope.text (EventKinds.ofFilterBits events).bits
    | .unsubscribe text => (Scope.parse text).toOption.map fun scope => .unsubscribed scope.text
    | .heartbeat _ => some (.heartbeatAck x.sequence)
    | _ => none

/-- The replies to some frames, but for those that are met with silence. -/
def replies (log : List Exchange) : List (Option Payload) := (log.filter (!·.isSilent)).map (·.reply?)

theorem replies_append (log log' : List Exchange) : replies (log ++ log') = replies log ++ replies log' := by
  rw [replies, List.filter_append, List.map_append]
  rfl

end Exchange

end Router

open Router (Exchange Handled)

/-! ## One session -/

/-- Whether a move leaves the control replies of a session alone. -/
def Session.Move.leavesReplies : Session.Move → Bool
  | .push _ p => p.isSequenced
  | .heartbeat _ | .retire => false
  | _ => true

theorem Session.queue_unsubscribe (s : Session) (scope : Scope) : (s.move (.unsubscribe scope)).queue = s.queue := by
  simp only [move]
  split <;> rfl

/-- **The control replies in the stream of a session**, handed over or still queued, are the ones that are due. -/
structure Due (due : List (Option Payload)) (sent : List Envelope) (s : Session) : Prop where
  shut : s.queue.shut = false
  stream : (repliesOf (sent.map (·.payload) ++ s.queue.items)).map some = due

namespace Due

variable {due : List (Option Payload)} {sent : List Envelope} {s : Session}

/-- The same queue, or one with the same control replies. -/
theorem of_queue (h : Due due sent s) (s' : Session) (hshut : s'.queue.shut = s.queue.shut)
    (hitems : repliesOf s'.queue.items = repliesOf s.queue.items) : Due due sent s' := by
  refine ⟨hshut.trans h.shut, ?_⟩
  rw [repliesOf_append, hitems, ← repliesOf_append]
  exact h.stream

/-- **A dispatch never takes the place of a reply.** -/
theorem push (h : Due due sent s) (now : Nat) {p : Payload} (hp : p.isSequenced = true) :
    Due due sent (s.push now p).2 := by
  have hitems := s.queue.repliesOf_push now p
  rw [hp, Bool.not_true, Bool.and_false, if_neg Bool.false_ne_true, List.append_nil] at hitems
  exact h.of_queue (s.push now p).2 (s.queue.push_same now p).2.2 hitems

/-- **A reply that finds room stands last.** -/
theorem reply (h : Due due sent s) (hroom : s.queue.takesReplies = true) (now : Nat) {p : Payload}
    (hp : p.isSequenced = false) : Due (due ++ [some p]) sent (s.push now p).2 := by
  rw [Session.push_of_takesReplies hroom (Payload.isCritical_of_isSequenced_eq_false hp)]
  refine ⟨h.shut, ?_⟩
  show (repliesOf (sent.map (·.payload) ++ (s.queue.items ++ [p]))).map some = _
  rw [← List.append_assoc, repliesOf_append, List.map_append, h.stream, repliesOf_cons_of_control hp]
  rfl

theorem subscribe (h : Due due sent s) (scope : Scope) (kinds : EventKinds) :
    Due due sent (s.move (.subscribe scope kinds)) :=
  h.of_queue _ rfl rfl

theorem unsubscribe (h : Due due sent s) (scope : Scope) : Due due sent (s.move (.unsubscribe scope)) := by
  have hqueue := s.queue_unsubscribe scope
  exact h.of_queue _ (congrArg Queue.shut hqueue) (congrArg (fun q => repliesOf q.items) hqueue)

theorem offer (h : Due due sent s) (now : Nat) (e : Event) : Due due sent (s.move (.offer now e)) := by
  show Due due sent (s.offer now e)
  unfold Session.offer
  split
  · exact h.push now (isSequenced_payload e)
  · exact h

theorem offers : ∀ (ms : List Session.Move) {s : Session}, Due due sent s → (∀ m ∈ ms, m.isOffer = true) →
    Due due sent (ms.foldl Session.move s)
  | [], _, h, _ => h
  | m :: ms, s, h, hms => by
    have hm := hms m List.mem_cons_self
    refine offers ms (s := s.move m) ?_ fun m' hm' => hms m' (List.mem_cons_of_mem _ hm')
    cases m with
    | offer now e => exact h.offer now e
    | _ => cases hm

/-- **A drain hands over all that is queued.** -/
theorem drain (h : Due due sent s) :
    Due due (sent ++ s.nextOutgoing.1.elim [] (·.envelopes)) s.nextOutgoing.2 ∧ s.nextOutgoing.2.queue.items = [] := by
  have hitems : s.nextOutgoing.2.queue.items = [] := by rw [s.nextOutgoing_queue, s.queue.drain_empties.1]
  refine ⟨⟨?_, ?_⟩, hitems⟩
  · rw [s.nextOutgoing_queue, s.queue.drain_shut]
    exact h.shut
  · rw [hitems, List.append_nil, List.map_append, s.nextOutgoing_payloads, if_neg (by simp [h.shut]), repliesOf_append,
      repliesOf_announced, ← repliesOf_append]
    exact h.stream

/-- **Each move keeps what is due**, but for those that reply. -/
theorem move {a : Account} (h : Due due a.sent s) {m : Session.Move} (hm : m.leavesReplies = true) :
    Due due (a.move s m).sent (s.move m) := by
  cases m with
  | offer now e =>
    rw [show (a.move s (.offer now e)).sent = a.sent by rw [Account.move]; split <;> rfl]
    exact h.offer now e
  | push now p => exact h.push now hm
  | close code =>
    obtain ⟨hitems, hshut⟩ := s.queue.closeWith_items code
    exact h.of_queue (s.closeWith code).2 hshut (congrArg repliesOf hitems)
  | drain => exact h.drain.1
  | subscribe scope kinds => exact h.subscribe scope kinds
  | unsubscribe scope => exact h.unsubscribe scope
  | _ => cases hm

theorem moves (ms : List Session.Move) {a : Account} {s : Session} (h : Due due a.sent s)
    (hms : ∀ m ∈ ms, m.leavesReplies = true) : Due due (a.moves s ms).sent (ms.foldl Session.move s) :=
  Account.moves_keep (P := fun a s => Due due a.sent s) (fun hm h => h.move hm) ms hms h

/-- **A frame that finds room adds its reply**, and a silent one adds nothing. -/
theorem handled (h : Due due sent s) (hroom : s.queue.takesReplies = true) {now : Moment} {x : Handled}
    {ms : List Session.Move} (hms : x.Moves now ms) :
    Due (due ++ Exchange.replies [⟨x, s.sequence⟩]) sent (ms.foldl Session.move s) := by
  cases hms with
  | failed p e => exact h.reply hroom now.ticks rfl
  | done p command hp hcommand =>
    cases Command.made_of_ofPayload hp with
    | subscribe text events scope hparse =>
      have hreply : Exchange.replies [⟨⟨.subscribe text events, .ok ()⟩, s.sequence⟩] =
          [some (.subscribed scope.text (EventKinds.ofFilterBits events).bits)] := by
        simp [Exchange.replies, Exchange.isSilent, Exchange.reply?, hparse, Except.toOption]
      rw [hreply]
      exact (h.subscribe scope (.ofFilterBits events)).reply hroom now.ticks rfl
    | unsubscribe text scope hparse =>
      have hreply : Exchange.replies [⟨⟨.unsubscribe text, .ok ()⟩, s.sequence⟩] =
          [some (.unsubscribed scope.text)] := by
        simp [Exchange.replies, Exchange.isSilent, Exchange.reply?, hparse, Except.toOption]
      rw [hreply]
      exact (h.unsubscribe scope).reply (by rw [s.queue_unsubscribe]; exact hroom) now.ticks rfl
    | heartbeat lastSeq => exact h.reply hroom now.ticks rfl
    | sendMessage | startTyping | updatePresence => exact absurd rfl (hcommand _)
  | acted p action events hp =>
    have hsilent : Exchange.replies [⟨⟨p, .ok ()⟩, s.sequence⟩] = [] := by
      cases Command.made_of_ofPayload hp <;> rfl
    rw [hsilent, List.append_nil]
    exact h.offers _ (Session.Move.isOffer_offers now.ticks events)

end Due

/-! ## Tasks -/

namespace Router

/-- Whether a step leaves the control replies of a session alone: it neither takes the session away nor replies. -/
def Step.leavesReplies (id : SessionId) : Step → Bool
  | .destroy i | .submit _ _ i _ => i != id
  | .enqueue _ i p | .reply _ i p => i != id || p.isSequenced
  | _ => true

theorem Step.Moves.leavesReplies {id : SessionId} {x : Step} {ms : List Session.Move} (hms : x.Moves id ms)
    (hx : x.leavesReplies id = true) : ∀ m ∈ ms, m.leavesReplies = true := by
  cases hms with
  | acted handler now i action events => exact List.forall_mem_map.2 fun _ _ => rfl
  | enqueue | reply => simpa [Step.leavesReplies, Session.Move.leavesReplies] using hx
  | destroy | failed | subscribed | unsubscribed | heartbeat => simp [Step.leavesReplies] at hx
  | _ => simp [Session.Move.leavesReplies]

/-- **Whether a session is answered whatever the task is**: a frame of its own finds room for the reply, and all else
leaves its replies to its frames. -/
def answers (r : Router) (id : SessionId) : Task → Bool
  | .frame _ _ i _ => i != id || (r.registry.handle? id).any (·.queue.takesReplies)
  | .other x _ => x.leavesReplies id && !r.begins id x

def answersAll (id : SessionId) : List Task → Router → Bool
  | [], _ => true
  | x :: xs, r => r.answers id x && answersAll id xs (r.attend x)

/-- The frames of a session that are handled, with what is needed to tell the replies. -/
def exchanges (r : Router) (id : SessionId) : Task → List Exchange
  | .frame handler now i p =>
    if i = id then (r.registry.handle? id).toList.map fun s => ⟨⟨p, (r.handle handler now i p).1⟩, s.sequence⟩ else []
  | .other .. => []

def exchangesAll (id : SessionId) : List Task → Router → List Exchange
  | [], _ => []
  | x :: xs, r => r.exchanges id x ++ exchangesAll id xs (r.attend x)

/-- The payload of a frame of a session. -/
def Task.payload? (id : SessionId) : Task → Option Payload
  | .frame _ _ i p => if i = id then some p else none
  | .other .. => none

/-- What a task hands to the writer of a session. -/
def sent (r : Router) (id : SessionId) : Task → List Envelope
  | .frame .. => []
  | .other x _ => r.handed id x

def sentAll (id : SessionId) : List Task → Router → List Envelope
  | [], _ => []
  | x :: xs, r => r.sent id x ++ sentAll id xs (r.attend x)

/-- **A task adds to the stream of a session what is due for it.** -/
theorem due_attend {r : Router} (hr : r.registry.Consistent) {id : SessionId} {x : Task} (hx : r.answers id x = true)
    {s : Session} (hs : r.registry.handle? id = some s) {due : List (Option Payload)} {sent : List Envelope}
    (h : Due due sent s) : ∃ s', (r.attend x).registry.handle? id = some s' ∧
      Due (due ++ Exchange.replies (r.exchanges id x)) (sent ++ r.sent id x) s' := by
  cases x with
  | other x hsubmit =>
    obtain ⟨hleaves, hbegins⟩ : x.leavesReplies id = true ∧ r.begins id x = false := by simpa [answers] using hx
    obtain ⟨ms, hms, hundergoes⟩ := step_moves hr x id hbegins
    have haccount := congrArg Account.sent (hundergoes.account ⟨[], sent⟩ s hs)
    refine ⟨_, hundergoes.handle?.trans (by rw [hs]; rfl), ?_⟩
    show Due (due ++ []) (sent ++ r.handed id x) _
    rw [List.append_nil, show sent ++ r.handed id x = _ from haccount]
    exact Due.moves ms (a := ⟨[], sent⟩) h (hms.leavesReplies hleaves)
  | frame handler now i p =>
    show ∃ s', _ ∧ Due _ (sent ++ []) s'
    rw [List.append_nil]
    by_cases hid : i = id
    · subst hid
      have hroom : s.queue.takesReplies = true := by simpa [answers, hs] using hx
      obtain ⟨ms, hhandle, hms⟩ := handle_moves hr handler now hs p
      refine ⟨_, hhandle, ?_⟩
      have hexchange : r.exchanges i (.frame handler now i p) =
          [⟨⟨p, (r.handle handler now i p).1⟩, s.sequence⟩] := by simp [exchanges, hs]
      rw [hexchange]
      exact h.handled hroom hms
    · have hnone : r.exchanges id (.frame handler now i p) = [] := if_neg hid
      rw [hnone]
      show ∃ s', _ ∧ Due (due ++ []) _ s'
      rw [List.append_nil]
      obtain ⟨ms, hhandle, hms⟩ := handle_offers hr handler now (Ne.symm hid) p
      exact ⟨_, hhandle.trans (by rw [hs]; rfl), h.offers ms hms⟩

/-- Every frame of a session that is known is handled. -/
theorem payload_exchanges {r : Router} {id : SessionId} {s : Session} (hs : r.registry.handle? id = some s) (x : Task) :
    (r.exchanges id x).map (·.payload) = (x.payload? id).toList := by
  cases x with
  | other => rfl
  | frame handler now i p =>
    by_cases hid : i = id
    · simp [exchanges, Task.payload?, hid, hs]
    · simp [exchanges, Task.payload?, hid]

theorem due_attendAll {id : SessionId} : ∀ (tasks : List Task) {r : Router} {s : Session} {due : List (Option Payload)}
    {sent : List Envelope}, r.registry.Consistent → answersAll id tasks r = true → r.registry.handle? id = some s →
    Due due sent s → (exchangesAll id tasks r).map (·.payload) = tasks.filterMap (·.payload? id) ∧
      ∃ s', (r.attendAll tasks).registry.handle? id = some s' ∧
        Due (due ++ Exchange.replies (exchangesAll id tasks r)) (sent ++ sentAll id tasks r) s'
  | [], _, s, due, sent, _, _, hs, h =>
    ⟨rfl, s, hs, by rw [exchangesAll, sentAll, List.append_nil]; exact (List.append_nil due).symm ▸ h⟩
  | x :: xs, r, s, _, _, hr, htasks, hs, h => by
    obtain ⟨hx, hxs⟩ := Bool.and_eq_true_iff.1 htasks
    obtain ⟨s₁, hs₁, h₁⟩ := due_attend hr hx hs h
    obtain ⟨hpayloads, s', hs', h'⟩ := due_attendAll xs (consistent_attend hr x) hxs hs₁ h₁
    refine ⟨?_, s', hs', ?_⟩
    · rw [exchangesAll, List.map_append, payload_exchanges hs, hpayloads, List.filterMap_cons]
      cases x.payload? id <;> rfl
    · rw [exchangesAll, sentAll, Exchange.replies_append, ← List.append_assoc, ← List.append_assoc]
      exact h'

/-- A new session has been told that it is ready, and nothing else is due to it. -/
theorem due_created {r r' : Router} (hr : r.registry.Consistent) (hroom : 0 < r.registry.queue.controlCapacity)
    {now : Moment} {connection : Connection} {identity : Identity} {capabilities : Wire.Capabilities} {s : Session}
    (h : r.create now connection identity capabilities = .ok (s, r')) :
    (r'.reply now s.id s.ready).2.registry.Consistent ∧ ∃ s', (r'.reply now s.id s.ready).2.registry.handle? s.id =
      some s' ∧ Due [some s.ready] [] s' := by
  have hcreate := create_ok h
  have hr' : r'.registry.Consistent := hr.create hcreate
  refine ⟨?_, s.move (.push now.ticks s.ready), ?_, ?_⟩
  · rw [registry_reply]
    exact (consistent_pushed hr' ..).1
  · rw [handle?_reply hr', if_pos rfl, Registry.handle?_create hcreate, if_pos rfl]
    rfl
  · obtain ⟨id, ids, rfl, -⟩ := Registry.create_ok hcreate
    have hnew : Due [] [] (.new now id connection identity capabilities r.registry.queue) := ⟨rfl, rfl⟩
    exact hnew.reply (decide_eq_true hroom) now.ticks rfl

/-- **Commands are answered one to one, and in order.**  A session is created, and is told that it is ready; its queue
has room for that, as the settings see to it.  Then come frames of its own, each of which finds room for a reply, among
frames of others, publications, drains and whatever else there is, as long as the session is not destroyed, nothing but
its frames has control replies sent to it, and no other session begins with its id.  Each of its frames is handled.  The
control replies in its stream, handed over or still queued, are the news that it is ready and then one for each frame
that is not met with silence, in the order of the frames; and a drain leaves none of them behind. -/
theorem replies_in_order (ids : Generator) (queue : QueueConfig) (hroom : 0 < queue.controlCapacity)
    (steps : List Step) (now : Moment) (connection : Connection) (identity : Identity)
    (capabilities : Wire.Capabilities) (s₀ : Session) (r₀ : Router)
    (hcreate : ((new ids queue).run steps).create now connection identity capabilities = .ok (s₀, r₀))
    (tasks : List Task) (htasks : answersAll s₀.id tasks (r₀.reply now s₀.id s₀.ready).2 = true) :
    let r := (r₀.reply now s₀.id s₀.ready).2
    let r' := r.attendAll tasks
    let log := exchangesAll s₀.id tasks r
    let sent := sentAll s₀.id tasks r
    let drained := sent ++ r'.handed s₀.id (.drain s₀.id)
    log.map (·.payload) = tasks.filterMap (·.payload? s₀.id) ∧
    (∃ s, r'.registry.handle? s₀.id = some s ∧
      (repliesOf (sent.map (·.payload) ++ s.queue.items)).map some = some s₀.ready :: Exchange.replies log) ∧
    (repliesOf (drained.map (·.payload))).map some = some s₀.ready :: Exchange.replies log := by
  intro r r' log sent drained
  have hnew : (new ids queue).registry.Consistent := Registry.consistent_new ids queue
  obtain ⟨hr, s, hs, hdue⟩ := due_created (consistent_run steps hnew) (by rw [queue_run steps hnew]; exact hroom)
    hcreate
  obtain ⟨hpayloads, s', hs', hdue'⟩ := due_attendAll tasks hr htasks hs hdue
  refine ⟨hpayloads, ⟨s', hs', hdue'.stream⟩, ?_⟩
  obtain ⟨hdrained, hempty⟩ := hdue'.drain
  have hstream := hdrained.stream
  rw [hempty, List.append_nil] at hstream
  have hhanded : r'.handed s₀.id (.drain s₀.id) = s'.nextOutgoing.1.elim [] (·.envelopes) := by
    rw [handed, if_pos rfl, nextOutgoing_fst_of_handle? hs']
  show (repliesOf ((sent ++ r'.handed s₀.id (.drain s₀.id)).map (·.payload))).map some = _
  rw [hhanded]
  exact hstream

/-- The queue has room for one event and two replies: an event gives way, a scope of no known kind is asked for, and
somebody starts typing; four replies follow the news that the session is ready. -/
theorem replies_in_order_evicting :
    let frame (p : Payload) := Task.frame (LocalChannels.handler ⟨[]⟩) ⟨0, 0⟩ ⟨4097⟩ p
    let deleted (n : Nat) := Task.other (.publish ⟨0, 0⟩ (.messageDeleted ⟨5⟩ (.ofNat n))) (by simp)
    let drain := Task.other (.drain ⟨4097⟩) (by simp)
    let tasks := [frame (.subscribe "channel : 05" 0), deleted 1, deleted 2, drain, frame (.heartbeat 7),
      frame (.subscribe "guild:1" 0), drain, frame (.startTyping 5), frame (.unsubscribe " channel:5")]
    let start := (new ⟨1, 0, 0⟩ ⟨1, 2, .dropOldest 9 1000⟩).run []
    let due := [some (.subscribed "channel:5" 31), some (.heartbeatAck 2),
      some (.error "INVALID_SCOPE" "Invalid scope: unknown scope kind `guild`" "subscribe"),
      some (Payload.unsubscribed "channel:5")]
    ∃ s₀ r₀, start.create ⟨0, 0⟩ ⟨1, .json, ⟨2, 0⟩⟩ ⟨⟨7⟩, "t"⟩ .all = .ok (s₀, r₀) ∧ s₀.id = ⟨4097⟩ ∧
      let r := (r₀.reply ⟨0, 0⟩ s₀.id s₀.ready).2
      let drained := sentAll s₀.id tasks r ++ (r.attendAll tasks).handed s₀.id (.drain s₀.id)
      answersAll s₀.id tasks r = true ∧ (repliesOf (drained.map (·.payload))).map some = some s₀.ready :: due := by
  intro frame deleted drain tasks start due
  have hstart : (start.create ⟨0, 0⟩ ⟨1, .json, ⟨2, 0⟩⟩ ⟨⟨7⟩, "t"⟩ .all).toOption.any (fun x =>
      x.1.id == ⟨4097⟩ && answersAll x.1.id tasks (x.2.reply ⟨0, 0⟩ x.1.id x.1.ready).2 &&
        Exchange.replies (exchangesAll x.1.id tasks (x.2.reply ⟨0, 0⟩ x.1.id x.1.ready).2) == due) = true := by
    decide +kernel
  obtain ⟨⟨s₀, r₀⟩, hcreate, hall⟩ := (Option.any_eq_true _ _).1 hstart
  simp only [Bool.and_eq_true, beq_iff_eq] at hall
  obtain ⟨⟨hid, htasks⟩, hdue⟩ := hall
  have hcreate := eq_ok_of_toOption hcreate
  obtain ⟨-, -, hdrained⟩ := replies_in_order ⟨1, 0, 0⟩ ⟨1, 2, .dropOldest 9 1000⟩ (by decide) [] ⟨0, 0⟩
    ⟨1, .json, ⟨2, 0⟩⟩ ⟨⟨7⟩, "t"⟩ .all s₀ r₀ hcreate tasks htasks
  exact ⟨s₀, r₀, hcreate, hid, htasks, hdrained.trans (congrArg _ hdue)⟩

end Router
end EventGateway
