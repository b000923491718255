import EventGateway.Proofs.Ledger
/-!
# Messages — what becomes of a message that is sent

A message passes four checks, the first of them before the command is made, or it is refused for the first one that
fails (`accepts_or_objection`).  One that passes is published as one event under an id that nobody has had before; one
that is refused is answered to its sender, and nothing else happens.
-/
namespace EventGateway

open Wire (Payload)

namespace LocalChannels

/-! ## The checks -/

/-- The numbers that name a channel: ids are signed, so the highest bit is not set. -/
def Names (channel : UInt64) : Prop := 0 < channel.toNat ∧ channel.toNat < 9223372036854775808

instance (channel : UInt64) : Decidable (Names channel) := inferInstanceAs (Decidable (_ ∧ _))

/-- **A message that is sent.**  Its length is counted in characters, white space at its ends aside. -/
structure Accepts (c : LocalChannels) (channel : UInt64) (content : String) : Prop where
  names : Names channel
  writable : .ofUInt64 channel ∉ c.readOnly
  nonempty : Text.trim content ≠ ""
  short : (Text.trim content).length ≤ 2000

/-- **Why a message is not sent**: the error of the first check that fails, and its code. -/
inductive Objection (c : LocalChannels) (channel : UInt64) (content : String) : CommandError → String → Prop where
  | names (h : ¬ Names channel) : Objection c channel content (.invalid "channel_id is required") "VALIDATION_ERROR"
  | readOnly (hnames : Names channel) (h : .ofUInt64 channel ∈ c.readOnly) :
    Objection c channel content .cannotSendMessages "CANNOT_SEND_MESSAGES"
  | empty (hnames : Names channel) (hwritable : .ofUInt64 channel ∉ c.readOnly) (h : Text.trim content = "") :
    Objection c channel content (.invalid "content must not be empty") "VALIDATION_ERROR"
  | long (hnames : Names channel) (hwritable : .ofUInt64 channel ∉ c.readOnly) (hnonempty : Text.trim content ≠ "")
    (h : 2000 < (Text.trim content).length) : Objection c channel content (.contentTooLong 2000) "CONTENT_TOO_LONG"

variable {c : LocalChannels} {channel : UInt64} {content : String}

theorem Objection.code_eq {e : CommandError} {code : String} (h : c.Objection channel content e code) :
    e.code = code := by
  cases h <;> rfl

theorem accepts_or_objection (c : LocalChannels) (channel : UInt64) (content : String) :
    c.Accepts channel content ∨ ∃ e code, c.Objection channel content e code := by
  by_cases hnames : Names channel
  · by_cases hwritable : .ofUInt64 channel ∈ c.readOnly
    · exact .inr ⟨_, _, .readOnly hnames hwritable⟩
    by_cases hempty : Text.trim content = ""
    · exact .inr ⟨_, _, .empty hnames hwritable hempty⟩
    by_cases hlong : 2000 < (Text.trim content).length
    · exact .inr ⟨_, _, .long hnames hwritable hempty hlong⟩
    · exact .inl ⟨hnames, hwritable, hempty, Nat.le_of_not_lt hlong⟩
  · exact .inr ⟨_, _, .names hnames⟩

/-- A number names a channel if it is positive as an id. -/
theorem names_iff : Names channel ↔ (Snowflake.ofUInt64 channel).isPositive = true := by
  unfold Names Snowflake.isPositive Snowflake.ofUInt64
  have hsigned : channel.toInt64.toInt = channel.toBitVec.toInt := rfl
  have hunsigned : channel.toBitVec.toNat = channel.toNat := rfl
  have hzero : (0 : Int64).toInt = 0 := rfl
  have hlt := channel.toNat_lt
  rw [decide_eq_true_iff, Int64.lt_iff_toInt_lt, hsigned, hzero, BitVec.toInt_eq_toNat_cond, hunsigned]
  split <;> omega

theorem ofPayload_of_names (h : Names channel) : Command.ofPayload (.sendMessage channel content) =
    .ok (.act (.sendMessage (.ofUInt64 channel) content)) := by
  rw [Command.ofPayload, Command.parseChannel, if_pos (names_iff.1 h)]
  rfl

theorem ofPayload_of_not_names (h : ¬ Names channel) : Command.ofPayload (.sendMessage channel content) =
    .error (.invalid "channel_id is required") := by
  rw [Command.ofPayload, Command.parseChannel, if_neg (fun hpositive => h (names_iff.2 hpositive))]
  rfl

theorem checkMessage_of_accepts (h : c.Accepts channel content) :
    c.checkMessage (.ofUInt64 channel) content = .ok (Text.trim content) := by
  have hreadOnly : ¬ c.readOnly.contains (Snowflake.ofUInt64 channel) = true := by simpa using h.writable
  rw [checkMessage, checkChannel, if_pos (names_iff.1 h.names), if_neg hreadOnly]
  simp only [h.nonempty, Nat.not_lt.2 h.short, maxContent, if_false]
  rfl

/-- Of the checks that are left to the channels, the first one that fails gives the error. -/
theorem checkMessage_of_objection {e : CommandError} {code : String} (hnames : Names channel)
    (h : c.Objection channel content e code) : c.checkMessage (.ofUInt64 channel) content = .error e := by
  rw [checkMessage, checkChannel, if_pos (names_iff.1 hnames)]
  cases h with
  | names h => exact absurd hnames h
  | readOnly _ h =>
    rw [if_pos (by simpa using h)]
    rfl
  | empty _ hwritable h =>
    rw [if_neg (by simpa using hwritable)]
    simp only [h, if_true]
    rfl
  | long _ hwritable hnonempty h =>
    rw [if_neg (by simpa using hwritable)]
    simp only [hnonempty, maxContent, h, if_true, if_false]
    rfl

end LocalChannels

namespace Session

/-- The session is subscribed to a channel with a filter that admits new messages. -/
def Follows (s : Session) (channel : Snowflake) : Prop :=
  ∃ kinds, s.subscriptions[Scope.channel channel]? = some kinds ∧ kinds.admits .messageCreate = true

/-- New messages need no capability. -/
theorem wants_message_iff {s : Session} {channel message author : Snowflake} {text : String} {timestamp : Int64} :
    s.wants (.messageCreated channel message author text timestamp) = true ↔
      s.released = false ∧ s.Follows channel := by
  have hallows : s.capabilities.allows EventKinds.messageCreate = true := by
    unfold Wire.Capabilities.allows
    rw [if_neg (by decide), if_neg (by decide), if_neg (by decide)]
  rw [wants_iff]
  simp [Event.kind, Event.scopes, Event.scope, Follows, hallows]

end Session

namespace Router

open LocalChannels (Names Objection)

/-- **A message that was sent**: one id is taken for it, and it is published once, to those who follow the channel and
to nobody else; nor is anybody told anything else. -/
structure Posted (now : Moment) (channel message author : Snowflake) (text : String) (r r' : Router) : Prop where
  ids : r.registry.ids.next now.age = (message, r'.registry.ids)
  published : r'.stats.published = r.stats.published + 1
  followers : ∀ {j s}, r.registry.session? j = some s → s.Follows channel → r'.registry.handle? j =
    some (s.push now.ticks (Event.messageCreated channel message author text now.timestamp).payload).2
  others : ∀ {j s}, r.registry.handle? j = some s → (r.registry.session? j = some s → ¬ s.Follows channel) →
    r'.registry.handle? j = some s

/-- **A message that was refused**: nothing is published and no id is taken.  The sender is told, unless its queue is
closing; if there is no room for the reply, the sender is closed for it. -/
structure Refused (now : Moment) (id : SessionId) (reply : Payload) (r r' : Router) : Prop where
  counts : r'.counts = r.counts
  ids : r'.registry.ids = r.registry.ids
  others : ∀ j, j ≠ id → r'.registry.handle? j = r.registry.handle? j
  told : ∀ {s}, r.registry.handle? id = some s → s.queue.isClosing = false →
    s.queue.controls < s.queue.config.controlCapacity → r'.registry.handle? id =
      some { s with queue := { s.queue with items := s.queue.items ++ [reply], controls := s.queue.controls + 1 } }
  full : ∀ {s}, r.registry.handle? id = some s → s.queue.isClosing = false →
    s.queue.config.controlCapacity ≤ s.queue.controls → r'.registry.handle? id =
      some { s with queue := s.queue.overflowed }
  closing : ∀ {s}, r.registry.handle? id = some s → s.queue.isClosing = true → r'.registry.handle? id = some s

variable {c : LocalChannels} {now : Moment} {id : SessionId} {s : Session} {channel : UInt64} {content : String}
  {r r' : Router}

/-- A control reply to one session, and nothing else. -/
theorem refused_of_changed (hr : r.registry.Consistent) {reply : Payload} (hreply : reply.isSequenced = false)
    (hregistry : r'.registry = r.registry.changed id (·.push now.ticks reply)) (hcounts : r'.counts = r.counts) :
    Refused now id reply r r' := by
  have hcritical : reply.isCritical = true := Payload.isCritical_of_isSequenced_eq_false hreply
  have hhandle : ∀ j, r'.registry.handle? j =
      if j = id then (r.registry.handle? j).map (·.move (.push now.ticks reply)) else r.registry.handle? j := fun j => by
    rw [hregistry]
    exact handle?_pushed hr id now.ticks reply j
  have hsender : ∀ {s}, r.registry.handle? id = some s → r'.registry.handle? id = some (s.push now.ticks reply).2 :=
    fun hs => by
      rw [hhandle, if_pos rfl, hs]
      rfl
  refine ⟨hcounts, by rw [hregistry, Registry.ids_changed], fun j hj => by rw [hhandle, if_neg hj],
    fun hs hopen hroom => ?_, fun hs hopen hfull => ?_, fun hs hclosing => ?_⟩
  · rw [hsender hs, Session.push, Queue.push, hopen, if_neg Bool.false_ne_true, if_pos hcritical, if_pos hroom]
  · rw [hsender hs, Session.push, Queue.push, hopen, if_neg Bool.false_ne_true, if_pos hcritical,
      if_neg (Nat.not_lt.2 hfull)]
  · rw [hsender hs, Session.push, Queue.push, if_pos hclosing]

/-- **Handling a message that passes the checks.** -/
theorem posted_of_accepts (hr : r.registry.Consistent) (hs : r.registry.handle? id = some s)
    (h : c.Accepts channel content) :
    (r.handle c.handler now id (.sendMessage channel content)).1 = .ok () ∧
      Posted now (.ofUInt64 channel) (r.registry.ids.next now.age).1 s.user (Text.trim content) r
        (r.handle c.handler now id (.sendMessage channel content)).2 := by
  generalize hids : r.registry.ids.next now.age = taken
  obtain ⟨message, ids⟩ := taken
  dsimp only
  have hperform : r.perform c.handler now s (.sendMessage (.ofUInt64 channel) content) =
      (.ok [.messageCreated (.ofUInt64 channel) message s.user (Text.trim content) now.timestamp],
        { r with registry := { r.registry with ids } }) := by
    simp only [perform, LocalChannels.handler, LocalChannels.execute, LocalChannels.checkMessage_of_accepts h, hids]
    rfl
  generalize he : Event.messageCreated (.ofUInt64 channel) message s.user (Text.trim content) now.timestamp = e
    at hperform
  generalize hr₁ : { r with registry := { r.registry with ids } } = r₁ at hperform
  have hwants : ∀ t : Session, t.wants e = true ↔ t.released = false ∧ t.Follows (.ofUInt64 channel) := fun t => by
    rw [← he]
    exact Session.wants_message_iff
  have hconsistent : r₁.registry.Consistent := by
    rw [← hr₁]
    exact consistent_withIds hr _
  have hhandle : r.handle c.handler now id (.sendMessage channel content) =
      (.ok (), { (r₁.publish now e).2 with stats := (r₁.publish now e).2.stats.countCommand false }) := by
    rw [handle, LocalChannels.ofPayload_of_names h.names]
    exact submit_act_done hs hperform
  have hoffer : ∀ j, (r₁.publish now e).2.registry.handle? j = (r.registry.handle? j).map (·.offer now.ticks e) :=
    fun j => by
      rw [handle?_publish now e hconsistent, ← hr₁]
      rfl
  rw [hhandle]
  refine ⟨rfl, ?_, ?_, fun {j t} ht hfollows => ?_, fun {j t} ht hnot => ?_⟩
  · show r.registry.ids.next now.age = (message, (r₁.publish now e).2.registry.ids)
    rw [(publish_keeps now e r₁).2, ← hr₁, hids]
  · rw [show r.stats.published = r₁.stats.published by rw [← hr₁]]
    exact congrArg Prod.fst (counts_publish now e r₁)
  · refine (hoffer j).trans ?_
    rw [Registry.handle?_of_session? ht, Option.map_some, Session.offer,
      if_pos ((hwants t).2 ⟨hr.live_released ht, hfollows⟩), he]
  · refine (hoffer j).trans ?_
    rw [ht, Option.map_some, Session.offer, if_neg]
    intro hw
    obtain ⟨hlive, hfollows⟩ := (hwants t).1 hw
    refine hnot ?_ hfollows
    cases hsession : r.registry.session? j with
    | some t' => rw [← Registry.handle?_of_session? hsession, ht]
    | none =>
      -- A session that is gone is released.
      rw [Registry.handle?_of_session?_eq_none hsession] at ht
      rw [hr.retired_released ht] at hlive
      cases hlive

/-- **Handling a message that fails a check.** -/
theorem refused_of_objection (hr : r.registry.Consistent) (hs : r.registry.handle? id = some s) {e : CommandError}
    {code : String} (h : c.Objection channel content e code) :
    (r.handle c.handler now id (.sendMessage channel content)).1 = .error e ∧
      Refused now id (.error code e.message "send_message") r
        (r.handle c.handler now id (.sendMessage channel content)).2 := by
  rw [← h.code_eq]
  by_cases hnames : Names channel
  · have hperform : r.perform c.handler now s (.sendMessage (.ofUInt64 channel) content) = (.error e, r) := by
      simp only [perform, LocalChannels.handler, LocalChannels.execute,
        LocalChannels.checkMessage_of_objection hnames h]
    rw [handle, LocalChannels.ofPayload_of_names hnames]
    dsimp only
    rw [submit_act_failed hs hperform]
    exact ⟨rfl, refused_of_changed hr rfl (registry_reportFailure _ _ _ _ _) (counts_reportFailure _ _ _ _ _)⟩
  · obtain rfl : e = .invalid "channel_id is required" := by
      cases h with
      | names => rfl
      | readOnly h => exact absurd h hnames
      | empty h => exact absurd h hnames
      | long h => exact absurd h hnames
    rw [handle, LocalChannels.ofPayload_of_not_names hnames]
    exact ⟨rfl, refused_of_changed hr rfl (registry_reportFailure _ _ _ _ _) (counts_reportFailure _ _ _ _ _)⟩

/-! ## Ids -/

/-- The id of a message that an event brings. -/
def messageId? : Event → Option Snowflake
  | .messageCreated _ message .. => some message
  | _ => none

/-- Commands are carried out by channels that keep nothing. -/
def Step.IsLocal : Step → Prop
  | .submit handler .. => ∃ c : LocalChannels, handler = c.handler
  | _ => True

/-- The ids that a step gives out: to a session that begins, and to the messages that are sent. -/
def issues (r : Router) : Step → List Snowflake
  | .create now connection identity capabilities =>
    ((r.create now connection identity capabilities).toOption.map (·.1.id)).toList
  | .submit handler now i (.act action) => (r.registry.handle? i).elim [] fun s =>
    ((r.perform handler now s action).1.toOption.getD []).filterMap messageId?
  | _ => []

/-- The ids that were given out in a run. -/
def issued : List Step → Router → List Snowflake
  | [], _ => []
  | x :: xs, r => r.issues x ++ issued xs (r.step x)

theorem Step.IsLocal.draws {x : Step} (h : x.IsLocal) : x.Draws := by
  cases x with
  | submit handler =>
    obtain ⟨c, rfl⟩ := h
    exact c.execute_draws
  | _ => trivial

theorem execute_issues (c : LocalChannels) (now : Moment) (ids : Generator) (who : Identity) (action : Action)
    {message : Snowflake} (h : message ∈ ((c.execute now ids who action).1.toOption.getD []).filterMap messageId?) :
    (c.execute now ids who action).2.HasIssued message := by
  cases action with
  | sendMessage channel content =>
    simp only [LocalChannels.execute] at h ⊢
    cases hcheck : c.checkMessage channel content with
    | error e =>
      rw [hcheck] at h
      cases h
    | ok text =>
      rw [hcheck] at h
      obtain rfl : message = (ids.next now.age).1 := by simpa [Except.toOption, messageId?] using h
      exact Generator.hasIssued_next _ _
  | startTyping channel =>
    simp only [LocalChannels.execute] at h
    cases hcheck : LocalChannels.checkChannel channel with
    | error e =>
      rw [hcheck] at h
      cases h
    | ok =>
      rw [hcheck] at h
      cases h
  | updatePresence status => cases h

theorem issues_hasIssued {x : Step} (hx : x.IsLocal) (r : Router) {j : Snowflake} (hj : j ∈ r.issues x) :
    (r.step x).registry.ids.HasIssued j := by
  cases x with
  | create now connection identity capabilities =>
    simp only [issues, step] at hj ⊢
    cases h : r.create now connection identity capabilities with
    | error => rw [h] at hj; cases hj
    | ok sr =>
      rw [h] at hj
      obtain rfl : j = sr.1.id := by simpa [Except.toOption] using hj
      obtain ⟨-, hissued, hids⟩ := Registry.create_grants (create_ok h)
      show sr.2.registry.ids.HasIssued sr.1.id
      rw [hissued, hids]
      exact Generator.hasIssued_next _ _
  | submit handler now i command =>
    obtain ⟨c, rfl⟩ := hx
    cases command with
    | act action =>
      rw [issues] at hj
      cases hs : r.registry.handle? i with
      | none => rw [hs] at hj; cases hj
      | some s =>
        rw [hs, Option.elim_some] at hj
        have hissued : (r.perform c.handler now s action).2.registry.ids.HasIssued j :=
          execute_issues c now r.registry.ids s.identity action hj
        rcases hperform : r.perform c.handler now s action with ⟨e | events, r₁⟩
        · rw [hperform] at hj
          cases hj
        · rw [hperform] at hissued
          rw [step, submit_act_done hs hperform]
          show (publishAll now events r₁).registry.ids.HasIssued j
          rw [(publishAll_keeps now events r₁).2]
          exact hissued
    | _ => cases hj
  | _ => cases hj

theorem hasIssued_run : ∀ (xs : List Step) {r : Router} {j : Snowflake}, (∀ x ∈ xs, x.Draws) →
    r.registry.ids.HasIssued j → (r.run xs).registry.ids.HasIssued j
  | [], _, _, _, h => h
  | x :: xs, r, _, hdraws, h => hasIssued_run xs (fun y hy => hdraws y (List.mem_cons_of_mem _ hy))
      (h.drawn (step_keeps (r := r) (hdraws x List.mem_cons_self)).2)

/-- **What was given out in a run has been issued by the generator.** -/
theorem issued_hasIssued : ∀ (xs : List Step) {r : Router} {j : Snowflake}, (∀ x ∈ xs, x.IsLocal) → j ∈ issued xs r →
    (r.run xs).registry.ids.HasIssued j
  | [], _, _, _, hj => by cases hj
  | x :: xs, r, j, hlocal, hj => by
    have hlocal' : ∀ y ∈ xs, y.IsLocal := fun y hy => hlocal y (List.mem_cons_of_mem _ hy)
    rcases List.mem_append.1 hj with hj | hj
    · exact hasIssued_run xs (fun y hy => (hlocal' y hy).draws) (issues_hasIssued (hlocal x List.mem_cons_self) r hj)
    · exact issued_hasIssued xs hlocal' hj

/-! ## Sending a message -/

/-- **A message is sent or refused.**  At every point of every run, and whoever sends it: a message that passes the
checks is published as one event to those who follow the channel, under an id that neither a session nor a message has
had before, and its sender is told of no error; and for one that does not, nothing is published, no id is taken, and
the sender is sent the error of the first check that fails. -/
theorem message_posted_or_refused (c : LocalChannels) (ids : Generator) (queue : QueueConfig) (steps : List Step)
    (now : Moment) (id : SessionId) (s : Session) (channel : UInt64) (content : String)
    (hs : ((new ids queue).run steps).registry.handle? id = some s) :
    let r := (new ids queue).run steps
    let message := (r.registry.ids.next now.age).1
    let answer := (r.handle c.handler now id (.sendMessage channel content)).1
    let r' := (r.handle c.handler now id (.sendMessage channel content)).2
    (c.Accepts channel content → answer = .ok () ∧
      Posted now (.ofUInt64 channel) message s.user (Text.trim content) r r' ∧
      ((∀ x ∈ steps, x.IsLocal) → r'.registry.ids.Fits →
        message ∉ issued steps (new ids queue) ∧ ∀ j, r.registry.handle? j ≠ none → j ≠ message)) ∧
    (¬ c.Accepts channel content → ∃ e code, c.Objection channel content e code ∧ answer = .error e ∧
      Refused now id (.error code e.message "send_message") r r') := by
  intro r message answer r'
  have hr : r.registry.Consistent := consistent_run steps (Registry.consistent_new ids queue)
  refine ⟨fun haccepts => ?_, fun hnot => ?_⟩
  · obtain ⟨hanswer, hposted⟩ : answer = .ok () ∧
        Posted now (.ofUInt64 channel) message s.user (Text.trim content) r r' := posted_of_accepts hr hs haccepts
    refine ⟨hanswer, hposted, fun hlocal hfits => ?_⟩
    have hnext : (r.registry.ids.next now.age).2 = r'.registry.ids := congrArg Prod.snd hposted.ids
    have hnew : ∀ j, r.registry.ids.HasIssued j → j ≠ message := fun j hj => hj.ne_next (hnext ▸ hfits)
    have hsound : r.Sound queue := (sound_new ids queue).run steps fun x hx => (hlocal x hx).draws
    exact ⟨fun hmem => hnew _ (issued_hasIssued steps hlocal hmem) rfl, fun j hj => hnew j (hsound.issued j hj)⟩
  · obtain ⟨e, code, hobjection⟩ := (LocalChannels.accepts_or_objection c channel content).resolve_left hnot
    obtain ⟨hanswer, hrefused⟩ : answer = .error e ∧
        Refused now id (.error code e.message "send_message") r r' := refused_of_objection hr hs hobjection
    exact ⟨e, code, hobjection, hanswer, hrefused⟩

/-- The first message of a run has an id, and the second one gets another; it comes to the one session that follows the
channel, without the blanks around it.  A message to a channel whose number has the highest bit is refused. -/
theorem message_posted_or_refused_twice :
    let client (n : Nat) := Step.create ⟨0, 0⟩ ⟨n, .json, ⟨2, 0⟩⟩ ⟨⟨7⟩, "agent"⟩ .all
    let c : LocalChannels := ⟨[⟨6⟩]⟩
    let steps := [client 1, client 2, .subscribe ⟨4098⟩ (.channel ⟨5⟩) .messages,
      .submit c.handler ⟨0, 0⟩ ⟨4097⟩ (.act (.sendMessage ⟨5⟩ "first"))]
    let r := (new ⟨1, 0, 0⟩ ⟨2, 1, .disconnect⟩).run steps
    let sent := (r.handle c.handler ⟨0, 0⟩ ⟨4097⟩ (.sendMessage 5 " second ")).2
    let refused := (r.handle c.handler ⟨0, 0⟩ ⟨4097⟩ (.sendMessage 9223372036854775808 "third")).2
    issued steps (new ⟨1, 0, 0⟩ ⟨2, 1, .disconnect⟩) = [⟨4097⟩, ⟨4098⟩, ⟨4099⟩] ∧
      Posted ⟨0, 0⟩ ⟨5⟩ ⟨4100⟩ ⟨7⟩ "second" r sent ∧
      ⟨4100⟩ ∉ issued steps (new ⟨1, 0, 0⟩ ⟨2, 1, .disconnect⟩) ∧
      ∃ e code, c.Objection 9223372036854775808 "third" e code ∧
        Refused ⟨0, 0⟩ ⟨4097⟩ (.error code e.message "send_message") r refused := by
  intro client c steps r sent refused
  have hlocal : ∀ x ∈ steps, x.IsLocal := by
    intro x hx
    simp only [steps, client, List.mem_cons, List.not_mem_nil, or_false] at hx
    rcases hx with rfl | rfl | rfl | rfl
    case inr.inr.inr => exact ⟨c, rfl⟩
    all_goals exact trivial
  have haccepts : c.Accepts 5 " second " := ⟨by decide, by decide, by decide +kernel, by decide +kernel⟩
  have hrejects : ¬ c.Accepts 9223372036854775808 "third" := fun h => absurd h.names (by decide)
  have hsome : (r.registry.handle? ⟨4097⟩).isSome = true := by decide +kernel
  obtain ⟨s, hs⟩ := Option.isSome_iff_exists.1 hsome
  have huser : s.user = ⟨7⟩ := by
    have huser : (r.registry.handle? ⟨4097⟩).map (·.user) = some ⟨7⟩ := by decide +kernel
    rw [hs] at huser
    exact Option.some.inj huser
  have hfits : (((new ⟨1, 0, 0⟩ ⟨2, 1, .disconnect⟩).run steps).handle c.handler ⟨0, 0⟩ ⟨4097⟩
      (.sendMessage 5 " second ")).2.registry.ids.Fits := by
    unfold Generator.Fits
    decide +kernel
  have hmessage : (((new ⟨1, 0, 0⟩ ⟨2, 1, .disconnect⟩).run steps).registry.ids.next (Moment.age ⟨0, 0⟩)).1 = ⟨4100⟩ := by
    decide +kernel
  have htext : Text.trim " second " = "second" := by decide +kernel
  obtain ⟨hsent, hrefused⟩ := message_posted_or_refused c ⟨1, 0, 0⟩ ⟨2, 1, .disconnect⟩ steps ⟨0, 0⟩ ⟨4097⟩ s 5 " second " hs
  obtain ⟨-, hposted, hfresh⟩ := hsent haccepts
  rw [hmessage, huser, htext] at hposted
  obtain ⟨-, hrefused⟩ := message_posted_or_refused c ⟨1, 0, 0⟩ ⟨2, 1, .disconnect⟩ steps ⟨0, 0⟩ ⟨4097⟩ s
    9223372036854775808 "third" hs
  obtain ⟨e, code, hobjection, -, hrefused⟩ := hrefused hrejects
  have hnew := (hfresh hlocal hfits).1
  rw [hmessage] at hnew
  exact ⟨by decide +kernel, hposted, hnew, e, code, hobjection, hrefused⟩

/-- **Not every refusal is heard of.**  A sender with a reply in its queue, and no room for another one, is closed by the
refusal: it gets the reply, and no error. -/
theorem refusal_without_room :
    let client := Step.create ⟨0, 0⟩ ⟨1, .json, ⟨2, 0⟩⟩ ⟨⟨7⟩, "agent"⟩ .all
    let c : LocalChannels := ⟨[]⟩
    let r := (new ⟨1, 0, 0⟩ ⟨1, 1, .disconnect⟩).run [client, .reply ⟨0, 0⟩ ⟨4097⟩ (.heartbeatAck 0)]
    let r' := (r.handle c.handler ⟨0, 0⟩ ⟨4097⟩ (.sendMessage 0 "hello")).2
    (r.registry.session? ⟨4097⟩).map (·.queue.isClosing) = some false ∧ ¬ c.Accepts 0 "hello" ∧
      (r'.nextOutgoing ⟨4097⟩).1.map (fun out => (out.envelopes.map (·.payload), out.close)) =
        some ([.heartbeatAck 0], some .backpressureOverflow) := by
  intro client c r r'
  exact ⟨by decide +kernel, fun h => absurd h.names (by decide), by decide +kernel⟩

end Router
end EventGateway
