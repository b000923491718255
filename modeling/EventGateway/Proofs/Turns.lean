import EventGateway.Proofs.Faults
import EventGateway.Proofs.Steps
/-!
# Turns — what happens on one connection

`Turn` lists everything that a step can do on the connection that it is about: the calls to the router, the link that
is put back, and the cause if the connection is to end for one.  A cause is found by looking at the link and its
session (`Gateway.causeAt?`); that the machine of the first steps agrees is part of `turns`.
-/
namespace EventGateway

/-- Why a connection ends. -/
inductive Cause where
  | unknownEncoding
  | unsuitableVersion
  | undecodable
  /-- A payload that may not be sent, or not yet, or not any more. -/
  | misplaced
  | blankToken
  | rejected
  | lateIdentify
  | idle
  | overflow
  /-- The client has said that it leaves. -/
  | left
  /-- The transport has ended. -/
  | lost
deriving DecidableEq, Repr

/-- The number that the client is told, where it can be told. -/
def Cause.number? : Cause → Option UInt16
  | unknownEncoding | undecodable | misplaced | blankToken => some 4002
  | rejected => some 4004
  | lateIdentify | idle => some 4009
  | unsuitableVersion => some 4012
  | overflow => some 4013
  | left | lost => none

/-- Why a request is refused; **the encoding is looked at first**. -/
def Opening.refusal? (request : Opening) (versions : Wire.VersionSet) : Option Cause :=
  match Wire.Encoding.ofQuery request.encoding, versions.resolve request.version with
  | .error _, _ => some .unknownEncoding
  | .ok _, .error _ => some .unsuitableVersion
  | .ok _, .ok _ => none

namespace Phase

def isAuthenticating : Phase → Bool
  | .authenticating .. => true
  | _ => false

/-- Before there is a session. -/
def isEarly : Phase → Bool
  | .identifying .. | .authenticating .. => true
  | _ => false

theorem session?_of_isEarly {phase : Phase} (h : phase.isEarly = true) : phase.session? = none := by
  cases phase <;> first | rfl | cases h

theorem isEarly_eq_false_of_session? {phase : Phase} {session : SessionId} (h : phase.session? = some session) :
    phase.isEarly = false := by
  cases phase <;> first | rfl | cases h

/-- The connection, until there is a session to know it. -/
def connection? : Phase → Option Connection
  | .identifying connection _ | .authenticating connection .. => some connection
  | _ => none

theorem session?_of_connection? {phase : Phase} {connection : Connection} (h : phase.connection? = some connection) :
    phase.session? = none := by
  cases phase <;> first | rfl | cases h

/-- What is wrong with a payload that is read. -/
def objection? : Phase → Wire.Payload → Option Cause
  | .identifying .., .identify who => if Text.isAllBlank who.token then some .blankToken else none
  | .identifying .., _ => some .misplaced
  | .live .., p => if p.role = .command then none else some .misplaced
  | _, _ => none

/-- What it means that time has run out. -/
def lateness? : Phase → Option Cause
  | .identifying .. | .authenticating .. => some .lateIdentify
  | .live .. => some .idle
  | _ => none

end Phase

namespace Link

/-- What is wrong with a message. -/
def complaint? (limit : Nat) (l : Link) : Inbound → Option Cause
  | .fault => some .lost
  | .message .close => some .left
  | .message (.ping _) => if l.transport = .cut then some .lost else none
  | .message (.pong _) => none
  | .message (.frame f) =>
    match f.decode limit with
    | .error _ => some .undecodable
    | .ok p => l.phase.objection? p

/-- What the machine of the first steps stands at, and for which connection. -/
def Stands (id : ConnectionId) (l : Link) : Prop :=
  match l.phase with
  | .identifying connection _ => connection.id = id ∧ l.bootstrap = ⟨.awaitingIdentify, false⟩
  | .authenticating connection .. => connection.id = id ∧ l.bootstrap = ⟨.awaitingIdentify, true⟩
  | .live .. => l.bootstrap = ⟨.identified, false⟩
  | .closing _ | .ended => True

theorem Stands.identifying {id : ConnectionId} {l : Link} {connection : Connection} {deadline : Nat} (h : l.Stands id)
    (hphase : l.phase = .identifying connection deadline) :
    connection.id = id ∧ l.bootstrap = ⟨.awaitingIdentify, false⟩ := by
  rw [Stands, hphase] at h
  exact h

theorem Stands.authenticating {id : ConnectionId} {l : Link} {connection : Connection} {who : Wire.Identify}
    {deadline verdictAt : Nat} (h : l.Stands id)
    (hphase : l.phase = .authenticating connection who deadline verdictAt) :
    connection.id = id ∧ l.bootstrap = ⟨.awaitingIdentify, true⟩ := by
  rw [Stands, hphase] at h
  exact h

theorem Stands.live {id : ConnectionId} {l : Link} {session : SessionId} {idleAt : Nat} (h : l.Stands id)
    (hphase : l.phase = .live session idleAt) : l.bootstrap = ⟨.identified, false⟩ := by
  rw [Stands, hphase] at h
  exact h

/-- What is wrong with the message that is read next, if one is. -/
def readComplaint? (limit : Nat) (l : Link) : Option Cause :=
  if l.isReading then l.inbox.head?.bind (l.complaint? limit) else none

end Link

namespace Link

/-- A message has come that the reader is waiting for. -/
def isCalled (l : Link) : Bool := l.isReading && !l.inbox.isEmpty

/-- What is done with the machine of the first steps for a message that is read. -/
def machineCallsOf (limit : Nat) (l : Link) : Inbound → List Bootstrap.Call
  | .fault | .message .close => [.feed .disconnected]
  | .message (.ping _) => if l.transport = .cut then [.feed .disconnected] else []
  | .message (.pong _) => []
  | .message (.frame f) =>
    match f.decode limit with
    | .error _ => [.close]
    | .ok p => [.feed (.frame p)]

/-- **What is done with the machine of a link in a step** on its connection. -/
def machineCalls (limit : Nat) (l : Link) : Gateway.Step → List Bootstrap.Call
  | .read .. => if l.isReading then l.inbox.head?.elim [] (l.machineCallsOf limit) else []
  | .judged _ (.ok who) => if l.phase.isAuthenticating then [.feed (.authenticated who)] else []
  | .judged _ (.error why) => if l.phase.isAuthenticating then [.feed (.authRejected why.message)] else []
  | .expire _ => if l.phase.lateness?.isSome then [.feed .timedOut] else []
  | _ => []

theorem machineCalls_read {limit : Nat} {l : Link} {m : Inbound} {inbox : List Inbound} (hreading : l.isReading = true)
    (hinbox : l.inbox = m :: inbox) (id : ConnectionId) (c : Collaborator) :
    l.machineCalls limit (.read id c) = l.machineCallsOf limit m := by
  rw [machineCalls, hreading, hinbox]
  rfl

end Link

namespace Gateway

/-- The session of a connection. -/
def session? (g : Gateway) (l : Link) : Option Session := l.phase.session?.bind g.router.registry.handle?

/-- Why a step ends the connection of a link that it is about, overflows aside. -/
def causeAt? (svc : Service) (g : Gateway) (l : Link) : Step → Option Cause
  | .read .. => l.readComplaint? svc.settings.maxFrameBytes.toNat
  | .judged _ (.error _) => if l.phase.isAuthenticating then some .rejected else none
  | .expire _ => l.phase.lateness?
  | .flush _ => if l.transport = .cut ∧ (g.session? l).any (·.queue.hasWork) then some .lost else none
  | _ => none

/-- **What a step can do on its connection**: the cause if it ends it, the calls, and the link afterwards. -/
inductive Turn (svc : Service) (g : Gateway) (id : ConnectionId) (l : Link) :
    Step → Option Cause → List Router.Step → Link → Prop where
  | idle (x : Step) (hread : ∀ c, x = .read id c → l.isCalled = false) : Turn svc g id l x none [] l
  | arrived (m : Message) (inbound : Inbound) :
    Turn svc g id l (.arrive id m) none [] { l with inbox := l.inbox ++ [inbound] }
  | cut : Turn svc g id l (.cut id) none [] { l with inbox := l.inbox ++ [.fault], transport := .cut }
  /-- A ping or a pong. -/
  | skipped (c : Collaborator) (connection : Connection) (deadline : Nat) (inbox : List Inbound) (pongs : List Sent)
    (hphase : l.phase = .identifying connection deadline)
    (hpongs : ∀ s ∈ pongs, l.isReading = true ∧ ∃ payload, s = .pong payload) :
    Turn svc g id l (.read id c) none [] { l with inbox, sent := l.sent ++ pongs }
  | asked (c : Collaborator) (connection : Connection) (deadline verdictAt : Nat) (who : Wire.Identify)
    (inbox : List Inbound) (hphase : l.phase = .identifying connection deadline)
    (hasked : l.machineCalls svc.settings.maxFrameBytes.toNat (.read id c) = [.feed (.frame (.identify who))]) :
    Turn svc g id l (.read id c) none []
      { l with
        inbox
        bootstrap := ⟨.awaitingIdentify, true⟩
        phase := .authenticating connection who deadline verdictAt }
  | refused (x : Step) (cause : Cause) (code? : Option CloseCode) (bootstrap : Bootstrap) (inbox : List Inbound)
    (hphase : l.phase.isEarly = true) (hcode : cause.number? = code?.map (·.number)) :
    Turn svc g id l x (some cause) [] (Link.dismissed code? { l with bootstrap, inbox })
  | created (connection : Connection) (who : Wire.Identify) (deadline verdictAt idleAt : Nat) (identity : Identity)
    (s : Session) (r : Router) (hphase : l.phase = .authenticating connection who deadline verdictAt)
    (hcreate : g.router.create g.now connection identity (.negotiate svc.capabilities who.capabilities) = .ok (s, r))
    (hidle : idleAt = g.now.ticks + svc.settings.heartbeatTimeout.toNat) :
    Turn svc g id l (.judged id (.ok identity)) none
      [.create g.now connection identity (.negotiate svc.capabilities who.capabilities), .reply g.now s.id s.ready]
      { l with bootstrap := ⟨.identified, false⟩, phase := .live s.id idleAt, heardAt := g.now.ticks }
  | heard (c : Collaborator) (session : SessionId) (idleAt idleAt' heardAt : Nat) (inbox : List Inbound)
    (pongs : List Sent) (hphase : l.phase = .live session idleAt)
    (hpongs : ∀ s ∈ pongs, l.isReading = true ∧ ∃ payload, s = .pong payload) (hcalled : l.isCalled = true)
    (hidle : idleAt' = g.now.ticks + svc.settings.heartbeatTimeout.toNat) :
    Turn svc g id l (.read id c) none []
      { l with phase := .live session idleAt', heardAt, inbox, sent := l.sent ++ pongs }
  | served (c : Collaborator) (session : SessionId) (idleAt idleAt' heardAt : Nat) (p : Wire.Payload)
    (inbox : List Inbound) (hphase : l.phase = .live session idleAt) (hp : p.role = .command)
    (hcalled : l.isCalled = true) (hidle : idleAt' = g.now.ticks + svc.settings.heartbeatTimeout.toNat) :
    Turn svc g id l (.read id c) none [Router.serving c.toCommandHandler g.now session p]
      { l with phase := .live session idleAt', heardAt, inbox }
  | stopped (x : Step) (cause : Cause) (code : CloseCode) (session : SessionId) (idleAt heardAt : Nat)
    (bootstrap : Bootstrap) (inbox : List Inbound) (hphase : l.phase = .live session idleAt)
    (hcode : cause.number? = some code.number) (hcause : cause ≠ .overflow) :
    Turn svc g id l x (some cause) (svc.stopping session code)
      (Link.stopped svc session { l with bootstrap, inbox, heardAt })
  | left (x : Step) (cause? : Option Cause) (session : SessionId) (calls : List Router.Step) (heardAt : Nat)
    (bootstrap : Bootstrap) (inbox : List Inbound) (hphase : l.phase.session? = some session)
    (hcalls : ∀ y ∈ calls, y = .drain session ∨ y = .destroy session) (hdestroy : .destroy session ∈ calls) :
    Turn svc g id l x cause? calls (Link.ended { l with bootstrap, inbox, heardAt })
  | wrote (session : SessionId) (s : Session) (out : Outgoing) (hphase : l.phase.session? = some session)
    (hs : g.router.registry.handle? session = some s) (hout : s.nextOutgoing.1 = some out) (hclose : out.close = none) :
    Turn svc g id l (.flush id) none [.drain session] (l.said s.connection.encoding out.envelopes)
  | signedOff (session : SessionId) (s : Session) (out : Outgoing) (code : CloseCode)
    (hphase : l.phase.session? = some session) (hs : g.router.registry.handle? session = some s)
    (hout : s.nextOutgoing.1 = some out) (hclose : out.close = some code) (htransport : l.transport = .up) :
    Turn svc g id l (.flush id) none [.drain session, .destroy session]
      ((l.said s.connection.encoding out.envelopes).signedOff code).ended

/-! ## Every step is one of them -/

/-- What has become of the gateway, if this is the cause; the machine has been fed what there was for it. -/
def Turns (svc : Service) (g : Gateway) (id : ConnectionId) (l : Link) (x : Step) (cause? : Option Cause)
    (g' : Gateway) : Prop :=
  ∃ calls l', Turn svc g id l x cause? calls l' ∧
    l'.bootstrap = l.bootstrap.run (l.machineCalls svc.settings.maxFrameBytes.toNat x) ∧
      g'.SameBooks (g.turned id calls l')

section Turns

variable {svc : Service} {g : Gateway} {id : ConnectionId} {l : Link}

theorem turns_of_same {x : Step} {cause? : Option Cause} {g' g'' : Gateway} (h : Turns svc g id l x cause? g'')
    (hsame : g'.SameBooks g'') : Turns svc g id l x cause? g' := by
  obtain ⟨calls, l', hturn, hfed, hbooks⟩ := h
  exact ⟨calls, l', hturn, hfed, hsame.trans hbooks⟩

theorem put_self (hkeys : (g.links.map (·.1)).Nodup) (hl : g.link? id = some l) : g.put id l = g := by
  have hmap : ∀ links : List (ConnectionId × Link), (links.map (·.1)).Nodup → links.lookup id = some l →
      links.map (fun x => if x.1 = id then (id, l) else x) = links := by
    intro links hkeys hl
    induction links with
    | nil => rfl
    | cons x links ih =>
      obtain ⟨i, l₀⟩ := x
      rw [List.map_cons, List.nodup_cons] at hkeys
      rw [List.lookup_cons] at hl
      by_cases hid : i = id
      · subst hid
        simp only [beq_self_eq_true] at hl
        obtain rfl := Option.some.inj hl
        have hrest : links.map (fun x => if x.1 = i then (i, l₀) else x) = links := by
          refine (List.map_congr_left fun y hy => ?_).trans (List.map_id _)
          have hy' : y.1 ≠ i := fun he => hkeys.1 (List.mem_map.2 ⟨y, hy, he⟩)
          rw [if_neg hy']
          rfl
        rw [List.map_cons, hrest, if_pos rfl]
      · have hne : (id == i) = false := by simpa using Ne.symm hid
        rw [hne] at hl
        rw [List.map_cons, ih hkeys.2 hl, if_neg hid]
  rw [put, hmap g.links hkeys hl]

theorem turns_idle (hkeys : (g.links.map (·.1)).Nodup) (hl : g.link? id = some l) {x : Step}
    (hcalls : l.machineCalls svc.settings.maxFrameBytes.toNat x = [])
    (hread : ∀ c, x = .read id c → l.isCalled = false) : Turns svc g id l x none g := by
  refine ⟨[], l, .idle x hread, by rw [hcalls]; rfl, ?_⟩
  have hsame : g.turned id [] l = g := put_self hkeys hl
  rw [hsame]
  exact .refl g

/-! The machine has no part in what is sent. -/

theorem bootstrap_signedOff (code : CloseCode) (l : Link) : (l.signedOff code).bootstrap = l.bootstrap := by
  unfold Link.signedOff Link.send?
  split <;> rfl

theorem bootstrap_dismissed (code? : Option CloseCode) (l : Link) : (l.dismissed code?).bootstrap = l.bootstrap := by
  cases code? with
  | none => rfl
  | some code => exact bootstrap_signedOff code l.ended

theorem bootstrap_written (encoding : Wire.Encoding) (out : Outgoing) (l : Link) :
    (l.written encoding out).bootstrap = l.bootstrap := by
  have hsaid : (out.close.elim (l.said encoding out.envelopes)
      ((l.said encoding out.envelopes).signedOff ·)).bootstrap = l.bootstrap := by
    cases out.close with
    | none => rfl
    | some code => exact bootstrap_signedOff code (l.said encoding out.envelopes)
  unfold Link.written
  dsimp only
  split <;> split <;> first | rfl | exact hsaid

/-- What is refused before there is a session ends the connection. -/
theorem turns_refused {x : Step} {cause : Cause} {connection : Connection} {e : ConnectionError} {bootstrap : Bootstrap}
    {inbox : List Inbound} {g' : Gateway} (hphase : l.phase.isEarly = true)
    (hfed : bootstrap = l.bootstrap.run (l.machineCalls svc.settings.maxFrameBytes.toNat x))
    (hcode : cause.number? = e.closeCode?.map (·.number)) (hsame : g'.SameBooks g) :
    Turns svc g id l x (some cause) (g'.endBootstrap id connection e { l with bootstrap, inbox }) :=
  ⟨[], _, .refused x cause e.closeCode? bootstrap inbox hphase hcode, (bootstrap_dismissed ..).trans hfed,
    (endBootstrap_same ..).trans (hsame.turned ..)⟩

/-! ### Identifying -/

section Identifying

variable {connection : Connection} {deadline : Nat}

theorem objection?_identifying (connection : Connection) (deadline : Nat) (p : Wire.Payload) :
    (∃ who, p = .identify who ∧ Text.isAllBlank who.token = false ∧
      (Phase.identifying connection deadline).objection? p = none) ∨
    ∃ cause, (Phase.identifying connection deadline).objection? p = some cause ∧ cause.number? = some 4002 ∧
      ∃ e, (⟨.awaitingIdentify, false⟩ : Bootstrap).advance (.frame p) = (.error e, ⟨.closed, false⟩) ∧
        e.closeCode? = some .protocolViolation := by
  have hrefused : (∀ who, p = .identify who → Text.isAllBlank who.token = true) →
      ∃ e, (⟨.awaitingIdentify, false⟩ : Bootstrap).advance (.frame p) = (.error e, ⟨.closed, false⟩) ∧
        e.closeCode? = some .protocolViolation := by
    intro hp
    have hadvanced := Bootstrap.advanced ⟨.awaitingIdentify, false⟩ (.frame p)
    generalize hresult : (⟨.awaitingIdentify, false⟩ : Bootstrap).advance (.frame p) = result at hadvanced
    cases hadvanced with
    | asked who _ hwho => rw [hp who rfl] at hwho; cases hwho
    | commanded _ hstate => cases hstate
    | refused _ e => exact ⟨e, rfl, Bootstrap.closeCode?_of_refused (by simp) hresult⟩
  cases p with
  | identify who =>
    cases hwho : Text.isAllBlank who.token with
    | false => exact .inl ⟨who, rfl, hwho, by simp [Phase.objection?, hwho]⟩
    | true =>
      refine .inr ⟨.blankToken, by simp [Phase.objection?, hwho], rfl, hrefused fun who' h => ?_⟩
      cases h
      exact hwho
  | _ => exact .inr ⟨.misplaced, rfl, rfl, hrefused fun _ h => by cases h⟩

theorem identify_turns (c : Collaborator) (hphase : l.phase = .identifying connection deadline)
    (hb : l.bootstrap = ⟨.awaitingIdentify, false⟩) (f : Wire.Frame) (inbox : List Inbound)
    (hcalls : l.machineCalls svc.settings.maxFrameBytes.toNat (.read id c) =
      l.machineCallsOf svc.settings.maxFrameBytes.toNat (.message (.frame f))) :
    Turns svc g id l (.read id c) (l.complaint? svc.settings.maxFrameBytes.toNat (.message (.frame f)))
      (g.identify { svc with handler := c.toCommandHandler } id connection deadline f { l with inbox }) := by
  have hearly : l.phase.isEarly = true := by rw [hphase]; rfl
  unfold identify Link.complaint?
  rw [Link.machineCallsOf] at hcalls
  dsimp only
  cases hdecode : f.decode svc.settings.maxFrameBytes.toNat with
  | error fault =>
    have hcode : (ConnectionError.wire fault).closeCode? = some .protocolViolation :=
      congrArg some (Wire.decode_faults _ _ _ hdecode)
    rw [hdecode] at hcalls
    exact turns_refused hearly (by rw [hcalls]; rfl) (by rw [hcode]; rfl) (.refl g)
  | ok p =>
    rw [hdecode] at hcalls
    dsimp only at hcalls ⊢
    rw [hb, hphase]
    rcases objection?_identifying connection deadline p with
      ⟨who, rfl, hwho, hnone⟩ | ⟨cause, hsome, hnumber, e, hadvance, hcode⟩
    · rw [hnone, Bootstrap.advance_identify hwho]
      refine ⟨[], _, .asked c connection deadline _ who inbox hphase hcalls, ?_, .refl _⟩
      rw [hcalls, hb, Bootstrap.run_feed, Bootstrap.advance_identify hwho]
    · rw [hsome, hadvance]
      exact turns_refused hearly (by rw [hcalls, hb, Bootstrap.run_feed, hadvance]) (by rw [hnumber, hcode]; rfl)
        (.refl g)

theorem readIdentifying_turns (c : Collaborator) (hphase : l.phase = .identifying connection deadline)
    (hb : l.bootstrap = ⟨.awaitingIdentify, false⟩) (m : Inbound) (inbox : List Inbound)
    (hcalls : l.machineCalls svc.settings.maxFrameBytes.toNat (.read id c) =
      l.machineCallsOf svc.settings.maxFrameBytes.toNat m) :
    Turns svc g id l (.read id c) (l.complaint? svc.settings.maxFrameBytes.toNat m)
      (g.readIdentifying { svc with handler := c.toCommandHandler } id connection deadline m { l with inbox }) := by
  have hearly : l.phase.isEarly = true := by rw [hphase]; rfl
  unfold readIdentifying
  dsimp only
  cases m with
  | fault => exact turns_refused hearly (by rw [hcalls]; rfl) rfl (.refl g)
  | message m =>
    cases m with
    | close => exact turns_refused hearly (by rw [hcalls]; rfl) rfl (.refl g)
    | frame f => exact identify_turns c hphase hb f inbox hcalls
    | pong payload =>
      refine ⟨[], _, .skipped c connection deadline inbox [] hphase (by simp), by rw [hcalls]; rfl, ?_⟩
      rw [List.append_nil]
      exact .refl _
    | ping payload =>
      rw [Link.machineCallsOf] at hcalls
      unfold Link.complaint? Link.send?
      dsimp only
      split
      · rename_i hcut
        exact turns_refused hearly (by rw [hcalls, if_pos hcut]; rfl) rfl (.refl g)
      · rename_i hup
        exact ⟨[], _, .skipped c connection deadline inbox [.pong payload] hphase (by simp [Link.isReading, hphase]),
          by rw [hcalls, if_neg hup]; rfl, .refl _⟩

end Identifying

/-! ### The verdict -/

section Judging

variable {connection : Connection} {who : Wire.Identify} {deadline verdictAt : Nat}

theorem create_of_not_holds {connection : Connection} (h : ¬ g.router.registry.Holds connection.id)
    (identity : Identity) (capabilities : Wire.Capabilities) :
    ∃ s r, g.router.create g.now connection identity capabilities = .ok (s, r) := by
  have hfree : g.router.registry.byConnection[connection.id]? = none := Classical.byContradiction h
  obtain ⟨registry, hcreate⟩ := Registry.create_of_free hfree g.now identity capabilities
  obtain ⟨r, hr, -⟩ := (Router.create_eq g.now connection identity capabilities g.router).2 _ _ hcreate
  exact ⟨_, r, hr⟩

theorem judged_turns (hl : g.link? id = some l) (hphase : l.phase = .authenticating connection who deadline verdictAt)
    (hconnection : connection.id = id) (hb : l.bootstrap = ⟨.awaitingIdentify, true⟩)
    (hfree : ¬ g.router.registry.Holds id) (answer : Except AuthError Identity) :
    Turns svc g id l (.judged id answer) (g.causeAt? svc l (.judged id answer)) (g.judged svc id answer) := by
  have hearly : l.phase.isEarly = true := by rw [hphase]; rfl
  unfold judged causeAt?
  rw [hl]
  dsimp only
  rw [hphase]
  cases answer with
  | error why =>
    dsimp only
    rw [hb]
    refine turns_refused (e := .authFailed why.message) hearly ?_ rfl (note_same ..)
    rw [Link.machineCalls, hphase, hb]
    rfl
  | ok identity =>
    dsimp only
    rw [hb]
    obtain ⟨s, r, hcreate⟩ := create_of_not_holds (hconnection ▸ hfree) identity
      (.negotiate svc.capabilities who.capabilities)
    refine ⟨_, _, .created connection who deadline verdictAt _ identity s r hphase hcreate rfl, ?_,
      createSession_same_of_ok hcreate⟩
    rw [Link.machineCalls, hphase, hb]
    rfl

end Judging

/-! ### Serving -/

section Serving

variable {session : SessionId} {idleAt : Nat}

/-- **A command is handed to the router, and that is all.** -/
theorem serve_of_command (handler : CommandHandler) {f : Wire.Frame} {p : Wire.Payload}
    (hdecode : f.decode svc.settings.maxFrameBytes.toNat = .ok p) (hp : p.role = .command)
    (hb : l.bootstrap = ⟨.identified, false⟩) :
    (g.serve { svc with handler } id session f l).SameBooks
      (g.turned id [Router.serving handler g.now session p] l) := by
  have hhandle : ∀ g₁ : Gateway, g₁.SameBooks g → SameBooks
      { g₁ with router := (g₁.router.handle handler g₁.now session p).2 }
      { g with router := g.router.step (Router.serving handler g.now session p) } := by
    intro g₁ h
    refine ⟨h.now, ?_, h.links⟩
    show Router.SameBooks (g₁.router.handle handler g₁.now session p).2 _
    rw [h.now]
    exact (Router.handle_same ..).trans (h.router.step _)
  have hself : ({ l with bootstrap := ⟨.identified, false⟩ } : Link) = l := by rw [← hb]
  unfold serve
  dsimp only
  rw [hdecode, hb]
  dsimp only
  rw [Bootstrap.advance_command rfl hp]
  dsimp only
  rw [hself]
  exact (hhandle _ (note_same ..)).put ..

/-- A frame with a command that is read; the client has been heard of. -/
theorem read_of_command (handler : CommandHandler) {f : Wire.Frame} {p : Wire.Payload} {inbox : List Inbound}
    (hl : g.link? id = some l) (hphase : l.phase = .live session idleAt)
    (hinbox : l.inbox = .message (.frame f) :: inbox) (hdecode : f.decode svc.settings.maxFrameBytes.toNat = .ok p)
    (hp : p.role = .command) (hb : l.bootstrap = ⟨.identified, false⟩) :
    (g.read { svc with handler } id).SameBooks (g.turned id [Router.serving handler g.now session p] { l with
      inbox
      phase := .live session (g.now.ticks + svc.settings.heartbeatTimeout.toNat)
      heardAt := g.now.ticks }) := by
  rw [read, hl]
  dsimp only
  rw [hphase, hinbox]
  exact serve_of_command handler hdecode hp hb

theorem serve_turns (c : Collaborator) (hphase : l.phase = .live session idleAt)
    (hb : l.bootstrap = ⟨.identified, false⟩) (f : Wire.Frame) (inbox : List Inbound) {idleAt' : Nat} (heardAt : Nat)
    (hcalled : l.isCalled = true) (hidle : idleAt' = g.now.ticks + svc.settings.heartbeatTimeout.toNat)
    (hcalls : l.machineCalls svc.settings.maxFrameBytes.toNat (.read id c) =
      l.machineCallsOf svc.settings.maxFrameBytes.toNat (.message (.frame f))) :
    Turns svc g id l (.read id c) (l.complaint? svc.settings.maxFrameBytes.toNat (.message (.frame f)))
      (g.serve { svc with handler := c.toCommandHandler } id session f
        { l with phase := .live session idleAt', heardAt, inbox }) := by
  have hstopped : ∀ {cause : Cause} {e : ConnectionError} {bootstrap : Bootstrap} {g₁ : Gateway},
      bootstrap = l.bootstrap.run (l.machineCalls svc.settings.maxFrameBytes.toNat (.read id c)) →
      cause.number? = some 4002 → e.closeCode? = some .protocolViolation → g₁.SameBooks g →
      Turns svc g id l (.read id c) (some cause) (g₁.violation { svc with handler := c.toCommandHandler } id session e
        { l with phase := .live session idleAt', heardAt, inbox, bootstrap }) := by
    intro cause e bootstrap g₁ hfed hnumber hcode hsame
    refine ⟨_, _, .stopped _ cause .protocolViolation session idleAt heardAt bootstrap inbox hphase hnumber ?_, hfed,
      ?_⟩
    · rintro rfl
      cases hnumber
    · exact (violation_same _ _ _ _ _ hcode).trans (hsame.turned ..)
  unfold Link.complaint?
  rw [Link.machineCallsOf] at hcalls
  dsimp only
  cases hdecode : f.decode svc.settings.maxFrameBytes.toNat with
  | error fault =>
    rw [hdecode] at hcalls
    unfold serve
    dsimp only
    rw [hdecode]
    exact hstopped (by rw [hcalls]; rfl) rfl (congrArg some (Wire.decode_faults _ _ _ hdecode)) (.refl g)
  | ok p =>
    rw [hdecode] at hcalls
    dsimp only at hcalls ⊢
    rw [hphase, Phase.objection?]
    by_cases hp : p.role = .command
    · rw [if_pos hp]
      refine ⟨_, _, .served c session idleAt idleAt' heardAt p inbox hphase hp hcalled hidle, ?_,
        serve_of_command c.toCommandHandler hdecode hp hb⟩
      rw [hcalls, hb, Bootstrap.run_feed, Bootstrap.advance_command rfl hp]
    · rw [if_neg hp]
      unfold serve
      dsimp only
      rw [hdecode, hb]
      dsimp only
      obtain ⟨e, hadvance⟩ : ∃ e, (⟨.identified, false⟩ : Bootstrap).advance (.frame p) =
          (.error e, ⟨.closed, false⟩) := by
        have hadvanced := Bootstrap.advanced ⟨.identified, false⟩ (.frame p)
        generalize hresult : (⟨.identified, false⟩ : Bootstrap).advance (.frame p) = result at hadvanced
        cases hadvanced with
        | asked _ h => cases h
        | commanded _ _ hcommand => exact absurd hcommand hp
        | refused _ e => exact ⟨e, rfl⟩
      rw [hadvance]
      exact hstopped (by rw [hcalls, hb, Bootstrap.run_feed, hadvance]) rfl
        (Bootstrap.closeCode?_of_refused (by simp) hadvance) (note_same ..)

theorem readLive_turns (c : Collaborator) (hphase : l.phase = .live session idleAt)
    (hb : l.bootstrap = ⟨.identified, false⟩) (m : Inbound) (inbox : List Inbound) (hcalled : l.isCalled = true)
    (hcalls : l.machineCalls svc.settings.maxFrameBytes.toNat (.read id c) =
      l.machineCallsOf svc.settings.maxFrameBytes.toNat m) :
    Turns svc g id l (.read id c) (l.complaint? svc.settings.maxFrameBytes.toNat m)
      (g.readLive { svc with handler := c.toCommandHandler } id session m { l with inbox }) := by
  have hsession : l.phase.session? = some session := by rw [hphase]; rfl
  have hlost : ∀ {heardAt : Nat} {phase : Phase},
      l.machineCalls svc.settings.maxFrameBytes.toNat (.read id c) = [.feed .disconnected] →
      Turns svc g id l (.read id c) (some .lost) (g.lose id session { l with phase, heardAt, inbox }) :=
    fun {heardAt _} h => ⟨_, _, .left _ _ session [.destroy session] heardAt l.bootstrap.close inbox hsession (by simp)
      (by simp), by rw [h]; rfl, lose_same ..⟩
  unfold readLive
  dsimp only
  cases m with
  | fault => exact hlost hcalls
  | message m =>
    cases m with
    | close =>
      exact ⟨_, _, .left _ _ session [.destroy session] g.now.ticks l.bootstrap.close inbox hsession (by simp)
        (by simp), by rw [hcalls]; rfl, (cleanup_same ..).trans ((note_same ..).turned ..)⟩
    | frame f => exact serve_turns c hphase hb f inbox _ hcalled rfl hcalls
    | pong payload =>
      refine ⟨[], _, .heard c session idleAt (g.now.ticks + svc.settings.heartbeatTimeout.toNat) g.now.ticks inbox []
        hphase (by simp) hcalled rfl, by rw [hcalls]; rfl, ?_⟩
      rw [List.append_nil]
      exact .refl _
    | ping payload =>
      rw [Link.machineCallsOf] at hcalls
      unfold Link.complaint? Link.send?
      dsimp only
      split
      · rename_i hcut
        exact hlost (by rw [hcalls, if_pos hcut])
      · rename_i hup
        exact ⟨[], _, .heard c session idleAt _ g.now.ticks inbox [.pong payload] hphase
          (by simp [Link.isReading, hphase]) hcalled rfl, by rw [hcalls, if_neg hup]; rfl, .refl _⟩

end Serving

/-! ### Time, and the writer -/

/-- **Time runs out for a session**: it is closed with the code that says so. -/
theorem expire_live {session : SessionId} {idleAt : Nat} (hl : g.link? id = some l)
    (hphase : l.phase = .live session idleAt) (hb : l.bootstrap = ⟨.identified, false⟩) :
    (g.expire svc id).SameBooks (g.turned id (svc.stopping session .timeout)
      (Link.stopped svc session { l with bootstrap := ⟨.closed, false⟩ })) := by
  unfold expire
  rw [hl]
  dsimp only
  rw [hb, hphase]
  exact (endReader_same ..).trans ((note_same ..).turned ..)

theorem expire_turns (hkeys : (g.links.map (·.1)).Nodup) (hl : g.link? id = some l) (hstands : l.Stands id) :
    Turns svc g id l (.expire id) l.phase.lateness? (g.expire svc id) := by
  have hcalls : l.machineCalls svc.settings.maxFrameBytes.toNat (.expire id) =
      if l.phase.lateness?.isSome then [.feed .timedOut] else [] := rfl
  have hidle : l.phase.lateness? = none → Turns svc g id l (.expire id) none g := fun h =>
    turns_idle hkeys hl (by rw [hcalls, h]; rfl) (by simp)
  cases hphase : l.phase with
  | identifying connection deadline =>
    unfold expire
    rw [hl]
    dsimp only
    rw [hphase, (hstands.identifying hphase).2]
    refine turns_refused (e := .identifyTimeout) (by rw [hphase]; rfl) ?_ rfl (.refl g)
    rw [hcalls, hphase, (hstands.identifying hphase).2]
    rfl
  | authenticating connection who deadline verdictAt =>
    unfold expire
    rw [hl]
    dsimp only
    rw [hphase, (hstands.authenticating hphase).2]
    refine turns_refused (e := .identifyTimeout) (by rw [hphase]; rfl) ?_ rfl (.refl g)
    rw [hcalls, hphase, (hstands.authenticating hphase).2]
    rfl
  | live session idleAt =>
    refine ⟨_, _, .stopped _ .idle .timeout session idleAt l.heardAt ⟨.closed, false⟩ l.inbox hphase rfl (by simp), ?_,
      expire_live hl hphase (hstands.live hphase)⟩
    rw [hcalls, hphase, hstands.live hphase]
    rfl
  | closing session =>
    have hnothing : g.expire svc id = g := by simp only [expire, hl, hphase]
    rw [hnothing]
    exact hidle (by rw [hphase]; rfl)
  | ended =>
    have hnothing : g.expire svc id = g := by simp only [expire, hl, hphase]
    rw [hnothing]
    exact hidle (by rw [hphase]; rfl)

theorem lapse_turns (hkeys : (g.links.map (·.1)).Nodup) (hl : g.link? id = some l) :
    Turns svc g id l (.lapse id) none (g.lapse id) := by
  have hidle : Turns svc g id l (.lapse id) none g := turns_idle hkeys hl rfl (by simp)
  unfold lapse
  rw [hl]
  dsimp only
  split
  · rename_i session hphase
    exact ⟨_, _, .left _ _ session [.destroy session] l.heardAt l.bootstrap l.inbox (by rw [hphase]; rfl) (by simp)
      (by simp), rfl, cleanup_same ..⟩
  · exact hidle

/-- **What is handed over**: an end if the session is gone, else all that there is. -/
theorem nextOutgoing_cases {s : Session} {out : Outgoing} (h : s.nextOutgoing.1 = some out) :
    s.queue.hasWork = true ∧ (out = ⟨[], none, true⟩ ∨
      out.close = (if s.queue.closeTaken then none else s.queue.close) ∧ s.queue.shut = false ∧
        out.envelopes.map (·.payload) = Session.announced ⟨s.queue.missed, s.queue.items, none, false⟩) := by
  unfold Session.nextOutgoing Queue.drain at h
  cases hwork : s.queue.hasWork with
  | false => simp [hwork] at h
  | true =>
    refine ⟨rfl, ?_⟩
    cases hshut : s.queue.shut with
    | true =>
      rw [hwork, hshut] at h
      exact .inl (Option.some.inj h).symm
    | false =>
      rw [hwork, hshut] at h
      obtain rfl := Option.some.inj h
      exact .inr ⟨rfl, rfl, Session.number_payloads ..⟩

/-- **A writer has a turn only if it has something to say**, or if the session is gone. -/
theorem nextOutgoing_eq_some {s : Session} {out : Outgoing} (h : s.nextOutgoing.1 = some out) :
    s.queue.hasWork = true ∧ (out.finished = true ∨ out.envelopes ≠ [] ∨ out.close ≠ none) := by
  obtain ⟨hwork, rfl | ⟨hclose, hshut, hpayloads⟩⟩ := nextOutgoing_cases h
  · exact ⟨hwork, .inl rfl⟩
  · refine ⟨hwork, .inr ?_⟩
    by_cases henvelopes : out.envelopes = []
    · right
      -- There are neither payloads nor losses, so there is a code.
      rw [henvelopes, List.map_nil] at hpayloads
      obtain ⟨hmissed, hitems⟩ := List.append_eq_nil_iff.1 hpayloads.symm
      have hmissed : ¬ 0 < s.queue.missed := fun hpos => by
        rw [if_pos hpos] at hmissed
        cases hmissed
      rw [Queue.hasWork, show s.queue.items = [] from hitems, hshut] at hwork
      have hcode : s.queue.close.isSome = true ∧ s.queue.closeTaken = false := by simpa [hmissed] using hwork
      rw [hclose, hcode.2]
      exact Option.isSome_iff_ne_none.1 hcode.1
    · exact .inl henvelopes

theorem nextOutgoing_of_hasWork {s : Session} (h : s.queue.hasWork = true) : ∃ out, s.nextOutgoing.1 = some out := by
  unfold Session.nextOutgoing Queue.drain
  rw [h]
  cases s.queue.shut <;> exact ⟨_, rfl⟩

/-- A turn of the writer that has something to send, or that finds the session gone. -/
theorem written_turn {session : SessionId} {s : Session} {out : Outgoing} (hphase : l.phase.session? = some session)
    (hs : g.router.registry.handle? session = some s) (hout : s.nextOutgoing.1 = some out) :
    Turn svc g id l (.flush id) (g.causeAt? svc l (.flush id))
      (.drain session :: if l.goesOn out then [] else [.destroy session]) (l.written s.connection.encoding out) := by
  obtain ⟨hwork, hsays⟩ := nextOutgoing_eq_some hout
  have hsession : (g.session? l).any (·.queue.hasWork) = true := by
    rw [session?, hphase, Option.bind_some, hs]
    exact hwork
  have hleft : ∀ cause?, Turn svc g id l (.flush id) cause? [.drain session, .destroy session] l.ended := fun cause? =>
    .left _ _ session [.drain session, .destroy session] l.heardAt l.bootstrap l.inbox hphase (by simp) (by simp)
  unfold causeAt?
  dsimp only
  cases htransport : l.transport with
  | cut =>
    have hends : l.goesOn out = false := by
      simp only [Link.goesOn, htransport]
      rcases hsays with h | h | h <;> simp [h]
    have hwritten : l.written s.connection.encoding out = l.ended := by simp [Link.written, hends, htransport]
    rw [if_pos ⟨rfl, hsession⟩, hwritten, hends]
    exact hleft _
  | up =>
    rw [if_neg (by simp)]
    cases hfinished : out.finished with
    | true =>
      have hends : l.goesOn out = false := by simp [Link.goesOn, hfinished]
      have hwritten : l.written s.connection.encoding out = l.ended := by simp [Link.written, hends, hfinished]
      rw [hwritten, hends]
      exact hleft _
    | false =>
      cases hclose : out.close with
      | none =>
        have hgoes : l.goesOn out = true := by simp [Link.goesOn, hfinished, hclose, htransport]
        have hwritten : l.written s.connection.encoding out = l.said s.connection.encoding out.envelopes := by
          simp [Link.written, hgoes, hfinished, hclose, htransport]
        rw [hwritten, hgoes]
        exact .wrote session s out hphase hs hout hclose
      | some code =>
        have hends : l.goesOn out = false := by simp [Link.goesOn, hclose]
        have hwritten : l.written s.connection.encoding out =
            ((l.said s.connection.encoding out.envelopes).signedOff code).ended := by
          simp [Link.written, hends, hfinished, hclose, htransport]
        rw [hwritten, hends]
        exact .signedOff session s out code hphase hs hout hclose htransport

theorem flush_turns (hkeys : (g.links.map (·.1)).Nodup) (hl : g.link? id = some l) :
    Turns svc g id l (.flush id) (g.causeAt? svc l (.flush id)) (g.flush id) := by
  by_cases hturn : ∃ session s out, l.phase.session? = some session ∧
      g.router.registry.handle? session = some s ∧ s.nextOutgoing.1 = some out
  · obtain ⟨session, s, out, hphase, hs, hout⟩ := hturn
    exact ⟨_, _, written_turn hphase hs hout, bootstrap_written .., flush_same hl hphase hs hout⟩
  · have hnone : g.causeAt? svc l (.flush id) = none := by
      refine if_neg fun ⟨_, hwork⟩ => hturn ?_
      obtain ⟨s, hs, hwork⟩ := (Option.any_eq_true _ _).1 hwork
      obtain ⟨session, hphase, hs⟩ := Option.bind_eq_some_iff.1 hs
      obtain ⟨out, hout⟩ := nextOutgoing_of_hasWork hwork
      exact ⟨session, s, out, hphase, hs, hout⟩
    have hnothing : g.flush id = g := by
      refine flush_eq_self hl fun session hphase s hs => ?_
      refine Classical.byContradiction fun hne => ?_
      obtain ⟨out, hout⟩ := Option.ne_none_iff_exists'.1 hne
      exact hturn ⟨session, s, out, hphase, hs, hout⟩
    rw [hnone, hnothing]
    exact turns_idle hkeys hl rfl (by simp)

/-! ### All of them -/

theorem read_turns (hkeys : (g.links.map (·.1)).Nodup) (hl : g.link? id = some l) (hstands : l.Stands id)
    (c : Collaborator) : Turns svc g id l (.read id c) (g.causeAt? svc l (.read id c))
      (g.read { svc with handler := c.toCommandHandler } id) := by
  have hcause : g.causeAt? svc l (.read id c) = l.readComplaint? svc.settings.maxFrameBytes.toNat := rfl
  unfold read
  rw [hl, hcause]
  dsimp only
  split
  · rename_i connection deadline m inbox hphase hinbox
    rw [show l.readComplaint? svc.settings.maxFrameBytes.toNat = l.complaint? svc.settings.maxFrameBytes.toNat m by
      simp [Link.readComplaint?, Link.isReading, hphase, hinbox]]
    exact readIdentifying_turns c hphase (hstands.identifying hphase).2 m inbox
      (Link.machineCalls_read (by simp [Link.isReading, hphase]) hinbox id c)
  · rename_i session idleAt m inbox hphase hinbox
    rw [show l.readComplaint? svc.settings.maxFrameBytes.toNat = l.complaint? svc.settings.maxFrameBytes.toNat m by
      simp [Link.readComplaint?, Link.isReading, hphase, hinbox]]
    exact readLive_turns c hphase (hstands.live hphase) m inbox
      (by simp [Link.isCalled, Link.isReading, hphase, hinbox])
      (Link.machineCalls_read (by simp [Link.isReading, hphase]) hinbox id c)
  · rename_i hidentifying hlive
    have hnothing : l.inbox = [] ∨ l.isReading = false := by
      cases hinbox : l.inbox with
      | nil => exact .inl rfl
      | cons m inbox =>
        right
        cases hphase : l.phase with
        | identifying connection deadline => exact (hidentifying _ _ _ _ hphase hinbox).elim
        | live session idleAt => exact (hlive _ _ _ _ hphase hinbox).elim
        | _ => simp [Link.isReading, hphase]
    rw [show l.readComplaint? svc.settings.maxFrameBytes.toNat = none by
      rcases hnothing with h | h <;> simp [Link.readComplaint?, h]]
    exact turns_idle hkeys hl (by rcases hnothing with h | h <;> simp [Link.machineCalls, h])
      (fun _ _ => by rcases hnothing with h | h <;> simp [Link.isCalled, h])

theorem turns (hkeys : (g.links.map (·.1)).Nodup) (hl : g.link? id = some l) (hstands : l.Stands id)
    (hfree : l.phase.isEarly = true → ¬ g.router.registry.Holds id) {x : Step} (hx : x.at? = some id) :
    Turns svc g id l x (g.causeAt? svc l x) (g.step svc x) := by
  cases x with
  | opened | unreached | publish | pass => cases hx
  | arrive i m =>
    obtain rfl := Option.some.inj hx
    refine ⟨[], _, .arrived m (if m.fits svc.settings.transportLimit then .message m else .fault), rfl, ?_⟩
    simp only [step, arrive, hl]
    exact .refl _
  | cut i =>
    obtain rfl := Option.some.inj hx
    refine ⟨[], _, .cut, rfl, ?_⟩
    simp only [step, Gateway.cut, hl]
    exact .refl _
  | read i c =>
    obtain rfl := Option.some.inj hx
    exact read_turns hkeys hl hstands c
  | judged i answer =>
    obtain rfl := Option.some.inj hx
    by_cases hphase : ∃ connection who deadline verdictAt,
        l.phase = .authenticating connection who deadline verdictAt
    · obtain ⟨connection, who, deadline, verdictAt, hphase⟩ := hphase
      obtain ⟨hconnection, hb⟩ := hstands.authenticating hphase
      exact judged_turns hl hphase hconnection hb (hfree (by rw [hphase]; rfl)) answer
    · have hnone : g.causeAt? svc l (.judged i answer) = none ∧ g.judged svc i answer = g ∧
          l.machineCalls svc.settings.maxFrameBytes.toNat (.judged i answer) = [] := by
        unfold causeAt? judged Link.machineCalls
        rw [hl]
        dsimp only
        cases h : l.phase with
        | authenticating connection who deadline verdictAt => exact absurd ⟨_, _, _, _, h⟩ hphase
        | _ => cases answer <;> exact ⟨rfl, rfl, rfl⟩
      rw [hnone.1]
      exact turns_of_same (turns_idle hkeys hl hnone.2.2 (by simp)) (by rw [step, hnone.2.1]; exact .refl g)
  | expire i =>
    obtain rfl := Option.some.inj hx
    exact expire_turns hkeys hl hstands
  | lapse i =>
    obtain rfl := Option.some.inj hx
    exact lapse_turns hkeys hl
  | flush i =>
    obtain rfl := Option.some.inj hx
    exact flush_turns hkeys hl

end Turns

end Gateway
end EventGateway
