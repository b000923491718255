import EventGateway.Gateway.Startup
import EventGateway.Proofs.Bootstrap
import EventGateway.Proofs.Freshness
import EventGateway.Proofs.Journal
/-!
# Steps — a gateway, one thing that happens after the other

`Step` leaves every order open, and the verdicts and the collaborators too.  Whatever happens on a connection, the
gateway makes some calls to the router and puts back the link (`turned`); there is one lemma for each operation that
says which calls these are and what becomes of the link, and nothing below opens these operations again.  The journal
is left out of account.
-/
namespace EventGateway

namespace Phase

/-- The session that is served. -/
def session? : Phase → Option SessionId
  | .live session _ | .closing session => some session
  | _ => none

end Phase

namespace Link

def ended (l : Link) : Link := { l with phase := .ended }

/-- Sends a close frame, if the transport takes it. -/
def signedOff (code : CloseCode) (l : Link) : Link := (l.send? (.close code)).getD l

/-- Ended without a session, with a close frame if there is a code for it. -/
def dismissed (code? : Option CloseCode) (l : Link) : Link := code?.elim l.ended (l.ended.signedOff ·)

def said (encoding : Wire.Encoding) (es : List Wire.Envelope) (l : Link) : Link :=
  { l with sent := l.sent ++ es.map (fun e => .frame (e.encode encoding)) }

/-- The reader has ended with a code; the session is closing if its writer gets time for it. -/
def stopped (svc : Service) (session : SessionId) (l : Link) : Link :=
  { l with phase := if svc.settings.closeGrace = 0 then .ended else .closing session }

/-- Whether the writer goes on after its turn. -/
def goesOn (out : Outgoing) (l : Link) : Bool :=
  !out.finished && out.close.isNone && (l.transport == .up || out.envelopes.isEmpty)

/-- After a turn of the writer. -/
def written (encoding : Wire.Encoding) (out : Outgoing) (l : Link) : Link :=
  let l' := if out.finished || l.transport == .cut then l
    else out.close.elim (l.said encoding out.envelopes) ((l.said encoding out.envelopes).signedOff ·)
  if l.goesOn out then l' else l'.ended

theorem signedOff_of_up {l : Link} (h : l.transport = .up) (code : CloseCode) :
    l.signedOff code = { l with sent := l.sent ++ [.close code] } := by
  simp [signedOff, send?, h]

theorem signedOff_of_cut {l : Link} (h : l.transport = .cut) (code : CloseCode) : l.signedOff code = l := by
  simp [signedOff, send?, h]

end Link

namespace Service

/-- The calls by which a session is closed: it is destroyed at once if its writer gets no time. -/
def stopping (svc : Service) (session : SessionId) (code : CloseCode) : List Router.Step :=
  .close session code :: if svc.settings.closeGrace = 0 then [.destroy session] else []

/-- What the client of a new connection is told. -/
def hello (svc : Service) (version : Wire.Version) : Wire.Envelope :=
  .unsequenced (.handshake version.major version.revision svc.capabilities.bits svc.settings.heartbeatInterval)

end Service

/-- A new connection: refused at once, or greeted and waiting for an Identify. -/
def Link.opened (svc : Service) (id : ConnectionId) (request : Opening) (now : Moment) : Link :=
  match request.negotiate svc.versions with
  | .error fault => ⟨.ended, ⟨.closed, false⟩, [], .up, [.close fault.closeCode], now.ticks⟩
  | .ok (encoding, version) =>
    ⟨.identifying ⟨id, encoding, version⟩ (now.ticks + svc.settings.identifyTimeout.toNat),
      ⟨.awaitingIdentify, false⟩, [], .up, [.frame ((svc.hello version).encode encoding)], now.ticks⟩

/-- A new connection whose client is gone before it can be told anything. -/
def Link.unreached (now : Moment) : Link := ⟨.ended, ⟨.closed, false⟩, [], .cut, [], now.ticks⟩

namespace Session

/-- What the client is told of its new session. -/
def ready (s : Session) : Wire.Payload :=
  .ready s.id.toUInt64 s.user.toUInt64 s.connection.version.major s.connection.version.revision s.capabilities.bits

end Session

namespace Gateway

/-- **One thing that happens.**  Verdicts and collaborators may be anything each time; so may be the clock. -/
inductive Step where
  | opened (request : Opening) (peer : Peer)
  /-- The same, but the transport is gone before the first word. -/
  | unreached (request : Opening) (peer : Peer)
  | arrive (id : ConnectionId) (m : Message)
  | cut (id : ConnectionId)
  | read (id : ConnectionId) (collaborator : Collaborator)
  | judged (id : ConnectionId) (answer : Except AuthError Identity)
  | expire (id : ConnectionId)
  | lapse (id : ConnectionId)
  | flush (id : ConnectionId)
  | publish (e : Event)
  | pass (now : Moment)

def step (svc : Service) (g : Gateway) : Step → Gateway
  | .opened request peer => (g.opened svc request peer).2
  | .unreached request peer => (g.openOn svc request peer .cut).2
  | .arrive id m => g.arrive svc id m
  | .cut id => g.cut id
  | .read id collaborator => g.read { svc with handler := collaborator.toCommandHandler } id
  | .judged id answer => g.judged svc id answer
  | .expire id => g.expire svc id
  | .lapse id => g.lapse id
  | .flush id => g.flush id
  | .publish e => (g.publish e).2
  | .pass now => { g with now }

def run (svc : Service) (g : Gateway) (steps : List Step) : Gateway := steps.foldl (step svc) g

/-- The connection on which something happens. -/
def Step.at? : Step → Option ConnectionId
  | .arrive id _ | .cut id | .read id _ | .judged id _ | .expire id | .lapse id | .flush id => some id
  | .opened .. | .unreached .. | .publish _ | .pass _ => none

/-- The link of a connection that begins with a step. -/
def Step.added? (svc : Service) (g : Gateway) : Step → Option Link
  | .opened request _ => some (.opened svc g.newId request g.now)
  | .unreached .. => some (.unreached g.now)
  | _ => none

/-! ## Gateways that differ in what has been noted -/

/-- **Nothing but the journal differs.** -/
structure SameBooks (g g' : Gateway) : Prop where
  now : g.now = g'.now
  router : g.router.SameBooks g'.router
  links : g.links = g'.links

/-- The calls that are made to the router, and the link that is put back. -/
def turned (id : ConnectionId) (calls : List Router.Step) (l : Link) (g : Gateway) : Gateway :=
  { g with router := g.router.run calls }.put id l

namespace SameBooks

variable {g g' g'' : Gateway}

theorem refl (g : Gateway) : g.SameBooks g := ⟨rfl, .refl _, rfl⟩

theorem trans (h : g.SameBooks g') (h' : g'.SameBooks g'') : g.SameBooks g'' :=
  ⟨h.now.trans h'.now, h.router.trans h'.router, h.links.trans h'.links⟩

theorem withRouter (h : g.SameBooks g') {r r' : Router} (hr : r.SameBooks r') :
    SameBooks { g with router := r } { g' with router := r' } := ⟨h.now, hr, h.links⟩

theorem put (h : g.SameBooks g') (id : ConnectionId) (l : Link) : (g.put id l).SameBooks (g'.put id l) :=
  ⟨h.now, h.router, by rw [Gateway.put, Gateway.put, h.links]⟩

theorem turned (h : g.SameBooks g') (id : ConnectionId) (calls : List Router.Step) (l : Link) :
    (g.turned id calls l).SameBooks (g'.turned id calls l) :=
  (h.withRouter (.run calls h.router)).put id l

end SameBooks

theorem note_same (level : Level) (message : String) (details : List (String × Detail)) (g : Gateway) :
    (g.note level message details).SameBooks g := ⟨rfl, ⟨rfl, rfl⟩, rfl⟩

/-! ## Ending a connection -/

section Ending

variable (id : ConnectionId) (l : Link) (g : Gateway)

theorem sendClose_fst (code : CloseCode) : (g.sendClose code l).1 = l.signedOff code := by
  unfold sendClose Link.signedOff
  cases l.send? (.close code) <;> rfl

theorem sendClose_same (code : CloseCode) : (g.sendClose code l).2.SameBooks g := by
  unfold sendClose
  split
  · exact .refl g
  · exact note_same ..

theorem dismiss_fst (connection : Connection) (e : ConnectionError) :
    (g.dismiss connection e l).1 = l.dismissed e.closeCode? := by
  unfold dismiss
  cases e.closeCode? with
  | none => rfl
  | some code => exact sendClose_fst ..

theorem dismiss_same (connection : Connection) (e : ConnectionError) : (g.dismiss connection e l).2.SameBooks g := by
  unfold dismiss
  cases e.closeCode? with
  | none => exact note_same ..
  | some code => exact (sendClose_same ..).trans (note_same ..)

theorem endBootstrap_same (connection : Connection) (e : ConnectionError) :
    (g.endBootstrap id connection e l).SameBooks (g.turned id [] (l.dismissed e.closeCode?)) := by
  unfold endBootstrap
  dsimp only
  rw [dismiss_fst]
  exact (dismiss_same ..).put ..

theorem cleanup_same (session : SessionId) :
    (g.cleanup id session l).SameBooks (g.turned id [.destroy session] l.ended) := by
  have hdestroy : ∀ g₁ : Gateway, g₁.SameBooks g → ∀ r : Router,
      (g₁.router.destroy session = none → r = g₁.router) →
        (∀ s r₁, g₁.router.destroy session = some (s, r₁) → r = r₁) →
          SameBooks { g₁ with router := r } { g with router := g.router.run [.destroy session] } := by
    intro g₁ h r hnone hsome
    have hrouter := h.router.destroy session
    refine h.withRouter ?_
    show Router.SameBooks _ (g.router.step (.destroy session))
    simp only [Router.step] at hrouter ⊢
    cases hd : g₁.router.destroy session with
    | none =>
      rw [hd] at hrouter
      rw [hnone hd]
      exact hrouter
    | some sr =>
      rw [hd] at hrouter
      rw [hsome sr.1 sr.2 hd]
      exact hrouter
  unfold cleanup
  dsimp only
  split
  · exact (hdestroy _ (note_same ..) _ (fun h => by rw [h]) (fun s r h => by rw [h])).put ..
  · exact (hdestroy g (.refl g) _ (fun h => by rw [h]) (fun s r h => by rw [h])).put ..

theorem endReader_same (svc : Service) (session : SessionId) (code : CloseCode) :
    (g.endReader svc id session code l).SameBooks
      (g.turned id (svc.stopping session code) (l.stopped svc session)) := by
  have hclosed : ∀ {g₁ : Gateway}, g₁.SameBooks g → SameBooks
      { g₁ with router := (g₁.router.closeWith session code).2 }
      { g with router := g.router.step (.close session code) } := fun h =>
    h.withRouter (h.router.closeWith session code)
  unfold endReader Service.stopping Link.stopped
  dsimp only
  split
  · exact (cleanup_same ..).trans ((hclosed (note_same ..)).turned id [.destroy session] l.ended)
  · exact (hclosed (note_same ..)).put ..

theorem violation_same (svc : Service) (session : SessionId) {e : ConnectionError} {code : CloseCode}
    (he : e.closeCode? = some code) :
    (g.violation svc id session e l).SameBooks (g.turned id (svc.stopping session code) (l.stopped svc session)) := by
  unfold violation
  rw [he]
  exact (endReader_same ..).trans ((note_same ..).turned ..)

theorem lose_same (session : SessionId) : (g.lose id session l).SameBooks
    (g.turned id [.destroy session] { l with phase := .ended, bootstrap := l.bootstrap.close }) :=
  (cleanup_same ..).trans ((note_same ..).turned ..)

end Ending

/-! ## A connection, and a session, come to be -/

theorem opened_same (svc : Service) (request : Opening) (peer : Peer) (g : Gateway) :
    (g.opened svc request peer).2.SameBooks
      { g with links := g.links ++ [(g.newId, Link.opened svc g.newId request g.now)] } := by
  unfold opened openOn Link.opened
  cases request.negotiate svc.versions with
  | error fault => exact ⟨rfl, ⟨rfl, rfl⟩, rfl⟩
  | ok granted => exact ⟨rfl, ⟨rfl, rfl⟩, rfl⟩

theorem openOn_cut_same (svc : Service) (request : Opening) (peer : Peer) (g : Gateway) :
    (g.openOn svc request peer .cut).2.SameBooks { g with links := g.links ++ [(g.newId, Link.unreached g.now)] } := by
  unfold openOn Link.unreached
  cases request.negotiate svc.versions with
  | error fault => exact ⟨rfl, ⟨rfl, rfl⟩, rfl⟩
  | ok granted => exact ⟨rfl, ⟨rfl, rfl⟩, rfl⟩

/-- **A connection that begins is put behind the others**, and nothing else is done. -/
theorem step_same_of_added? {svc : Service} {g : Gateway} {x : Step} {l : Link} (h : x.added? svc g = some l) :
    (g.step svc x).SameBooks { g with links := g.links ++ [(g.newId, l)] } := by
  cases x with
  | opened request peer =>
    obtain rfl := Option.some.inj h
    exact opened_same ..
  | unreached request peer =>
    obtain rfl := Option.some.inj h
    exact openOn_cut_same ..
  | _ => cases h

section Creating

variable {svc : Service} {id : ConnectionId} {connection : Connection} {who : Identity} {asked : UInt32} {l : Link}
  {g : Gateway}

theorem createSession_same_of_error {e : ConnectionError}
    (h : g.router.create g.now connection who (.negotiate svc.capabilities asked) = .error e) :
    (g.createSession svc id connection who asked l).SameBooks (g.turned id [] (l.dismissed e.closeCode?)) := by
  unfold createSession
  rw [h]
  exact endBootstrap_same ..

/-- **A new session is told first that it is ready.** -/
theorem createSession_same_of_ok {s : Session} {r : Router}
    (h : g.router.create g.now connection who (.negotiate svc.capabilities asked) = .ok (s, r)) :
    (g.createSession svc id connection who asked l).SameBooks (g.turned id
      [.create g.now connection who (.negotiate svc.capabilities asked), .reply g.now s.id s.ready]
      { l with
        phase := .live s.id (g.now.ticks + svc.settings.heartbeatTimeout.toNat)
        heardAt := g.now.ticks }) := by
  have hcreate : g.router.step (.create g.now connection who (.negotiate svc.capabilities asked)) = r := by
    simp only [Router.step, h]
    rfl
  unfold createSession turned
  rw [h, Router.run, List.foldl_cons, hcreate]
  exact (note_same _ _ _ { g with router := (r.reply g.now s.id s.ready).2 }).put id _

end Creating

/-! ## Commands -/

end Gateway

namespace Router

/-- What a payload from an identified client has the router do. -/
def serving (handler : CommandHandler) (now : Moment) (session : SessionId) (p : Wire.Payload) : Step :=
  match Command.ofPayload p with
  | .ok command => .submit handler now session command
  | .error e => .reply now session (.error e.code e.message p.name)

theorem handle_same (handler : CommandHandler) (now : Moment) (session : SessionId) (p : Wire.Payload) (r : Router) :
    (r.handle handler now session p).2.SameBooks (r.step (serving handler now session p)) := by
  unfold handle serving
  cases Command.ofPayload p with
  | ok command => exact .refl _
  | error e =>
    have hnoted : ∀ {level message details}, (r.note level message details).SameBooks r := ⟨rfl, rfl⟩
    exact hnoted.reply now session (.error e.code e.message p.name)

end Router

namespace Gateway

/-! ## Writing -/

section Writing

theorem sendAll_of_up (encoding : Wire.Encoding) : ∀ (es : List Wire.Envelope) {l : Link}, l.transport = .up →
    sendAll encoding es l = (true, l.said encoding es)
  | [], l, _ => by simp [sendAll, Link.said]
  | e :: es, l, h => by
    have hsend : l.send? (.frame (e.encode encoding)) = some (l.said encoding [e]) := by
      simp [Link.send?, h, Link.said]
    rw [sendAll, hsend]
    refine (sendAll_of_up encoding es (l := l.said encoding [e]) h).trans ?_
    simp [Link.said]

theorem sendAll_of_cut (encoding : Wire.Encoding) (es : List Wire.Envelope) {l : Link} (h : l.transport = .cut) :
    sendAll encoding es l = (es.isEmpty, l) := by
  cases es with
  | nil => rfl
  | cons e es => simp [sendAll, Link.send?, h]

variable {id : ConnectionId} {session : SessionId} {l : Link} {g : Gateway}

theorem endWriter_same :
    (g.endWriter id session l).SameBooks (g.turned id [.destroy session] l.ended) := by
  unfold endWriter
  dsimp only
  split
  · exact (cleanup_same ..).trans ((note_same ..).turned ..)
  · exact cleanup_same ..

theorem write_same (encoding : Wire.Encoding) (out : Outgoing) :
    (g.write id session encoding out l).SameBooks
      (g.turned id (if l.goesOn out then [] else [.destroy session]) (l.written encoding out)) := by
  have hend : ∀ {g₁ : Gateway} {l₁ : Link}, g₁.SameBooks g →
      (g₁.endWriter id session l₁).SameBooks (g.turned id [.destroy session] l₁.ended) := fun h =>
    endWriter_same.trans (h.turned ..)
  unfold write Link.written Link.goesOn
  cases hfinished : out.finished with
  | true => exact hend (.refl g)
  | false =>
    cases htransport : l.transport with
    | up =>
      rw [sendAll_of_up encoding out.envelopes htransport]
      cases hclose : out.close with
      | none => exact .refl _
      | some code =>
        simp only [sendClose_fst]
        exact hend ((sendClose_same ..).trans (note_same ..))
    | cut =>
      rw [sendAll_of_cut encoding out.envelopes htransport]
      cases henvelopes : out.envelopes.isEmpty with
      | false =>
        cases out.close <;> exact hend (note_same ..)
      | true =>
        cases hclose : out.close with
        | none => exact .refl _
        | some code =>
          simp only [sendClose_fst, Link.signedOff_of_cut htransport]
          exact hend ((sendClose_same ..).trans (note_same ..))

theorem flush_same (hl : g.link? id = some l) (hphase : l.phase.session? = some session) {s : Session}
    (hs : g.router.registry.handle? session = some s) {out : Outgoing} (hout : s.nextOutgoing.1 = some out) :
    (g.flush id).SameBooks (g.turned id (.drain session :: if l.goesOn out then [] else [.destroy session])
      (l.written s.connection.encoding out)) := by
  have hnext : g.router.nextOutgoing session = (some out, (g.router.nextOutgoing session).2) :=
    Prod.ext ((Router.nextOutgoing_fst_of_handle? hs).trans hout) rfl
  have hwritten : (write id session s.connection.encoding out l
      { g with router := (g.router.nextOutgoing session).2 }).SameBooks (g.turned id
        (.drain session :: if l.goesOn out then [] else [.destroy session]) (l.written s.connection.encoding out)) :=
    write_same ..
  unfold flush
  rw [hl]
  dsimp only
  cases hp : l.phase <;> rw [hp] at hphase <;> cases hphase <;> dsimp only <;> rw [hs, hnext] <;> exact hwritten

theorem flush_eq_self (hl : g.link? id = some l) (hnothing : ∀ session, l.phase.session? = some session →
    ∀ s, g.router.registry.handle? session = some s → s.nextOutgoing.1 = none) : g.flush id = g := by
  have hnext : ∀ session, l.phase.session? = some session → g.router.registry.handle? session = none ∨
      ∃ s r, g.router.registry.handle? session = some s ∧ g.router.nextOutgoing session = (none, r) := by
    intro session hphase
    cases hs : g.router.registry.handle? session with
    | none => exact .inl rfl
    | some s =>
      refine .inr ⟨s, (g.router.nextOutgoing session).2, rfl, Prod.ext ?_ rfl⟩
      exact (Router.nextOutgoing_fst_of_handle? hs).trans (hnothing session hphase s hs)
  unfold flush
  rw [hl]
  dsimp only
  cases hp : l.phase with
  | live session idleAt =>
    rcases hnext session (by rw [hp]; rfl) with hs | ⟨s, r, hs, hout⟩
    · simp only [hs]
    · simp only [hs, hout]
  | closing session =>
    rcases hnext session (by rw [hp]; rfl) with hs | ⟨s, r, hs, hout⟩
    · simp only [hs]
    · simp only [hs, hout]
  | _ => rfl

end Writing

end Gateway
end EventGateway
