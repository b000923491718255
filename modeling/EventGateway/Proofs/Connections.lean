import EventGateway.Proofs.Exactness
import EventGateway.Proofs.Turns
/-!
# Connections — a connection and its session, from step to step

A gateway is `Orderly` along every run, and as long as the ids fit it is `Sound`: links and sessions belong to each
other, and no session is anybody else's.  So what a step does can be seen from one connection alone: `Passage` lists
what can become of its link and its session, whether the step is its own or somebody else's (`Sound.passage`), and what
holds along every connection is shown one passage at a time.
-/
namespace EventGateway

namespace Wire

/-- What a client may be sent once it knows that it is ready. -/
def Variant.isLater : Variant → Bool
  | .subscribed | .unsubscribed | .heartbeatAck | .error => true
  | v => v.role == .dispatch

def Payload.isLater (p : Payload) : Bool := p.variant.isLater

theorem Payload.isLater_of_isSequenced {p : Payload} (h : p.isSequenced = true) : p.isLater = true := by
  unfold Payload.isSequenced Payload.role at h
  unfold Payload.isLater
  cases hv : p.variant <;> rw [hv] at h <;> first | rfl | cases h

end Wire

/-- What happens to a session while it is served: its client is told something, or it is subscribed to something. -/
def Session.Move.isTalk : Session.Move → Bool
  | .offer .. | .heartbeat _ | .subscribe .. | .unsubscribe _ => true
  | .push _ p => p.isLater
  | .close _ | .drain | .retire => false

theorem Session.Move.isTalk_of_isOffer {m : Session.Move} (h : m.isOffer = true) : m.isTalk = true := by
  cases m <;> first | rfl | cases h

namespace Queue

/-- **What talking does to a queue.**  It grows, and the oldest dispatch may give way; if it comes to be closed, then
for an overflow. -/
structure Talked (q q' : Queue) : Prop where
  shut : q'.shut = q.shut
  items : ∃ more : List Wire.Payload, (∀ p ∈ more, p.isLater = true) ∧
    (q'.items = q.items ++ more ∨ q'.items = q.items.eraseP (·.isSequenced) ++ more)
  close : q'.close = q.close ∨ q.close = none ∧ q'.close = some .backpressureOverflow

theorem Talked.refl (q : Queue) : q.Talked q :=
  ⟨rfl, ⟨[], by simp, .inl (List.append_nil _).symm⟩, .inl rfl⟩

theorem talked_push (q : Queue) (now : Nat) {p : Wire.Payload} (hp : p.isLater = true) :
    q.Talked (q.push now p).2 := by
  have hone : ∀ x ∈ [p], x.isLater = true := fun x hx => by rw [List.mem_singleton.1 hx]; exact hp
  have hopen : q.isClosing = false → q.close = none := fun h => by
    simpa [isClosing] using (Bool.or_eq_false_iff.1 h).1
  generalize hr : q.push now p = r
  have hpushed : Pushed now p q r := hr ▸ pushed now p q
  cases hpushed with
  | closing => exact .refl q
  | control | dispatch => exact ⟨rfl, ⟨[p], hone, .inl rfl⟩, .inl rfl⟩
  | controlRefused h => exact ⟨rfl, (Talked.refl q).items, .inr ⟨hopen h, rfl⟩⟩
  | evicting => exact ⟨rfl, ⟨[p], hone, .inr rfl⟩, .inl rfl⟩
  | dispatchRefused _ h => exact ⟨rfl, (Talked.refl q).items, .inr ⟨hopen h, rfl⟩⟩

end Queue

namespace Session

theorem talked_move (s : Session) {m : Session.Move} (hm : m.isTalk = true) : s.queue.Talked (s.move m).queue := by
  cases m with
  | offer now e =>
    show s.queue.Talked (s.offer now e).queue
    unfold offer
    split
    · exact s.queue.talked_push now (Wire.Payload.isLater_of_isSequenced (isSequenced_payload e))
    · exact .refl _
  | push now p => exact s.queue.talked_push now hm
  | heartbeat now => exact s.queue.talked_push now rfl
  | subscribe => exact .refl _
  | unsubscribe scope =>
    unfold move
    dsimp only
    split <;> exact .refl _
  | _ => cases hm

/-- What every talk keeps is kept by some talk in a row. -/
theorem moves_induction {P : Session → Prop} (hstep : ∀ (s : Session) (m : Session.Move), m.isTalk = true → P s →
    P (s.move m)) {ms : List Session.Move} (hms : ∀ m ∈ ms, m.isTalk = true) {s : Session} (hs : P s) :
    P (ms.foldl Session.move s) := by
  induction ms generalizing s with
  | nil => exact hs
  | cons m ms ih =>
    exact ih (fun x hx => hms x (List.mem_cons_of_mem _ hx)) (hstep s m (hms m List.mem_cons_self) hs)

end Session

namespace Router

/-- **Serving a client is talking to it.** -/
theorem isTalk_of_serving {handler : CommandHandler} {now : Moment} {session : SessionId} {p : Wire.Payload}
    {ms : List Session.Move} (h : (serving handler now session p).Moves session ms) : ∀ m ∈ ms, m.isTalk = true := by
  unfold serving at h
  split at h
  · cases h with
    | untouched => simp
    | acted => exact List.forall_mem_map.2 fun _ _ => rfl
    | _ => simp [Session.Move.isTalk, Wire.Payload.isLater, Wire.Payload.variant, Wire.Variant.isLater]
  · cases h with
    | untouched => simp
    | reply => simp [Session.Move.isTalk, Wire.Payload.isLater, Wire.Payload.variant, Wire.Variant.isLater]

theorem serving_draws (c : Collaborator) (now : Moment) (session : SessionId) (p : Wire.Payload) :
    (serving c.toCommandHandler now session p).Draws := by
  unfold serving
  split
  · exact c.draws
  · trivial

theorem isOf_serving (handler : CommandHandler) (now : Moment) (session id : SessionId) (p : Wire.Payload) :
    (serving handler now session p).isOf id = (session == id) ∧
      ∀ c, (serving handler now session p).isFor c = false := by
  unfold serving
  split <;> exact ⟨rfl, fun _ => rfl⟩

end Router

namespace Gateway

/-! ## Links by their ids -/

theorem lookup_map_put (id : ConnectionId) (l' : Link) (i : ConnectionId) : ∀ links : List (ConnectionId × Link),
    (links.map (fun x => if x.1 = id then (id, l') else x)).lookup i =
      if i = id then (links.lookup i).map (fun _ => l') else links.lookup i
  | [] => by simp
  | (j, l) :: links => by
    rw [List.map_cons, List.lookup_cons, List.lookup_cons, lookup_map_put id l' i links]
    by_cases hj : j = id
    · subst hj
      by_cases hi : i = j
      · simp [hi]
      · have hne : (i == j) = false := by simpa using hi
        simp [hi, hne]
    · simp only [if_neg hj]
      by_cases hij : i = j
      · subst hij
        simp [hj]
      · have hne : (i == j) = false := by simpa using hij
        simp [hne]

theorem link?_turned {g g' : Gateway} {id : ConnectionId} {l l' : Link} {calls : List Router.Step}
    (h : g'.SameBooks (g.turned id calls l')) (hl : g.link? id = some l) (i : ConnectionId) :
    g'.link? i = if i = id then some l' else g.link? i := by
  rw [link?, h.links]
  show (g.links.map (fun x => if x.1 = id then (id, l') else x)).lookup i = _
  rw [lookup_map_put]
  split
  · rename_i hi
    rw [hi, show g.links.lookup id = some l from hl]; rfl
  · rfl

theorem lookup_isSome_iff (id : ConnectionId) : ∀ links : List (ConnectionId × Link),
    (∃ l, links.lookup id = some l) ↔ id ∈ links.map (·.1)
  | [] => by simp
  | (j, l) :: links => by
    rw [List.lookup_cons, List.map_cons, List.mem_cons, ← lookup_isSome_iff id links]
    by_cases hid : id = j
    · simp [hid]
    · have hne : (id == j) = false := by simpa using hid
      simp [hid, hne]

theorem lookup_append_of_not_mem (id : ConnectionId) (l : Link) (i : ConnectionId) :
    ∀ links : List (ConnectionId × Link), id ∉ links.map (·.1) →
      (links ++ [(id, l)]).lookup i = if i = id then some l else links.lookup i
  | [], _ => by
    rw [List.nil_append, List.lookup_cons]
    by_cases hi : i = id
    · simp [hi]
    · have hne : (i == id) = false := by simpa using hi
      simp [hi, hne]
  | (j, l₀) :: links, h => by
    rw [List.map_cons, List.mem_cons, not_or] at h
    rw [List.cons_append, List.lookup_cons, List.lookup_cons, lookup_append_of_not_mem id l i links h.2]
    by_cases hi : i = id
    · subst hi
      have hne : (i == j) = false := by simpa using h.1
      simp [hne]
    · cases i == j <;> simp [hi]

/-! ## Orderly and sound gateways -/

/-- **What every run of a gateway keeps**, whatever ids are given.  Connections are numbered one after the other; the
machine of the first steps stands where the link does; a connection that is in its first steps has no session. -/
structure Orderly (svc : Service) (g : Gateway) : Prop where
  router : g.router.Sound svc.settings.queue
  numbered : g.links.map (·.1) = List.range' 1 g.links.length
  stands : ∀ {id l}, g.link? id = some l → l.Stands id
  held : ∀ {id}, g.router.registry.Holds id → ∃ l, g.link? id = some l ∧ l.phase.isEarly = false

/-- A session that is served belongs to its connection, too. -/
structure Sound (svc : Service) (g : Gateway) : Prop extends Orderly svc g where
  served : ∀ {id l session}, g.link? id = some l → l.phase.session? = some session →
    ∃ s, g.router.registry.handle? session = some s ∧ s.connection.id = id

theorem sound_new (svc : Service) (ids : Generator) (now : Moment) : (new svc ids now).Sound svc := by
  have hnone : ∀ id l, (new svc ids now).link? id ≠ some l := fun id l h => by simp [new, note, link?] at h
  refine ⟨⟨(Router.sound_new ids svc.settings.queue).of_registry rfl, rfl, fun h => absurd h (hnone _ _), fun h => ?_⟩,
    fun h _ => absurd h (hnone _ _)⟩
  simp [new, note, Router.note, Router.new, Registry.new, Registry.Holds] at h

section Orderly

variable {svc : Service} {g : Gateway}

theorem Orderly.keys (hg : g.Orderly svc) : (g.links.map (·.1)).Nodup := by
  rw [hg.numbered]
  exact List.nodup_range'

theorem Orderly.free (hg : g.Orderly svc) {id : ConnectionId} {l : Link} (hl : g.link? id = some l)
    (hearly : l.phase.isEarly = true) : ¬ g.router.registry.Holds id := fun h => by
  obtain ⟨l', hl', hlate⟩ := hg.held h
  rw [hl] at hl'
  rw [← Option.some.inj hl', hearly] at hlate
  cases hlate

/-- Whatever happens on a connection is a turn of it. -/
theorem Orderly.turns (hg : g.Orderly svc) {id : ConnectionId} {l : Link} (hl : g.link? id = some l) {x : Step}
    (hx : x.at? = some id) : Turns svc g id l x (g.causeAt? svc l x) (g.step svc x) :=
  Gateway.turns hg.keys hl (hg.stands hl) (hg.free hl) hx

/-- A connection that is opened next has a number that no other has. -/
theorem Orderly.newId_not_mem (hg : g.Orderly svc) : g.newId ∉ g.links.map (·.1) := by
  rw [hg.numbered, List.mem_range'_1, newId]
  omega

end Orderly

/-! ## Passages -/

/-- **What a step can do to a connection**: to its link and to its session, as far as it matters for what is sent. -/
inductive Passage (svc : Service) (id : ConnectionId) :
    Step → Option Cause → Link → Option Session → Link → Option Session → Prop where
  /-- The link stays where it is, but for a deadline and an answer to a ping; the session is served, or offered what
  others have brought about. -/
  | kept (x : Step) (l l' : Link) (s? : Option Session) (pongs : List Sent) (ms : List Session.Move)
    (hphase : l'.phase = l.phase ∨
      ∃ session idleAt idleAt', l.phase = .live session idleAt ∧ l'.phase = .live session idleAt')
    (hbootstrap : l'.bootstrap = l.bootstrap) (hsent : l'.sent = l.sent ++ pongs)
    (hpongs : ∀ s ∈ pongs, l.isReading = true ∧ ∃ payload, s = .pong payload) (hms : ∀ m ∈ ms, m.isTalk = true) :
    Passage svc id x none l s? l' (s?.map (ms.foldl Session.move))
  | asked (x : Step) (l l' : Link) (connection : Connection) (who : Wire.Identify) (deadline verdictAt : Nat)
    (hphase : l.phase = .identifying connection deadline)
    (hphase' : l'.phase = .authenticating connection who deadline verdictAt)
    (hbootstrap : l'.bootstrap = ⟨.awaitingIdentify, true⟩) (hsent : l'.sent = l.sent) :
    Passage svc id x none l none l' none
  | refused (x : Step) (cause : Cause) (l l' : Link) (closes : List Sent) (hphase : l.phase.isEarly = true)
    (hphase' : l'.phase = .ended) (hsent : l'.sent = l.sent ++ closes)
    (hcloses : closes = [] ∨ ∃ code : CloseCode, closes = [.close code] ∧ cause.number? = some code.number) :
    Passage svc id x (some cause) l none l' none
  | created (l l' : Link) (connection : Connection) (who : Wire.Identify) (deadline verdictAt idleAt : Nat)
    (now : Moment) (identity : Identity) (session : SessionId) (s : Session)
    (hphase : l.phase = .authenticating connection who deadline verdictAt)
    (hphase' : l'.phase = .live session idleAt) (hbootstrap : l'.bootstrap = ⟨.identified, false⟩)
    (hsent : l'.sent = l.sent) (hs : s = .new now session connection identity
      (.negotiate svc.capabilities who.capabilities) svc.settings.queue) :
    Passage svc id (.judged id (.ok identity)) none l none l' (some (s.push now.ticks s.ready).2)
  | stopped (x : Step) (cause : Cause) (code : CloseCode) (l l' : Link) (session : SessionId) (idleAt : Nat)
    (s : Session) (hphase : l.phase = .live session idleAt) (hphase' : l'.phase = .closing session)
    (hsent : l'.sent = l.sent) (hcode : cause.number? = some code.number) (hcause : cause ≠ .overflow) :
    Passage svc id x (some cause) l (some s) l' (some (s.closeWith code).2)
  | ended (x : Step) (cause? : Option Cause) (l l' : Link) (s? : Option Session) (session : SessionId)
    (hphase : l.phase.session? = some session) (hphase' : l'.phase = .ended) (hsent : l'.sent = l.sent) :
    Passage svc id x cause? l s? l' none
  | wrote (l l' : Link) (session : SessionId) (s : Session) (out : Outgoing)
    (hphase : l.phase.session? = some session) (hphase' : l'.phase = l.phase) (hbootstrap : l'.bootstrap = l.bootstrap)
    (hout : s.nextOutgoing.1 = some out) (hclose : out.close = none)
    (hsent : l'.sent = l.sent ++ out.envelopes.map (fun e => .frame (e.encode s.connection.encoding))) :
    Passage svc id (.flush id) none l (some s) l' (some s.nextOutgoing.2)
  | signedOff (l l' : Link) (session : SessionId) (s : Session) (out : Outgoing) (code : CloseCode)
    (hphase : l.phase.session? = some session) (hphase' : l'.phase = .ended) (hout : s.nextOutgoing.1 = some out)
    (hclose : out.close = some code) (hsent : l'.sent =
      l.sent ++ out.envelopes.map (fun e => .frame (e.encode s.connection.encoding)) ++ [.close code]) :
    Passage svc id (.flush id) none l (some s) l' none

section Passage

variable {svc : Service} {g g' : Gateway} {id : ConnectionId} {l l' : Link} {x : Step} {cause? : Option Cause}
  {calls : List Router.Step}

theorem session?_turned (h : g'.SameBooks (g.turned id calls l')) (l₁ : Link) :
    g'.session? l₁ = l₁.phase.session?.bind (g.router.run calls).registry.handle? := by
  rw [session?, h.router.registry]
  rfl

theorem session?_of_phase {session : SessionId} (hphase : l.phase.session? = some session) :
    g.session? l = g.router.registry.handle? session := by
  rw [session?, hphase]
  rfl

theorem session?_of_isEarly (h : l.phase.isEarly = true) : g.session? l = none := by
  rw [session?, Phase.session?_of_isEarly h]
  rfl

theorem Link.dismissed_cases (code? : Option CloseCode) (l : Link) : (l.dismissed code?).phase = .ended ∧
    ∃ closes : List Sent, (l.dismissed code?).sent = l.sent ++ closes ∧
      (closes = [] ∨ ∃ code, code? = some code ∧ closes = [.close code]) := by
  cases code? with
  | none => exact ⟨rfl, [], (List.append_nil _).symm, .inl rfl⟩
  | some code =>
    cases htransport : l.transport with
    | up =>
      have hsigned : l.dismissed (some code) = { l.ended with sent := l.sent ++ [.close code] } :=
        Link.signedOff_of_up (l := l.ended) htransport code
      rw [hsigned]
      exact ⟨rfl, _, rfl, .inr ⟨code, rfl, rfl⟩⟩
    | cut =>
      have hsigned : l.dismissed (some code) = l.ended := Link.signedOff_of_cut (l := l.ended) htransport code
      rw [hsigned]
      exact ⟨rfl, [], (List.append_nil _).symm, .inl rfl⟩

/-- What is known of a new session. -/
theorem create_spec (hg : g.Sound svc) {now : Moment} {connection : Connection} {identity : Identity}
    {capabilities : Wire.Capabilities} {s : Session} {r : Router}
    (h : g.router.create now connection identity capabilities = .ok (s, r)) :
    g.router.step (.create now connection identity capabilities) = r ∧
      s = .new now s.id connection identity capabilities svc.settings.queue ∧
      g.router.begins s.id (.create now connection identity capabilities) = true ∧
      r.registry.handle? s.id = some s := by
  have hcreate := Router.create_ok h
  obtain ⟨session, _, hs, -⟩ := Registry.create_ok hcreate
  refine ⟨by simp only [Router.step, h]; rfl, ?_, by simp [Router.begins, h, Except.toOption], ?_⟩
  · rw [hs, ← hg.router.queue_eq]; rfl
  · exact (Registry.handle?_create hcreate s.id).trans (if_pos rfl)

/-- **Nobody is known by the id of a new session.** -/
theorem create_fresh (hg : g.Sound svc) {now : Moment} {connection : Connection} {identity : Identity}
    {capabilities : Wire.Capabilities} {s : Session} {r : Router} {p : Wire.Payload}
    (h : g.router.create now connection identity capabilities = .ok (s, r))
    (hfits : (g.router.run [.create now connection identity capabilities, .reply now s.id p]).registry.ids.Fits) :
    g.router.registry.handle? s.id = none := by
  obtain ⟨hstep, -, hbegins, -⟩ := create_spec hg h
  have hlater : r.registry.ids.Fits := by
    refine Generator.Fits.mono hfits ?_
    rw [Router.run, List.foldl_cons, hstep]
    exact (Router.run_keeps (r := r) [.reply now s.id p] (by simp [Router.Step.Draws])).2
  exact hg.router.fresh hbegins (by rw [hstep]; exact hlater)

theorem Turn.passage (hturn : Turn svc g id l x cause? calls l') (hg : g.Sound svc) (hl : g.link? id = some l)
    (h : g'.SameBooks (g.turned id calls l')) (hfits : g'.router.registry.ids.Fits) :
    Passage svc id x cause? l (g.session? l) l' (g'.session? l') := by
  have hsession := session?_turned h
  have hfits : (g.router.run calls).registry.ids.Fits := by rw [h.router.registry] at hfits; exact hfits
  have hkept : ∀ {l₁ : Link} {pongs : List Sent}, calls = [] → l₁.phase.session? = l.phase.session? →
      (l₁.phase = l.phase ∨
        ∃ session idleAt idleAt', l.phase = .live session idleAt ∧ l₁.phase = .live session idleAt') →
      l₁.bootstrap = l.bootstrap → l₁.sent = l.sent ++ pongs →
      (∀ s ∈ pongs, l.isReading = true ∧ ∃ payload, s = .pong payload) →
      Passage svc id x none l (g.session? l) l₁ (g'.session? l₁) := by
    intro l₁ pongs hcalls hsame hphase hbootstrap hsent hpongs
    have hs : g'.session? l₁ = (g.session? l).map ([].foldl Session.move) := by
      rw [hsession, hcalls, hsame]
      exact (Option.map_id_apply).symm
    rw [hs]
    exact .kept x l l₁ _ pongs [] hphase hbootstrap hsent hpongs (by simp)
  cases hturn with
  | idle => exact hkept rfl rfl (.inl rfl) rfl (List.append_nil _).symm (by simp)
  | arrived => exact hkept rfl rfl (.inl rfl) rfl (List.append_nil _).symm (by simp)
  | cut => exact hkept rfl rfl (.inl rfl) rfl (List.append_nil _).symm (by simp)
  | skipped c connection deadline inbox pongs hphase hpongs => exact hkept rfl rfl (.inl rfl) rfl rfl hpongs
  | heard c session idleAt idleAt' heardAt inbox pongs hphase hpongs =>
    exact hkept rfl (by rw [hphase]; rfl) (.inr ⟨session, idleAt, idleAt', hphase, rfl⟩) rfl rfl hpongs
  | asked c connection deadline verdictAt who inbox hphase =>
    rw [session?_of_isEarly (by rw [hphase]; rfl), session?_of_isEarly rfl]
    exact .asked _ l _ connection who deadline verdictAt hphase rfl rfl rfl
  | refused x cause code? bootstrap inbox hphase hcode =>
    obtain ⟨hended, closes, hsent, hcloses⟩ := Link.dismissed_cases code? { l with bootstrap, inbox }
    rw [session?_of_isEarly hphase, session?, hended]
    refine .refused x cause l _ closes hphase hended hsent ?_
    rcases hcloses with hnil | ⟨code, rfl, hclose⟩
    · exact .inl hnil
    · exact .inr ⟨code, hclose, hcode⟩
  | created connection who deadline verdictAt idleAt identity s r hphase hcreate =>
    obtain ⟨hstep, hs, -, hhandle⟩ := create_spec hg hcreate
    have hafter : g'.session? { l with
        bootstrap := ⟨.identified, false⟩
        phase := .live s.id idleAt
        heardAt := g.now.ticks } = some (s.push g.now.ticks s.ready).2 := by
      have hr : r.registry.Consistent := by
        rw [← hstep]
        exact (hg.router.step (by trivial)).consistent
      rw [hsession, Phase.session?, Option.bind_some, Router.run, List.foldl_cons, hstep]
      refine (Router.handle?_reply hr g.now s.id s.ready s.id).trans ?_
      rw [if_pos rfl, hhandle]
      rfl
    rw [session?_of_isEarly (by rw [hphase]; rfl), hafter]
    exact .created l _ connection who deadline verdictAt idleAt g.now identity s.id s hphase rfl rfl rfl hs
  | served c session idleAt idleAt' heardAt p inbox hphase hp =>
    obtain ⟨s, hs, -⟩ := hg.served hl (show l.phase.session? = some session by rw [hphase]; rfl)
    obtain ⟨ms, hms, hs'⟩ := hg.router.moves hs hfits
    have hafter : g'.session? { l with phase := .live session idleAt', heardAt, inbox } =
        (g.session? l).map (ms.foldl Session.move) := by
      rw [session?_of_phase (show l.phase.session? = some session by rw [hphase]; rfl), hs, hsession]
      exact hs'
    rw [hafter]
    exact .kept _ l _ _ [] ms (.inr ⟨session, idleAt, idleAt', hphase, rfl⟩) rfl (List.append_nil _).symm (by simp)
      (Router.isTalk_of_serving hms)
  | stopped x cause code session idleAt heardAt bootstrap inbox hphase hcode hcause =>
    obtain ⟨s, hs, -⟩ := hg.served hl (show l.phase.session? = some session by rw [hphase]; rfl)
    rw [session?_of_phase (show l.phase.session? = some session by rw [hphase]; rfl), hs, hsession]
    unfold Link.stopped Service.stopping
    split
    · exact .ended x _ l _ _ session (by rw [hphase]; rfl) rfl rfl
    · have hafter : ((g.router.run [.close session code]).registry.handle? session) = some (s.closeWith code).2 := by
        refine (Router.handle?_closeWith hg.router.consistent session code session).trans ?_
        rw [if_pos rfl, hs]
        rfl
      rw [Phase.session?, Option.bind_some, hafter]
      exact .stopped x cause code l _ session idleAt s hphase rfl rfl hcode hcause
  | left x cause? session calls heardAt bootstrap inbox hphase hcalls =>
    exact .ended x _ l _ _ session hphase rfl rfl
  | wrote session s out hphase hs hout hclose =>
    have hafter : ((g.router.run [.drain session]).registry.handle? session) = some s.nextOutgoing.2 := by
      refine (Router.handle?_nextOutgoing hg.router.consistent session session).trans ?_
      rw [if_pos rfl, hs]
      rfl
    have hphase' : (l.said s.connection.encoding out.envelopes).phase = l.phase := rfl
    rw [session?_of_phase hphase, hs, hsession, hphase', hphase, Option.bind_some, hafter]
    exact .wrote l _ session s out hphase rfl rfl hout hclose rfl
  | signedOff session s out code hphase hs hout hclose htransport =>
    rw [session?_of_phase hphase, hs]
    refine .signedOff l _ session s out code hphase rfl hout hclose ?_
    rw [Link.signedOff_of_up (l := l.said s.connection.encoding out.envelopes) htransport]
    rfl

/-! ### What a passage keeps -/

/-- The machine goes on standing where the link does. -/
theorem Turn.stands (h : Turn svc g id l x cause? calls l') (hl : l.Stands id) : l'.Stands id := by
  have hended : l'.phase = .ended → l'.Stands id := fun hphase => by rw [Link.Stands, hphase]; trivial
  cases h with
  | idle | arrived | cut | skipped | wrote => exact hl
  | asked _ _ _ _ _ _ hphase => exact ⟨(hl.identifying hphase).1, rfl⟩
  | refused => exact hended (Link.dismissed_cases _ _).1
  | created => rfl
  | heard _ _ _ _ _ _ _ hphase => exact hl.live hphase
  | served _ _ _ _ _ _ _ hphase => exact hl.live hphase
  | stopped =>
    unfold Link.Stands Link.stopped
    dsimp only
    by_cases hgrace : svc.settings.closeGrace = 0 <;> simp [hgrace]
  | left | signedOff => exact hended rfl

/-- A connection that has left its first steps behind has left them for good. -/
theorem Turn.isEarly_eq_false (h : Turn svc g id l x cause? calls l') (hl : l.phase.isEarly = false) :
    l'.phase.isEarly = false := by
  cases h with
  | idle | arrived | cut | skipped | wrote => exact hl
  | asked _ _ _ _ _ _ hphase => rw [hphase] at hl; cases hl
  | refused => rw [(Link.dismissed_cases _ _).1]; rfl
  | created | heard | served | left | signedOff => rfl
  | stopped => unfold Link.stopped; split <;> rfl

/-- The session that is served goes on being that of the connection. -/
theorem Passage.served {s? s'? : Option Session} (h : Passage svc id x cause? l s? l' s'?) (hstands : l.Stands id)
    (hl : ∀ session, l.phase.session? = some session → ∃ s, s? = some s ∧ s.connection.id = id) {session : SessionId}
    (hsession : l'.phase.session? = some session) : ∃ s', s'? = some s' ∧ s'.connection.id = id := by
  have hdrained : ∀ s : Session, s.nextOutgoing.2.connection = s.connection := Session.connection_moves [.drain]
  cases h with
  | kept _ _ _ _ pongs ms hphase =>
    have hsame : l.phase.session? = some session := by
      rcases hphase with hphase | ⟨i, idleAt, idleAt', hphase, hphase'⟩
      · rw [← hphase]; exact hsession
      · rw [hphase'] at hsession
        rw [hphase]; exact hsession
    obtain ⟨s, rfl, hs⟩ := hl session hsame
    exact ⟨_, rfl, by rw [Session.connection_moves]; exact hs⟩
  | asked _ _ _ _ _ _ _ _ hphase' => rw [hphase'] at hsession; cases hsession
  | refused _ _ _ _ _ _ hphase' => rw [hphase'] at hsession; cases hsession
  | created _ _ _ _ _ _ _ _ _ _ s hphase _ _ _ hs =>
    exact ⟨_, rfl, by rw [hs]; exact (hstands.authenticating hphase).1⟩
  | stopped _ _ _ _ _ i _ s hphase =>
    obtain ⟨_, hs, hconnection⟩ := hl i (by rw [hphase]; rfl)
    obtain rfl := Option.some.inj hs
    exact ⟨_, rfl, hconnection⟩
  | ended _ _ _ _ _ _ _ hphase' => rw [hphase'] at hsession; cases hsession
  | wrote _ _ i s out hphase =>
    obtain ⟨_, hs, hconnection⟩ := hl i hphase
    exact ⟨_, rfl, by rw [hdrained, Option.some.inj hs]; exact hconnection⟩
  | signedOff _ _ _ _ _ _ _ hphase' => rw [hphase'] at hsession; cases hsession

end Passage

/-! ## The others -/

section Others

variable {svc : Service} {g g' : Gateway} {id : ConnectionId} {l l' : Link} {x : Step} {cause? : Option Cause}
  {calls : List Router.Step}

/-- The calls of a turn take ids and do nothing else to the generator. -/
theorem Turn.draws (h : Turn svc g id l x cause? calls l') : ∀ y ∈ calls, y.Draws := by
  have hdrained : ∀ y : Router.Step, (∃ session, y = .drain session ∨ y = .destroy session) → y.Draws := by
    rintro y ⟨session, rfl | rfl⟩ <;> trivial
  cases h with
  | served c session _ _ _ p =>
    intro y hy
    rw [List.mem_singleton.1 hy]
    exact Router.serving_draws c g.now session p
  | created => simp [Router.Step.Draws]
  | stopped =>
    intro y hy
    unfold Service.stopping at hy
    split at hy <;> simp only [List.mem_cons, List.not_mem_nil, or_false] at hy
    · rcases hy with rfl | rfl <;> trivial
    · rw [hy]; trivial
  | left _ _ session calls _ _ _ _ hcalls => exact fun y hy => hdrained y ⟨session, hcalls y hy⟩
  | _ => simp [Router.Step.Draws]

/-- **A turn gives a session to no connection but its own.** -/
theorem Turn.isFor (h : Turn svc g id l x cause? calls l') (hstands : l.Stands id) {c : ConnectionId}
    {y : Router.Step} (hy : y ∈ calls) (hc : y.isFor c = true) : c = id ∧ l'.phase.isEarly = false := by
  cases h with
  | served collaborator session _ _ _ p =>
    rw [List.mem_singleton.1 hy, (Router.isOf_serving _ _ _ session p).2 c] at hc
    cases hc
  | created connection who deadline verdictAt idleAt identity s r hphase =>
    simp only [List.mem_cons, List.not_mem_nil, or_false] at hy
    rcases hy with rfl | rfl
    · have hconnection : connection.id = c := by simpa [Router.Step.isFor] using hc
      exact ⟨hconnection.symm.trans (hstands.authenticating hphase).1, rfl⟩
    · cases hc
  | stopped =>
    unfold Service.stopping at hy
    split at hy <;> simp only [List.mem_cons, List.not_mem_nil, or_false] at hy
    · rcases hy with rfl | rfl <;> cases hc
    · rw [hy] at hc; cases hc
  | left _ _ session calls _ _ _ _ hcalls => rcases hcalls y hy with rfl | rfl <;> cases hc
  | wrote => rw [List.mem_singleton.1 hy] at hc; cases hc
  | signedOff =>
    simp only [List.mem_cons, List.not_mem_nil, or_false] at hy
    rcases hy with rfl | rfl <;> cases hc
  | _ => cases hy

/-- **A turn is about no session but its own**, or one that nobody has been served by. -/
theorem Turn.isOf (h : Turn svc g id l x cause? calls l') (hg : g.Sound svc)
    (hfits : (g.router.run calls).registry.ids.Fits) {session : SessionId} (hother : l.phase.session? ≠ some session)
    {s : Session} (hs : g.router.registry.handle? session = some s) : ∀ y ∈ calls, y.isOf session = false := by
  have hne : ∀ {i : SessionId}, l.phase.session? = some i → (i == session) = false := fun hi => by
    refine beq_eq_false_iff_ne.2 fun he => hother ?_
    rw [hi, he]
  intro y hy
  cases h with
  | served collaborator i _ _ _ p _ hphase =>
    rw [List.mem_singleton.1 hy, (Router.isOf_serving _ _ i session p).1]
    exact hne (by rw [hphase]; rfl)
  | created connection who deadline verdictAt idleAt identity s₁ r hphase hcreate =>
    simp only [List.mem_cons, List.not_mem_nil, or_false] at hy
    rcases hy with rfl | rfl
    · rfl
    · have hfresh := create_fresh hg hcreate hfits
      refine beq_eq_false_iff_ne.2 fun he => ?_
      rw [he, hs] at hfresh
      cases hfresh
  | stopped _ _ _ i _ _ _ _ hphase =>
    have hi := hne (show l.phase.session? = some i by rw [hphase]; rfl)
    unfold Service.stopping at hy
    split at hy <;> simp only [List.mem_cons, List.not_mem_nil, or_false] at hy
    · rcases hy with rfl | rfl <;> exact hi
    · rw [hy]; exact hi
  | left _ _ i calls _ _ _ hphase hcalls => rcases hcalls y hy with rfl | rfl <;> exact hne hphase
  | wrote i _ _ hphase => rw [List.mem_singleton.1 hy]; exact hne hphase
  | signedOff i _ _ _ hphase =>
    simp only [List.mem_cons, List.not_mem_nil, or_false] at hy
    rcases hy with rfl | rfl <;> exact hne hphase
  | _ => cases hy

/-- A link that nothing happens to, and its session that is offered something. -/
theorem passage_offered {i : ConnectionId} {s? s'? : Option Session} (ms : List Session.Move)
    (h : s'? = s?.map (ms.foldl Session.move)) (hms : ∀ m ∈ ms, m.isOffer = true) :
    Passage svc i x none l s? l s'? := by
  rw [h]
  exact .kept x l l s? [] ms (.inl rfl) rfl (List.append_nil _).symm (by simp)
    (fun m hm => Session.Move.isTalk_of_isOffer (hms m hm))

/-- **What happens on one connection only offers events to the others.** -/
theorem Turn.others (h : Turn svc g id l x cause? calls l') (hg : g.Sound svc) (hl : g.link? id = some l)
    (hsame : g'.SameBooks (g.turned id calls l')) (hfits : g'.router.registry.ids.Fits) {i : ConnectionId}
    (hi : i ≠ id) {l₀ : Link} (hl₀ : g.link? i = some l₀) :
    g'.link? i = some l₀ ∧ Passage svc i x none l₀ (g.session? l₀) l₀ (g'.session? l₀) := by
  have hfits : (g.router.run calls).registry.ids.Fits := by rw [hsame.router.registry] at hfits; exact hfits
  refine ⟨by rw [link?_turned hsame hl, if_neg hi]; exact hl₀, ?_⟩
  rw [session?_turned hsame]
  cases hsession : l₀.phase.session? with
  | none =>
    rw [session?, hsession]
    exact passage_offered [] rfl (by simp)
  | some session =>
    obtain ⟨s, hs, hconnection⟩ := hg.served hl₀ hsession
    have hother : l.phase.session? ≠ some session := fun hmine => by
      obtain ⟨s', hs', hconnection'⟩ := hg.served hl hmine
      rw [hs] at hs'
      rw [← Option.some.inj hs', hconnection] at hconnection'
      exact hi hconnection'
    obtain ⟨ms, hms, hafter⟩ := hg.router.offered h.draws (h.isOf hg hfits hother hs) hfits hs
    rw [session?_of_phase hsession, hs, Option.bind_some, hafter]
    exact passage_offered ms rfl hms

end Others

/-! ## Every step is a passage of every connection -/

section Steps

variable {svc : Service} {g : Gateway}

/-- Why a step ends a connection, overflows aside: for nothing that happens on another one. -/
def cause? (svc : Service) (g : Gateway) (i : ConnectionId) (l : Link) (x : Step) : Option Cause :=
  if x.at? = some i then g.causeAt? svc l x else none

/-- Nothing happens on a connection that there is not. -/
theorem step_eq_self {x : Step} {id : ConnectionId} (hx : x.at? = some id) (hl : g.link? id = none) :
    g.step svc x = g := by
  cases x <;> cases hx <;>
    simp only [step, arrive, Gateway.cut, read, judged, expire, lapse, flush, hl]

theorem Orderly.link?_added (hg : g.Orderly svc) {x : Step} {l : Link} (h : x.added? svc g = some l)
    (i : ConnectionId) : (g.step svc x).link? i = if i = g.newId then some l else g.link? i := by
  rw [link?, (step_same_of_added? h).links]
  exact lookup_append_of_not_mem _ _ _ _ hg.newId_not_mem

theorem session?_of_added? {x : Step} {l₀ : Link} (h : x.added? svc g = some l₀) (l : Link) :
    (g.step svc x).session? l = g.session? l := by
  rw [session?, (step_same_of_added? h).router.registry]
  rfl

/-- Nobody has a connection that is still to begin. -/
theorem Orderly.link?_newId (hg : g.Orderly svc) : g.link? g.newId = none :=
  Option.eq_none_iff_forall_ne_some.2 fun l hl => hg.newId_not_mem ((lookup_isSome_iff _ _).1 ⟨l, hl⟩)

/-- **What happens elsewhere leaves a link as it is.** -/
theorem Orderly.link?_elsewhere (hg : g.Orderly svc) {x : Step} {i : ConnectionId} {l : Link} (hx : x.at? ≠ some i)
    (hl : g.link? i = some l) : (g.step svc x).link? i = some l := by
  cases hat : x.at? with
  | some id =>
    have hi : i ≠ id := fun he => hx (he ▸ hat)
    cases hlink : g.link? id with
    | none => rwa [step_eq_self hat hlink]
    | some l₀ =>
      obtain ⟨calls, l₁, -, -, hsame⟩ := hg.turns hlink hat
      rwa [link?_turned hsame hlink, if_neg hi]
  | none =>
    cases x with
    | opened | unreached =>
      rw [hg.link?_added rfl, if_neg]
      · exact hl
      · rintro rfl
        rw [hg.link?_newId] at hl
        cases hl
    | publish e => exact hl
    | pass now => exact hl
    | _ => cases hat

/-- **What a step does to a connection is a passage of it.** -/
theorem Sound.passage (hg : g.Sound svc) (x : Step) (hfits : (g.step svc x).router.registry.ids.Fits)
    {i : ConnectionId} {l : Link} (hl : g.link? i = some l) : ∃ l', (g.step svc x).link? i = some l' ∧
      Passage svc i x (g.cause? svc i l x) l (g.session? l) l' ((g.step svc x).session? l') := by
  have hunmoved : Passage svc i x none l (g.session? l) l (g.session? l) :=
    passage_offered [] (Option.map_id_apply).symm (by simp)
  cases hx : x.at? with
  | some id =>
    cases hlink : g.link? id with
    | none =>
      have hne : i ≠ id := fun he => by rw [he, hlink] at hl; cases hl
      rw [step_eq_self hx hlink, cause?, hx, if_neg (fun he => hne (Option.some.inj he).symm)]
      exact ⟨l, hl, hunmoved⟩
    | some l₀ =>
      obtain ⟨calls, l₁, hturn, -, hsame⟩ := hg.turns hlink hx
      by_cases hi : i = id
      · subst hi
        rw [hlink] at hl
        obtain rfl := Option.some.inj hl
        rw [cause?, if_pos hx]
        exact ⟨l₁, by rw [link?_turned hsame hlink, if_pos rfl], hturn.passage hg hlink hsame hfits⟩
      · obtain ⟨hl', hpassage⟩ := hturn.others hg hlink hsame hfits hi hl
        rw [cause?, hx, if_neg (fun he => hi (Option.some.inj he).symm)]
        exact ⟨l, hl', hpassage⟩
  | none =>
    rw [cause?, hx, if_neg (by simp)]
    cases x with
    | opened | unreached =>
      refine ⟨l, hg.link?_elsewhere (by simp [Step.at?]) hl, ?_⟩
      rw [session?_of_added? rfl]
      exact hunmoved
    | publish e =>
      refine ⟨l, hl, passage_offered [.offer g.now.ticks e] ?_ (by simp [Session.Move.isOffer])⟩
      show l.phase.session?.bind (g.router.publish g.now e).2.registry.handle? = _
      rw [session?]
      cases l.phase.session? with
      | none => rfl
      | some session => exact Router.handle?_publish g.now e hg.router.consistent session
    | pass now => exact ⟨l, hl, hunmoved⟩
    | _ => cases hx

/-- **What a step is made of**: calls to the router, and on each connection a turn, or nothing. -/
theorem Orderly.calls (hg : g.Orderly svc) (x : Step) : ∃ calls, (∀ y ∈ calls, y.Draws) ∧
    (g.step svc x).router.registry = (g.router.run calls).registry ∧
      (∀ y ∈ calls, ∀ c, y.isFor c = true → ∃ l', (g.step svc x).link? c = some l' ∧ l'.phase.isEarly = false) ∧
      (∀ i l, g.link? i = some l → ∃ l', (g.step svc x).link? i = some l' ∧
        (l.Stands i → l'.Stands i) ∧ (l.phase.isEarly = false → l'.phase.isEarly = false)) := by
  have helsewhere : ∀ i l, x.at? ≠ some i → g.link? i = some l → ∃ l', (g.step svc x).link? i = some l' ∧
      (l.Stands i → l'.Stands i) ∧ (l.phase.isEarly = false → l'.phase.isEarly = false) :=
    fun i l hi hl => ⟨l, hg.link?_elsewhere hi hl, id, id⟩
  cases hx : x.at? with
  | some id =>
    cases hlink : g.link? id with
    | none =>
      refine ⟨[], by simp, by rw [step_eq_self hx hlink]; rfl, by simp, fun i l hl => helsewhere i l ?_ hl⟩
      rintro hi
      rw [Option.some.inj (hx.symm.trans hi), hl] at hlink
      cases hlink
    | some l =>
      obtain ⟨calls, l', hturn, -, hbooks⟩ := hg.turns hlink hx
      have hl' : (g.step svc x).link? id = some l' := by rw [link?_turned hbooks hlink, if_pos rfl]
      refine ⟨calls, hturn.draws, hbooks.router.registry, fun y hy c hc => ?_, fun i l₀ hl₀ => ?_⟩
      · obtain ⟨rfl, hlate⟩ := hturn.isFor (hg.stands hlink) hy hc
        exact ⟨l', hl', hlate⟩
      · by_cases hi : i = id
        · subst hi
          rw [hlink] at hl₀
          obtain rfl := Option.some.inj hl₀
          exact ⟨l', hl', hturn.stands, hturn.isEarly_eq_false⟩
        · exact helsewhere i l₀ (fun he => hi (Option.some.inj (hx.symm.trans he)).symm) hl₀
  | none =>
    have hlinks : ∀ i l, g.link? i = some l → ∃ l', (g.step svc x).link? i = some l' ∧
        (l.Stands i → l'.Stands i) ∧ (l.phase.isEarly = false → l'.phase.isEarly = false) :=
      fun i l hl => helsewhere i l (by rw [hx]; simp) hl
    cases x with
    | opened | unreached => exact ⟨[], by simp, (step_same_of_added? rfl).router.registry, by simp, hlinks⟩
    | publish e =>
      exact ⟨[.publish g.now e], by simp [Router.Step.Draws], rfl, by simp [Router.Step.isFor], hlinks⟩
    | pass now => exact ⟨[], by simp, rfl, by simp, hlinks⟩
    | _ => cases hx

/-- The connections that there are, and one that begins, are numbered alike. -/
theorem Orderly.numbered_step (hg : g.Orderly svc) (x : Step) :
    (g.step svc x).links.map (·.1) = List.range' 1 (g.step svc x).links.length ∧
      ∀ i l', (g.step svc x).link? i = some l' → (∃ l, g.link? i = some l) ∨
        i = g.newId ∧ x.added? svc g = some l' := by
  have hkept : ∀ {g' : Gateway}, g'.links.map (·.1) = g.links.map (·.1) →
      g'.links.map (·.1) = List.range' 1 g'.links.length ∧
        ∀ i l', g'.link? i = some l' → (∃ l, g.link? i = some l) ∨
          i = g.newId ∧ x.added? svc g = some l' := by
    intro g' h
    have hlength : g'.links.length = g.links.length := by
      simpa using congrArg List.length h
    refine ⟨by rw [h, hlength]; exact hg.numbered, fun i l' hl' => .inl ?_⟩
    refine (lookup_isSome_iff i g.links).2 ?_
    rw [← h]
    exact (lookup_isSome_iff i g'.links).1 ⟨l', hl'⟩
  cases hx : x.at? with
  | some id =>
    cases hlink : g.link? id with
    | none => rw [step_eq_self hx hlink]; exact hkept rfl
    | some l₀ =>
      obtain ⟨calls, l₁, -, -, hsame⟩ := hg.turns hlink hx
      refine hkept ?_
      rw [hsame.links]
      show List.map (·.1) (g.links.map fun x => if x.1 = id then (id, l₁) else x) = _
      rw [List.map_map]
      refine List.map_congr_left fun y _ => ?_
      by_cases hy : y.1 = id <;> simp [hy]
  | none =>
    cases x with
    | opened | unreached =>
      refine ⟨?_, fun i l' hl' => ?_⟩
      · rw [(step_same_of_added? rfl).links, List.map_append, List.length_append, hg.numbered,
          List.range'_append_1.symm]
        simp [newId, Nat.add_comm]
      · rw [hg.link?_added rfl] at hl'
        split at hl'
        · rename_i hi
          exact .inr ⟨hi, hl'⟩
        · exact .inl ⟨l', hl'⟩
    | publish e => exact hkept rfl
    | pass now => exact hkept rfl
    | _ => cases hx

/-- A connection that begins is in its first steps, or over already. -/
theorem added_early {x : Step} {l : Link} (h : x.added? svc g = some l) :
    l.Stands g.newId ∧ l.phase.session? = none := by
  cases x with
  | opened request peer =>
    obtain rfl := Option.some.inj h
    unfold Link.opened
    split <;> simp [Link.Stands, Phase.session?]
  | unreached request peer =>
    obtain rfl := Option.some.inj h
    exact ⟨trivial, rfl⟩
  | _ => cases h

/-- **Every step leaves an orderly gateway**, and the clock of the generator goes forward. -/
theorem Orderly.step (hg : g.Orderly svc) (x : Step) : (g.step svc x).Orderly svc ∧
    g.router.registry.ids.time ≤ (g.step svc x).router.registry.ids.time := by
  obtain ⟨calls, hdraws, hregistry, hfor, hlinks⟩ := hg.calls x
  obtain ⟨hnumbered, hbefore⟩ := hg.numbered_step x
  have hkeeps := Router.run_keeps (r := g.router) calls hdraws
  refine ⟨⟨(hg.router.run calls hdraws).of_registry hregistry, hnumbered, fun hl' => ?_, fun {c} hholds => ?_⟩,
    by rw [hregistry]; exact hkeeps.2⟩
  · rcases hbefore _ _ hl' with ⟨l, hl⟩ | ⟨rfl, hadded⟩
    · obtain ⟨l₁, hl₁, hstands, -⟩ := hlinks _ _ hl
      rw [hl'] at hl₁
      rw [Option.some.inj hl₁]
      exact hstands (hg.stands hl)
    · exact (added_early hadded).1
  · rw [hregistry] at hholds
    rcases hkeeps.1 c hholds with hheld | ⟨y, hy, hc⟩
    · obtain ⟨l, hl, hlate⟩ := hg.held hheld
      obtain ⟨l', hl', -, hlate'⟩ := hlinks _ _ hl
      exact ⟨l', hl', hlate' hlate⟩
    · exact hfor y hy c hc

/-- A sound gateway stays sound as long as the ids fit. -/
theorem Sound.step (hg : g.Sound svc) (x : Step) (hfits : (g.step svc x).router.registry.ids.Fits) :
    (g.step svc x).Sound svc := by
  refine ⟨(hg.toOrderly.step x).1, fun hl' hsession => ?_⟩
  rcases (hg.numbered_step x).2 _ _ hl' with ⟨l, hl⟩ | ⟨rfl, hadded⟩
  · obtain ⟨l₁, hl₁, hpassage⟩ := hg.passage x hfits hl
    rw [hl'] at hl₁
    obtain rfl := Option.some.inj hl₁
    obtain ⟨s, hs, hconnection⟩ := hpassage.served (hg.stands hl)
      (fun session h => by rw [session?_of_phase h]; exact hg.served hl h) hsession
    exact ⟨s, (session?_of_phase hsession).symm.trans hs, hconnection⟩
  · rw [(added_early hadded).2] at hsession
    cases hsession

/-! ## Runs -/

theorem run_append (svc : Service) (g : Gateway) (xs ys : List Step) :
    g.run svc (xs ++ ys) = (g.run svc xs).run svc ys := List.foldl_append

theorem run_cons (svc : Service) (g : Gateway) (x : Step) (xs : List Step) :
    g.run svc (x :: xs) = (g.step svc x).run svc xs := rfl

theorem Orderly.time_le (hg : g.Orderly svc) (xs : List Step) :
    g.router.registry.ids.time ≤ (g.run svc xs).router.registry.ids.time := by
  induction xs generalizing g with
  | nil => exact Nat.le_refl _
  | cons x xs ih => exact Nat.le_trans (hg.step x).2 (ih (hg.step x).1)

/-- If the ids fit at last, they have fit all along. -/
theorem Orderly.fits_step (hg : g.Orderly svc) {x : Step} {xs : List Step}
    (hfits : (g.run svc (x :: xs)).router.registry.ids.Fits) : (g.step svc x).router.registry.ids.Fits :=
  Generator.Fits.mono hfits ((hg.step x).1.time_le xs)

theorem Sound.run (hg : g.Sound svc) (xs : List Step) (hfits : (g.run svc xs).router.registry.ids.Fits) :
    (g.run svc xs).Sound svc := by
  induction xs generalizing g with
  | nil => exact hg
  | cons x xs ih => exact ih (hg.step x (hg.fits_step hfits)) hfits

theorem Orderly.run (hg : g.Orderly svc) (xs : List Step) : (g.run svc xs).Orderly svc := by
  induction xs generalizing g with
  | nil => exact hg
  | cons x xs ih => exact ih (hg.step x).1

/-- What is done with the machine of a connection in the course of some steps. -/
def history (svc : Service) (id : ConnectionId) : List Step → Gateway → List Bootstrap.Call
  | [], _ => []
  | x :: xs, g =>
    (if x.at? = some id then (g.link? id).elim [] (·.machineCalls svc.settings.maxFrameBytes.toNat x) else []) ++
      history svc id xs (g.step svc x)

theorem Orderly.bootstrap_step (hg : g.Orderly svc) (x : Step) {id : ConnectionId} {l : Link}
    (hl : g.link? id = some l) : ∃ l', (g.step svc x).link? id = some l' ∧
      l'.bootstrap = l.bootstrap.run
        (if x.at? = some id then l.machineCalls svc.settings.maxFrameBytes.toNat x else []) := by
  by_cases hx : x.at? = some id
  · obtain ⟨calls, l', -, hbootstrap, hsame⟩ := hg.turns hl hx
    rw [if_pos hx]
    exact ⟨l', by rw [link?_turned hsame hl, if_pos rfl], hbootstrap⟩
  · rw [if_neg hx]
    exact ⟨l, hg.link?_elsewhere hx hl, rfl⟩

/-- **The machine of a connection is what its history has made of it.** -/
theorem Orderly.bootstrap_run (hg : g.Orderly svc) (xs : List Step) {id : ConnectionId} {l : Link}
    (hl : g.link? id = some l) : ∃ l', (g.run svc xs).link? id = some l' ∧
      l'.bootstrap = l.bootstrap.run (history svc id xs g) := by
  induction xs generalizing g l with
  | nil => exact ⟨l, hl, rfl⟩
  | cons x xs ih =>
    obtain ⟨l₁, hl₁, hbootstrap₁⟩ := hg.bootstrap_step x hl
    obtain ⟨l', hl', hbootstrap'⟩ := ih (hg.step x).1 hl₁
    refine ⟨l', hl', ?_⟩
    rw [hbootstrap', hbootstrap₁, history, hl, Bootstrap.run, Bootstrap.run, Bootstrap.run, List.foldl_append]
    rfl

/-- **A connection begins** with a link of its own, in a gateway that is sound before and after. -/
theorem run_added (svc : Service) (ids : Generator) (now : Moment) (before after : List Step) {x : Step} {l : Link}
    (hx : x.added? svc ((new svc ids now).run svc before) = some l)
    (hfits : ((new svc ids now).run svc (before ++ x :: after)).router.registry.ids.Fits) :
    let g := (new svc ids now).run svc before
    g.Sound svc ∧ (g.step svc x).Sound svc ∧ (g.step svc x).link? g.newId = some l ∧
      (new svc ids now).run svc (before ++ x :: after) = (g.step svc x).run svc after := by
  intro g
  have hrun := run_append svc (new svc ids now) before (x :: after)
  rw [hrun] at hfits ⊢
  have horderly : g.Orderly svc := (sound_new svc ids now).toOrderly.run before
  have hg : g.Sound svc := (sound_new svc ids now).run before (Generator.Fits.mono hfits (horderly.time_le _))
  refine ⟨hg, hg.step _ (hg.fits_step hfits), ?_, run_cons ..⟩
  rw [hg.link?_added hx, if_pos rfl]

end Steps

end Gateway
end EventGateway
