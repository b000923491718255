import EventGateway.Proofs.Grammar
/-!
# Endings — with which code a connection ends, and for which cause

Causes are recorded as they come up, from what happens on a connection and from its queue.  The first one stands: later
ones find the connection closing already, so the code on the close frame is that of the first (`Standing`, kept by every
passage).  The machine of the first steps is only ever fed what it has an answer for, so no connection ends for an
unknown cause.
-/
namespace EventGateway

/-- The next step that the gateway looks for after an input. -/
def Phase.expects : Phase → Bootstrap.Input → Bootstrap.Step → Bool
  | .identifying .., .frame _, .authenticate _ => true
  | .authenticating .., .authenticated _, .createSession _ => true
  | .live .., .frame _, .dispatch _ => true
  | .identifying .., .disconnected, .closed | .live .., .disconnected, .closed => true
  | _, _, _ => false

/-- An answer of the machine that the gateway can do something with: a step that it looks for, or an error other than
that the input has no place where the machine stands. -/
def Phase.Takes (phase : Phase) (input : Bootstrap.Input) : Except ConnectionError Bootstrap.Step → Prop
  | .ok step => phase.expects input step = true
  | .error e => ∀ state text, e ≠ .invalidTransition state text

namespace Link

variable {id : ConnectionId} {l : Link} {limit : Nat} {x : Gateway.Step} {input : Bootstrap.Input}

/-- What the machine can be fed where the link stands. -/
theorem feed_cases (h : .feed input ∈ l.machineCalls limit x) :
    (l.isReading = true ∧ (input = .disconnected ∨ ∃ p, input = .frame p)) ∨
      (l.phase.isAuthenticating = true ∧
        ((∃ who, input = .authenticated who) ∨ ∃ reason, input = .authRejected reason)) ∨
      (l.phase.lateness?.isSome = true ∧ input = .timedOut) := by
  cases x with
  | read i c =>
    left
    rw [machineCalls] at h
    split at h
    · rename_i hreading
      refine ⟨hreading, ?_⟩
      cases hhead : l.inbox.head? with
      | none => rw [hhead] at h; cases h
      | some m =>
        rw [hhead, Option.elim_some] at h
        unfold machineCallsOf at h
        repeat' split at h
        all_goals simp_all
    · cases h
  | judged i answer =>
    right; left
    cases answer <;> rw [machineCalls] at h <;> split at h <;> simp_all
  | expire i =>
    right; right
    rw [machineCalls] at h
    split at h <;> simp_all
  | _ => cases h

/-- **The machine is never out of step with the gateway**: whatever it is fed, the gateway can do something with the
answer. -/
theorem Stands.takes (hl : l.Stands id) (hfeed : .feed input ∈ l.machineCalls limit x) :
    l.phase.Takes input (l.bootstrap.advance input).1 := by
  -- A frame is answered as the gateway expects, or refused as a violation of the protocol.
  have hframe : ∀ p : Wire.Payload, input = .frame p → l.bootstrap.state ≠ .closed →
      (∀ who, l.bootstrap = ⟨.awaitingIdentify, false⟩ → l.phase.expects input (.authenticate who) = true) →
      (l.bootstrap.state = .identified → l.phase.expects input (.dispatch p) = true) →
      l.phase.Takes input (l.bootstrap.advance input).1 := by
    rintro p rfl hb hidentify hcommand
    have hadvanced := Bootstrap.advanced l.bootstrap (.frame p)
    generalize hresult : l.bootstrap.advance (.frame p) = result at hadvanced
    cases hadvanced with
    | asked who h => exact hidentify who h
    | commanded _ h => exact hcommand h
    | refused _ e =>
      rintro state text rfl
      cases Bootstrap.closeCode?_of_refused hb hresult
  rcases feed_cases hfeed with ⟨hreading, hinput⟩ | ⟨hverdict, hinput⟩ | ⟨hlate, rfl⟩
  · cases hphase : l.phase with
    | identifying connection deadline =>
      have hb := (hl.identifying hphase).2
      rw [hphase] at hframe
      rcases hinput with rfl | ⟨p, rfl⟩
      · exact rfl
      · exact hframe p rfl (by rw [hb]; simp) (fun _ _ => rfl) (fun h => by rw [hb] at h; cases h)
    | live session idleAt =>
      have hb := hl.live hphase
      rw [hphase] at hframe
      rcases hinput with rfl | ⟨p, rfl⟩
      · exact rfl
      · exact hframe p rfl (by rw [hb]; simp) (fun _ h => by rw [hb] at h; cases h) (fun _ => rfl)
    | authenticating | closing | ended => rw [isReading, hphase] at hreading; cases hreading
  · cases hphase : l.phase with
    | authenticating connection who deadline verdictAt =>
      rw [(hl.authenticating hphase).2]
      rcases hinput with ⟨identity, rfl⟩ | ⟨reason, rfl⟩
      · exact rfl
      · exact fun _ _ h => by cases h
    | identifying | live | closing | ended => rw [hphase] at hverdict; cases hverdict
  · cases hphase : l.phase with
    | identifying connection deadline =>
      rw [(hl.identifying hphase).2]
      exact fun _ _ h => by cases h
    | authenticating connection who deadline verdictAt =>
      rw [(hl.authenticating hphase).2]
      exact fun _ _ h => by cases h
    | live session idleAt =>
      rw [hl.live hphase]
      exact fun _ _ h => by cases h
    | closing | ended => rw [hphase] at hlate; cases hlate

end Link

namespace Queue

/-- **The first code stands.** -/
theorem closeWith_close (q : Queue) (code : CloseCode) (hshut : q.shut = false) :
    (q.closeWith code).2.close = some (q.close.getD code) := by
  unfold closeWith isClosing
  cases hclose : q.close <;> simp [hclose, hshut]

end Queue

namespace Gateway

/-- The code that is handed over is the one that was recorded. -/
theorem close_of_nextOutgoing {s : Session} {out : Outgoing} {code : CloseCode} (hout : s.nextOutgoing.1 = some out)
    (hcode : out.close = some code) : s.queue.close = some code := by
  obtain ⟨-, rfl | ⟨hclose, -⟩⟩ := nextOutgoing_cases hout
  · cases hcode
  · rw [hclose] at hcode
    split at hcode
    · cases hcode
    · exact hcode

/-! ## The causes of one connection -/

/-- The queue of a session has come to be closed for an overflow. -/
def overflowed (s? s'? : Option Session) : Bool :=
  s?.any (·.queue.close.isNone) && s'?.any (·.queue.close == some .backpressureOverflow)

/-- What a passage adds to the causes. -/
def passageCauses (cause? : Option Cause) (s? s'? : Option Session) : List Cause :=
  cause?.toList ++ if overflowed s? s'? then [.overflow] else []

/-- **The causes that come up in a step** for a connection, one that is opened by it included. -/
def causes (svc : Service) (g : Gateway) (id : ConnectionId) (x : Step) : List Cause :=
  match g.link? id, x with
  | some l, _ => passageCauses (g.cause? svc id l x) (g.session? l)
      (((g.step svc x).link? id).bind (g.step svc x).session?)
  | none, .opened request _ => if id = g.newId then (request.refusal? svc.versions).toList else []
  | none, .unreached request _ => if id = g.newId then [(request.refusal? svc.versions).getD .lost] else []
  | none, _ => []

/-- The causes that are recorded along some steps, in their order. -/
def recorded (svc : Service) (id : ConnectionId) : List Step → Gateway → List Cause
  | [], _ => []
  | x :: xs, g => g.causes svc id x ++ recorded svc id xs (g.step svc x)

/-- The cause that was recorded first has this code. -/
def Tells (cs : List Cause) (code : CloseCode) : Prop := ∃ c rest, cs = c :: rest ∧ c.number? = some code.number

theorem Tells.append {cs : List Cause} {code : CloseCode} (h : Tells cs code) (more : List Cause) :
    Tells (cs ++ more) code := by
  obtain ⟨c, rest, rfl, hc⟩ := h
  exact ⟨c, rest ++ more, rfl, hc⟩

/-- No close frame has been sent. -/
def Unclosed (l : Link) : Prop := ∀ code, Sent.close code ∉ l.sent

/-- **How the causes so far stand to the link**: none before there is a session; then the first one decides with which
code the queue is closed, and in the end what the close frame says. -/
inductive Standing (cs : List Cause) (l : Link) (s? : Option Session) : Prop where
  | early (hphase : l.phase.isEarly = true) (hs : s? = none) (hcauses : cs = []) (hunclosed : Unclosed l)
  | serving (session : SessionId) (idleAt : Nat) (s : Session) (hphase : l.phase = .live session idleAt)
    (hs : s? = some s) (hshut : s.queue.shut = false) (hcauses : cs = []) (hclose : s.queue.close = none)
    (hunclosed : Unclosed l)
  | closing (session : SessionId) (s : Session) (code : CloseCode) (hphase : l.phase.session? = some session)
    (hs : s? = some s) (hshut : s.queue.shut = false) (hclose : s.queue.close = some code) (htells : Tells cs code)
    (hunclosed : Unclosed l)
  | ended (hphase : l.phase = .ended) (htells : ∀ code, .close code ∈ l.sent → Tells cs code)

section Standing

variable {svc : Service} {id : ConnectionId} {x : Step} {cause? : Option Cause} {l l' : Link} {s? s'? : Option Session}
  {cs : List Cause}

theorem Unclosed.append (h : Unclosed l) {more : List Sent} (hsent : l'.sent = l.sent ++ more)
    (hmore : ∀ s ∈ more, ∀ code, s ≠ .close code) : Unclosed l' := by
  intro code hmem
  rw [hsent, List.mem_append] at hmem
  exact hmem.elim (h code) fun hmem => hmore _ hmem code rfl

theorem Unclosed.same (h : Unclosed l) (hsent : l'.sent = l.sent) : Unclosed l' := fun code => by
  rw [hsent]
  exact h code

theorem unclosed_frames (encoding : Wire.Encoding) (es : List Wire.Envelope) :
    ∀ s ∈ encoding.frames es, ∀ code, s ≠ .close code := by
  intro s hs code
  obtain ⟨e, -, rfl⟩ := List.mem_map.1 hs
  simp

/-- Before there is a session, nothing has come up. -/
theorem Standing.of_early (h : Standing cs l s?) (hearly : l.phase.isEarly = true) :
    s? = none ∧ cs = [] ∧ Unclosed l := by
  cases h with
  | early _ hs hcauses hunclosed => exact ⟨hs, hcauses, hunclosed⟩
  | serving i t s hlive => rw [hlive] at hearly; cases hearly
  | closing i s code hsession => rw [Phase.session?_of_isEarly hearly] at hsession; cases hsession
  | ended hended => rw [hended] at hearly; cases hearly

/-- The queue of a session is closed with the code of the first cause, or nothing has come up. -/
theorem Standing.of_session (h : Standing cs l s?) {session : SessionId} (hphase : l.phase.session? = some session) :
    ∃ s, s? = some s ∧ s.queue.shut = false ∧ Unclosed l ∧
      ((s.queue.close = none ∧ cs = [] ∧ ∃ idleAt, l.phase = .live session idleAt) ∨
        ∃ code, s.queue.close = some code ∧ Tells cs code) := by
  cases h with
  | early hearly => rw [Phase.session?_of_isEarly hearly] at hphase; cases hphase
  | serving i idleAt s hlive hs hshut hcauses hclose hunclosed =>
    rw [hlive] at hphase
    cases hphase
    exact ⟨s, hs, hshut, hunclosed, .inl ⟨hclose, hcauses, idleAt, hlive⟩⟩
  | closing i s code _ hs hshut hclose htells hunclosed =>
    exact ⟨s, hs, hshut, hunclosed, .inr ⟨code, hclose, htells⟩⟩
  | ended hended => rw [hended] at hphase; cases hphase

/-- What becomes of a link whose session is served, or is closing, and goes on being so. -/
theorem Standing.goesOn (h : Standing cs l s?) {session : SessionId} (hphase : l.phase.session? = some session)
    (hphase' : l'.phase = l.phase ∨ ∃ i t t', l.phase = .live i t ∧ l'.phase = .live i t')
    (hunclosed' : Unclosed l → Unclosed l')
    (hs' : ∀ s, s? = some s → ∃ s', s'? = some s' ∧ s'.queue.shut = s.queue.shut ∧
      (s'.queue.close = s.queue.close ∨ s.queue.close = none ∧ s'.queue.close = some .backpressureOverflow)) :
    Standing (cs ++ passageCauses none s? s'?) l' s'? := by
  have hsession' : l'.phase.session? = some session := by
    rcases hphase' with h | ⟨_, _, _, h, h'⟩
    · rw [h, hphase]
    · rw [h']
      rw [h] at hphase
      exact hphase
  obtain ⟨s, hs, hshut, hunclosed, hfirst⟩ := h.of_session hphase
  obtain ⟨s', hs', hshut', hclose'⟩ := hs' s hs
  replace hshut' := hshut'.trans hshut
  rcases hfirst with ⟨hnone, hcauses, idleAt, hlive⟩ | ⟨code, hcode, htells⟩
  · rcases hclose' with hclose' | ⟨-, hclose'⟩
    · have hlive' : ∃ t, l'.phase = .live session t := by
        rcases hphase' with h | ⟨_, _, t', h, h'⟩
        · exact ⟨idleAt, h.trans hlive⟩
        · rw [h] at hlive; cases hlive; exact ⟨t', h'⟩
      obtain ⟨t, hlive'⟩ := hlive'
      refine .serving session t s' hlive' hs' hshut' ?_ (hclose'.trans hnone) (hunclosed' hunclosed)
      simp [hcauses, passageCauses, overflowed, hs', hclose', hnone]
    · refine .closing session s' _ hsession' hs' hshut' hclose' ?_ (hunclosed' hunclosed)
      exact ⟨.overflow, [], by simp [hcauses, passageCauses, overflowed, hs, hs', hclose', hnone], rfl⟩
  · refine .closing session s' code hsession' hs' hshut' ?_ (htells.append _) (hunclosed' hunclosed)
    rcases hclose' with hclose' | ⟨hnone, -⟩
    · exact hclose'.trans hcode
    · rw [hcode] at hnone; cases hnone

/-- Talking closes a queue for an overflow, if at all. -/
theorem close_moves (s : Session) {ms : List Session.Move} (hms : ∀ m ∈ ms, m.isTalk = true) :
    (ms.foldl Session.move s).queue.shut = s.queue.shut ∧ ((ms.foldl Session.move s).queue.close = s.queue.close ∨
      s.queue.close = none ∧ (ms.foldl Session.move s).queue.close = some .backpressureOverflow) := by
  refine Session.moves_induction (P := fun s' => s'.queue.shut = s.queue.shut ∧ (s'.queue.close = s.queue.close ∨
    s.queue.close = none ∧ s'.queue.close = some .backpressureOverflow)) (fun s' m hm h => ?_) hms ⟨rfl, .inl rfl⟩
  have htalked := s'.talked_move hm
  refine ⟨htalked.shut.trans h.1, ?_⟩
  rcases htalked.close with hclose | ⟨hnone, hclose⟩
  · rw [hclose]; exact h.2
  · rcases h.2 with hsame | ⟨-, hover⟩
    · exact .inr ⟨hsame.symm.trans hnone, hclose⟩
    · rw [hover] at hnone; cases hnone

/-- **Every passage keeps the first cause first**, and sends no code but its own. -/
theorem Passage.standing (h : Passage svc id x cause? l s? l' s'?) (hstanding : Standing cs l s?) :
    Standing (cs ++ passageCauses cause? s? s'?) l' s'? := by
  have hofEnded := h.of_ended
  cases h with
  | kept _ _ _ _ pongs ms hphase _ hsent hpongs hms =>
    have hpong : ∀ s ∈ pongs, ∀ code, s ≠ .close code := fun s hs code => by
      obtain ⟨-, payload, rfl⟩ := hpongs s hs
      simp
    cases hsession : l.phase.session? with
    | some session =>
      refine hstanding.goesOn hsession hphase (fun h => h.append hsent hpong) fun s hs => ?_
      exact ⟨ms.foldl Session.move s, by rw [hs]; rfl, close_moves s hms⟩
    | none =>
      cases hstanding with
      | early hearly hs hcauses hunclosed =>
        subst hs
        refine .early ?_ rfl (by rw [hcauses]; rfl) (hunclosed.append hsent hpong)
        rcases hphase with hphase | ⟨_, _, _, hphase, -⟩
        · rw [hphase]; exact hearly
        · rw [hphase] at hearly; cases hearly
      | serving i t s hlive => rw [hlive] at hsession; cases hsession
      | closing i s code hphase' => rw [hphase'] at hsession; cases hsession
      | ended hended htells =>
        obtain ⟨hended', hsame⟩ := hofEnded hended
        exact .ended hended' fun code hmem => (htells code (hsame ▸ hmem)).append _
  | asked _ _ _ _ _ _ _ hphase hphase' _ hsent =>
    obtain ⟨-, hcauses, hunclosed⟩ := hstanding.of_early (by rw [hphase]; rfl)
    exact .early (by rw [hphase']; rfl) rfl (by rw [hcauses]; rfl) (hunclosed.same hsent)
  | refused _ cause _ _ closes hearly hphase' hsent hcloses =>
    obtain ⟨-, hcauses, hunclosed⟩ := hstanding.of_early hearly
    refine .ended hphase' fun code hmem => ?_
    rw [hsent, List.mem_append] at hmem
    rcases hcloses with rfl | ⟨code', rfl, hcode⟩
    · exact absurd (hmem.resolve_right (by simp)) (hunclosed code)
    · cases List.mem_singleton.1 (hmem.resolve_left (hunclosed code))
      exact ⟨cause, [], by rw [hcauses]; rfl, hcode⟩
  | created _ _ connection who _ _ idleAt now identity session s hphase hphase' _ hsent hs =>
    obtain ⟨-, hcauses, hunclosed⟩ := hstanding.of_early (by rw [hphase]; rfl)
    obtain ⟨hwaits, hclose⟩ := Session.waits_ready now session connection identity
      (.negotiate svc.capabilities who.capabilities) svc.settings
    rw [← hs] at hwaits hclose
    exact .serving session idleAt _ hphase' rfl hwaits.1 (by rw [hcauses]; rfl) hclose (hunclosed.same hsent)
  | stopped _ cause code _ _ session idleAt s hphase hphase' hsent hcode =>
    obtain ⟨s₁, hs₁, hopen, hunclosed, hfirst⟩ :=
      hstanding.of_session (show l.phase.session? = some session by rw [hphase]; rfl)
    obtain rfl := Option.some.inj hs₁
    have hshut : (s.closeWith code).2.queue.shut = s.queue.shut := (s.queue.closeWith_items code).2
    have hclose : (s.closeWith code).2.queue.close = some (s.queue.close.getD code) :=
      s.queue.closeWith_close code hopen
    -- A code that was recorded before stands.
    rcases hfirst with ⟨hnone, hcauses, -⟩ | ⟨code', hcode', htells⟩
    · refine .closing session _ code (by rw [hphase']; rfl) rfl (hshut.trans hopen) ?_ ?_ (hunclosed.same hsent)
      · rw [hclose, hnone]; rfl
      · exact ⟨cause, _, by rw [hcauses]; rfl, hcode⟩
    · refine .closing session _ code' (by rw [hphase']; rfl) rfl (hshut.trans hopen) ?_ (htells.append _)
        (hunclosed.same hsent)
      rw [hclose, hcode']; rfl
  | ended _ cause? _ _ _ session hphase hphase' hsent =>
    obtain ⟨-, -, -, hunclosed, -⟩ := hstanding.of_session hphase
    exact .ended hphase' fun code hmem => absurd (hsent ▸ hmem) (hunclosed code)
  | wrote _ _ session s out hphase hphase' _ hout hclose hsent =>
    refine hstanding.goesOn hphase (.inl hphase') (fun h => h.append hsent (unclosed_frames _ _)) fun s₁ hs₁ => ?_
    obtain rfl := Option.some.inj hs₁
    refine ⟨_, rfl, ?_, .inl ?_⟩
    · rw [s.nextOutgoing_queue, s.queue.drain_shut]
    · rw [s.nextOutgoing_queue, s.queue.drain_close]
  | signedOff _ _ session s out code hphase hphase' hout hcode hsent =>
    obtain ⟨s₁, hs₁, -, hunclosed, hfirst⟩ := hstanding.of_session hphase
    obtain rfl := Option.some.inj hs₁
    have hclose := close_of_nextOutgoing hout hcode
    rcases hfirst with ⟨hnone, -⟩ | ⟨code', hcode', htells⟩
    · rw [hclose] at hnone; cases hnone
    · rw [hclose] at hcode'
      obtain rfl := Option.some.inj hcode'
      refine .ended hphase' fun code' hmem => ?_
      rw [hsent, List.append_assoc, List.mem_append, List.mem_append] at hmem
      rcases hmem with hmem | hmem | hmem
      · exact absurd hmem (hunclosed code')
      · exact absurd rfl (unclosed_frames _ _ _ hmem code')
      · cases List.mem_singleton.1 hmem
        exact htells.append _

end Standing

/-! ## Whole connections -/

section Runs

variable {svc : Service} {g : Gateway} {id : ConnectionId} {l : Link} {cs : List Cause}

theorem causes_of_link? (hl : g.link? id = some l) {x : Step} {l' : Link} (hl' : (g.step svc x).link? id = some l') :
    g.causes svc id x = passageCauses (g.cause? svc id l x) (g.session? l) ((g.step svc x).session? l') := by
  unfold causes
  rw [hl, hl']
  rfl

theorem Sound.standing_run (hg : g.Sound svc) (xs : List Step) (hfits : (g.run svc xs).router.registry.ids.Fits)
    (hl : g.link? id = some l) (h : Standing cs l (g.session? l)) : ∃ l', (g.run svc xs).link? id = some l' ∧
      Standing (cs ++ recorded svc id xs g) l' ((g.run svc xs).session? l') := by
  induction xs generalizing g l cs with
  | nil => exact ⟨l, hl, by rw [recorded, List.append_nil]; exact h⟩
  | cons x xs ih =>
    have hfits' := hg.fits_step hfits
    obtain ⟨l₁, hl₁, hpassage⟩ := hg.passage x hfits' hl
    obtain ⟨l', hl', h'⟩ := ih (hg.step x hfits') hfits hl₁ (hpassage.standing h)
    rw [← causes_of_link? hl hl₁, List.append_assoc] at h'
    exact ⟨l', hl', h'⟩

/-- A request is refused for one of two causes, which its code tells. -/
theorem refusal?_of_negotiate (request : Opening) (versions : Wire.VersionSet) :
    match request.negotiate versions with
    | .error fault => ∃ c, request.refusal? versions = some c ∧ c.number? = some fault.closeCode.number
    | .ok _ => request.refusal? versions = none := by
  unfold Opening.negotiate Opening.refusal?
  cases hencoding : Wire.Encoding.ofQuery request.encoding with
  | error fault => exact ⟨.unknownEncoding, rfl, by rw [Wire.ofQuery_faults _ _ hencoding]; rfl⟩
  | ok encoding =>
    cases hversion : versions.resolve request.version with
    | error fault => exact ⟨.unsuitableVersion, rfl, by rw [Wire.resolve_faults _ _ _ hversion]; rfl⟩
    | ok version => rfl

/-- How a connection begins. -/
theorem standing_opened (svc : Service) (id : ConnectionId) (request : Opening) (now : Moment) :
    Standing (request.refusal? svc.versions).toList (Link.opened svc id request now) none := by
  have hrefusal := refusal?_of_negotiate request svc.versions
  unfold Link.opened
  cases hnegotiate : request.negotiate svc.versions with
  | error fault =>
    rw [hnegotiate] at hrefusal
    obtain ⟨c, hc, hnumber⟩ := hrefusal
    refine .ended rfl fun code hmem => ?_
    cases List.mem_singleton.1 hmem
    exact ⟨c, [], by rw [hc]; rfl, hnumber⟩
  | ok granted =>
    rw [hnegotiate] at hrefusal
    exact .early rfl rfl (by rw [hrefusal]; rfl) fun code hmem => by cases List.mem_singleton.1 hmem

/-- **A command does not end the connection**, whatever it says and whatever the collaborator makes of it; only the
reply to it may find no room. -/
theorem Sound.command_goes_on (hg : g.Sound svc) (hl : g.link? id = some l) (c : Collaborator) {session : SessionId}
    {idleAt : Nat} {f : Wire.Frame} {inbox : List Inbound} {p : Wire.Payload} (hphase : l.phase = .live session idleAt)
    (hinbox : l.inbox = .message (.frame f) :: inbox) (hdecode : f.decode svc.settings.maxFrameBytes.toNat = .ok p)
    (hp : p.role = .command) : (∀ cause ∈ g.causes svc id (.read id c), cause = .overflow) ∧
      ∃ l' idleAt', (g.step svc (.read id c)).link? id = some l' ∧ l'.phase = .live session idleAt' ∧
        l'.bootstrap = l.bootstrap ∧ l'.sent = l.sent := by
  have hb := (hg.stands hl).live hphase
  have hread := read_of_command c.toCommandHandler hl hphase hinbox hdecode hp hb
  have hlink : (g.step svc (.read id c)).link? id = some _ := (link?_turned hread hl id).trans (if_pos rfl)
  have hcause : g.cause? svc id l (.read id c) = none := by
    refine (if_pos rfl).trans ?_
    rw [causeAt?, Link.readComplaint?, if_pos (by simp [Link.isReading, hphase]), hinbox]
    show l.complaint? _ (.message (.frame f)) = none
    rw [Link.complaint?, hdecode]
    dsimp only
    rw [hphase, Phase.objection?, if_pos hp]
  refine ⟨fun cause hmem => ?_, _, _, hlink, rfl, rfl, rfl⟩
  rw [causes_of_link? hl hlink, hcause, passageCauses, Option.toList_none, List.nil_append] at hmem
  split at hmem
  · exact List.mem_singleton.1 hmem
  · cases hmem

end Runs

/-- **Every ending has the code of its cause.**  At each point of each connection: a close frame that has been sent
tells the cause that was recorded first, and never that the cause is unknown; a command leaves the connection as it is,
unless the queue overflows; and whatever comes next, the machine of the first steps takes it, with an answer that the
gateway looks for, or with an error other than that it has no place. -/
theorem close_tells_first_cause (svc : Service) (ids : Generator) (now : Moment) (before after : List Step)
    (request : Opening) (peer : Peer)
    (fits : ((new svc ids now).run svc (before ++ .opened request peer :: after)).router.registry.ids.Fits) :
    let start := (new svc ids now).run svc before
    let id := start.newId
    let g := (new svc ids now).run svc (before ++ .opened request peer :: after)
    let limit := svc.settings.maxFrameBytes.toNat
    ∃ l, g.link? id = some l ∧
      (∀ code, .close code ∈ l.sent → code ≠ .unknownError ∧
        ∃ c, (recorded svc id (.opened request peer :: after) start).head? = some c ∧ c.number? = some code.number) ∧
      (∀ (c : Collaborator) session idleAt f inbox p, l.phase = .live session idleAt →
        l.inbox = .message (.frame f) :: inbox → f.decode limit = .ok p → p.role = .command →
          (∀ cause ∈ g.causes svc id (.read id c), cause = .overflow) ∧
            ∃ l' idleAt', (g.step svc (.read id c)).link? id = some l' ∧ l'.phase = .live session idleAt' ∧
              l'.bootstrap = l.bootstrap ∧ l'.sent = l.sent) ∧
      (∀ x : Step, x.at? = some id →
        (∃ l', (g.step svc x).link? id = some l' ∧ l'.bootstrap = l.bootstrap.run (l.machineCalls limit x)) ∧
          ∀ input, .feed input ∈ l.machineCalls limit x → l.phase.Takes input (l.bootstrap.advance input).1) := by
  intro start id g limit
  obtain ⟨hstart, hg', hlink, hrun⟩ := run_added svc ids now before after rfl fits
  have hg : g.Sound svc := (sound_new svc ids now).run _ fits
  have hopened : start.causes svc id (.opened request peer) = (request.refusal? svc.versions).toList := by
    unfold causes
    rw [show start.link? id = none from hstart.link?_newId]
    exact if_pos rfl
  have hadded : (Step.opened request peer).added? svc start = some (Link.opened svc id request start.now) := rfl
  have hsession : (start.step svc (.opened request peer)).session? (Link.opened svc id request start.now) = none := by
    rw [session?, (added_early hadded).2]
    rfl
  obtain ⟨l, hl, hstanding⟩ := hg'.standing_run after (hrun ▸ fits) hlink
    (hsession ▸ standing_opened svc id request start.now)
  have hl : g.link? id = some l := by rw [show g = _ from hrun]; exact hl
  refine ⟨l, hl, fun code hmem => ?_, fun c session idleAt f inbox p => hg.command_goes_on hl c, fun x hx => ⟨?_, ?_⟩⟩
  · cases hstanding with
    | early _ _ _ hunclosed | serving _ _ _ _ _ _ _ _ hunclosed | closing _ _ _ _ _ _ _ _ hunclosed =>
      exact absurd hmem (hunclosed code)
    | ended _ htells =>
      obtain ⟨c, rest, hcs, hc⟩ := htells code hmem
      refine ⟨?_, c, ?_, hc⟩
      · rintro rfl
        cases c <;> cases hc
      · rw [recorded, hopened, show start.step svc (.opened request peer) = _ from rfl, hcs]
        rfl
  · have hstep := hg.bootstrap_step x hl
    rwa [if_pos hx] at hstep
  · exact fun input hfeed => (hg.stands hl).takes hfeed

/-- A queue overflows, and then the client sends a second Identify: the close frame tells of the overflow. -/
theorem close_tells_first_cause_overflowed :
    let svc : Service := ⟨{ Settings.standard with queueCapacity := 1, overflowPolicy := .disconnect },
      ⟨[⟨2, 0⟩], by decide⟩, .all, .table [], 0, LocalChannels.handler ⟨[]⟩⟩
    let reading := Step.read 1 (LocalChannels.collaborator ⟨[]⟩)
    let sends (p : Wire.Payload) := Step.arrive 1 (.frame ((Wire.Envelope.unsequenced p).encode .protobuf))
    let after := [sends (.identify ⟨"t", 7, ""⟩), reading, .judged 1 (.ok ⟨⟨7⟩, ""⟩), sends (.subscribe "user:5" 0),
      reading, .publish (.presenceUpdated ⟨5⟩ .online), .publish (.presenceUpdated ⟨5⟩ .idle),
      sends (.identify ⟨"t", 7, ""⟩), reading, .flush 1]
    let before := [Step.pass ⟨1, 1⟩]
    let g := (new svc ⟨1, 0, 0⟩ ⟨0, 0⟩).run svc (before ++ .opened ⟨none, none⟩ ⟨"", none⟩ :: after)
    let causes := recorded svc 1 (.opened ⟨none, none⟩ ⟨"", none⟩ :: after) ((new svc ⟨1, 0, 0⟩ ⟨0, 0⟩).run svc before)
    g.router.registry.ids.Fits ∧ causes = [.overflow, .misplaced] ∧ ∃ l, g.link? 1 = some l ∧
      l.sent.getLast? = some (.close .backpressureOverflow) ∧
        ∀ code, .close code ∈ l.sent → ∃ c, causes.head? = some c ∧ c.number? = some code.number := by
  intro svc reading sends after before
  have hfits : ((new svc ⟨1, 0, 0⟩ ⟨0, 0⟩).run svc
      (before ++ .opened ⟨none, none⟩ ⟨"", none⟩ :: after)).router.registry.ids.Fits := by
    show _ * _ < _
    decide +kernel
  have hlast : (((new svc ⟨1, 0, 0⟩ ⟨0, 0⟩).run svc (before ++ .opened ⟨none, none⟩ ⟨"", none⟩ :: after)).link? 1).map
      (·.sent.getLast?) = some (some (.close .backpressureOverflow)) := by decide +kernel
  have hid : ((new svc ⟨1, 0, 0⟩ ⟨0, 0⟩).run svc before).newId = 1 := rfl
  obtain ⟨l, hl, htells, -⟩ := close_tells_first_cause svc ⟨1, 0, 0⟩ ⟨0, 0⟩ before after ⟨none, none⟩ ⟨"", none⟩ hfits
  rw [hid] at hl htells
  rw [hl] at hlast
  exact ⟨hfits, by decide +kernel, l, hl, Option.some.inj hlast, fun code hmem => (htells code hmem).2⟩

end Gateway
end EventGateway
