import EventGateway.Proofs.Endings
import EventGateway.Proofs.Lifetime
/-!
# Timers — how long a client may take to identify, and how long it may be silent

A timer runs beside the reader of a connection.  In the first steps it is the deadline of the Identify, and nothing that
is read moves it; afterwards it starts again with every message.  A run is `timely` for a connection if each wait of its
reader ends with whichever comes first, the next message or the timer; apart from that everything may happen at any
time, the verdict on an Identify too.  `Watch` is what somebody would note who looks on, and `Watched`, which every step
of a timely run keeps, says what the link has to do with it.
-/
namespace EventGateway

namespace Phase

/-- When the timer of the reader runs out. -/
def timer? : Phase → Option Nat
  | .identifying _ deadline | .authenticating _ _ deadline _ => some deadline
  | .live _ idleAt => some idleAt
  | .closing _ | .ended => none

theorem timer?_of_isEarly {phase : Phase} (h : phase.isEarly = true) : phase.timer?.isSome = true := by
  cases phase <;> first | rfl | cases h

end Phase

namespace Link

/-- Nothing is due before this tick: no message has come, and the timer runs that long at least. -/
def restsTo (tick : Nat) (l : Link) : Bool := !l.isCalled && l.phase.timer?.all (tick ≤ ·)

/-- The timer has run out, and no message has come first. -/
def isOut (tick : Nat) (l : Link) : Bool := !l.isCalled && l.phase.timer?.all (· ≤ tick)

/-- Whether the client is let in by a step on its connection. -/
def admits (l : Link) : Gateway.Step → Bool
  | .judged _ (.ok _) => l.phase.isAuthenticating
  | _ => false

/-- Whether a message is read for a session. -/
def hears (l : Link) : Gateway.Step → Bool
  | .read .. => l.phase.session?.isSome && l.isCalled
  | _ => false

theorem timer?_stopped (svc : Service) (session : SessionId) (l : Link) :
    (l.stopped svc session).phase.timer? = none := by
  unfold stopped
  dsimp only
  split <;> rfl

end Link

/-- **What somebody notes who watches a reader.** -/
structure Watch where
  /-- The tick at which the client was let in. -/
  admitted? : Option Nat
  /-- The tick from which on the timer is counted. -/
  since : Nat
  /-- The tick at which the reader ended, and the cause, if it was the reader that found one. -/
  over? : Option (Nat × Option Cause)
deriving DecidableEq

namespace Watch

/-- The handshake has been sent. -/
def new (tick : Nat) : Watch := ⟨none, tick, none⟩

/-- When the time is up. -/
def due (settings : Settings) (w : Watch) : Nat :=
  w.since + (if w.admitted?.isNone then settings.identifyTimeout else settings.heartbeatTimeout).toNat

end Watch

namespace Gateway

/-- **Whether something may happen now**, as far as the time on this connection goes: the clock does not go on while
there is a message to be read, nor past the timer, and a timer takes effect only when it is its turn. -/
def permits (g : Gateway) (id : ConnectionId) : Step → Bool
  | .pass now => (g.link? id).all (·.restsTo now.ticks)
  | .expire i => i != id || (g.link? id).all (·.isOut g.now.ticks)
  | _ => true

/-- **Every wait of the reader ends with whichever comes first**, the next message or the timer. -/
def timely (svc : Service) (id : ConnectionId) : List Step → Gateway → Bool
  | [], _ => true
  | x :: xs, g => g.permits id x && timely svc id xs (g.step svc x)

/-- What is noted of a step. -/
def noted (svc : Service) (id : ConnectionId) (g : Gateway) (x : Step) (w : Watch) : Watch :=
  match g.link? id, (g.step svc x).link? id with
  | some l, some l' =>
    if w.over?.isSome then w
    else if l'.phase.timer?.isNone then { w with over? := some (g.now.ticks, g.cause? svc id l x) }
    else if x.at? = some id ∧ l.admits x then { w with admitted? := some g.now.ticks, since := g.now.ticks }
    else if x.at? = some id ∧ l.hears x then { w with since := g.now.ticks }
    else w
  | _, _ => w

/-- What is noted in the course of a run. -/
def watch (svc : Service) (id : ConnectionId) : List Step → Gateway → Watch → Watch
  | [], _, w => w
  | x :: xs, g, w => watch svc id xs (g.step svc x) (g.noted svc id x w)

end Gateway

/-! ## Sessions come with their connections -/

namespace Router

variable {r : Router} {c : ConnectionId} {i : SessionId} {s : Session}

theorem had_step (hr : r.registry.Consistent) {x : Step} (h : (r.step x).registry.Had c i s) :
    (∃ s, r.registry.Had c i s) ∨ x.isFor c = true := by
  obtain ⟨hs, hc⟩ := h
  cases hbegins : r.begins i x with
  | true =>
    obtain ⟨now, connection, identity, capabilities, rfl, hnew⟩ := handle?_step_of_begins hbegins
    rw [hs] at hnew
    refine .inr (beq_iff_eq.2 ?_)
    rw [← hc, Option.some.inj hnew]
    rfl
  | false =>
    obtain ⟨ms, -, hundergoes⟩ := step_moves hr x i hbegins
    rw [hundergoes.handle?] at hs
    obtain ⟨t, ht, rfl⟩ := Option.map_eq_some_iff.1 hs
    exact .inl ⟨t, ht, by rw [← hc, Session.connection_moves]⟩

/-- **A connection has no session that was not asked for on its behalf.** -/
theorem had_run : ∀ (xs : List Step) {r : Router} {s : Session}, r.registry.Consistent →
    (r.run xs).registry.Had c i s → (∃ s, r.registry.Had c i s) ∨ ∃ x ∈ xs, x.isFor c = true
  | [], _, s, _, h => .inl ⟨s, h⟩
  | x :: xs, _, _, hr, h => by
    rcases had_run xs (consistent_step hr x).1 h with ⟨s, hs⟩ | ⟨y, hy, hc⟩
    · exact (had_step hr hs).imp_right fun hc => ⟨x, List.mem_cons_self, hc⟩
    · exact .inr ⟨y, List.mem_cons_of_mem _ hy, hc⟩

end Router

namespace Gateway

section Sessions

variable {svc : Service} {g : Gateway} {c : ConnectionId} {i : SessionId}

/-- **A session comes with the verdict on an Identify of its connection**, and in no other way. -/
theorem Orderly.had_step (hg : g.Orderly svc) {x : Step} {s : Session}
    (h : (g.step svc x).router.registry.Had c i s) : (∃ s, g.router.registry.Had c i s) ∨
      x.at? = some c ∧ ∃ l, g.link? c = some l ∧ l.admits x = true := by
  have hsame : (g.step svc x).router.registry = g.router.registry → ∃ s, g.router.registry.Had c i s := fun he =>
    ⟨s, he ▸ h⟩
  cases hx : x.at? with
  | some id =>
    cases hl : g.link? id with
    | none => exact .inl (hsame (by rw [step_eq_self hx hl]))
    | some l =>
      obtain ⟨calls, l', hturn, -, hbooks⟩ := hg.turns hl hx
      rw [hbooks.router.registry] at h
      refine (Router.had_run calls hg.router.consistent h).imp_right fun ⟨y, hy, hfor⟩ => ?_
      obtain ⟨rfl, -⟩ := hturn.isFor (hg.stands hl) hy hfor
      refine ⟨rfl, l, hl, ?_⟩
      cases hturn.tenure with
      | stays _ _ _ _ _ hcreate | ends _ _ _ _ _ _ hcreate =>
        rw [hcreate y hy c] at hfor
        cases hfor
      | begins _ _ _ _ _ _ _ _ hphase => rw [Link.admits, hphase]; rfl
  | none =>
    cases x with
    | opened | unreached => exact .inl (hsame (step_same_of_added? rfl).router.registry)
    | publish e =>
      refine (Router.had_run [.publish g.now e] hg.router.consistent h).imp_right fun ⟨y, hy, hfor⟩ => ?_
      rw [List.mem_singleton.1 hy] at hfor
      cases hfor
    | pass now => exact .inl (hsame rfl)
    | _ => cases hx

/-- Whoever has a session, or has had one, is a connection. -/
theorem link?_of_had (svc : Service) (ids : Generator) (now : Moment) (xs : List Step) {s : Session}
    (h : ((new svc ids now).run svc xs).router.registry.Had c i s) :
    ∃ l, ((new svc ids now).run svc xs).link? c = some l := by
  have hrun : ∀ (xs : List Step) {g : Gateway}, g.Orderly svc →
      (∀ {s}, g.router.registry.Had c i s → ∃ l, g.link? c = some l) →
        ∀ {s}, (g.run svc xs).router.registry.Had c i s → ∃ l, (g.run svc xs).link? c = some l := by
    intro xs
    induction xs with
    | nil => exact fun _ hknown _ => hknown
    | cons x xs ih =>
      refine fun {g} hg hknown => ih (hg.step x).1 fun {s} hs => ?_
      obtain ⟨l, hl⟩ : ∃ l, g.link? c = some l := by
        rcases hg.had_step hs with ⟨s, hs⟩ | ⟨-, l, hl, -⟩
        · exact hknown hs
        · exact ⟨l, hl⟩
      obtain ⟨l', hl', -⟩ := hg.bootstrap_step x hl
      exact ⟨l', hl'⟩
  refine hrun xs (sound_new svc ids now).toOrderly (fun {s} hs => ?_) h
  have hnone : (new svc ids now).router.registry.handle? i = none := by
    simp [new, note, Router.note, Router.new, Registry.new, Registry.handle?]
  rw [hs.1] at hnone
  cases hnone

end Sessions

/-! ## Turns, and the timer -/

/-- **What becomes of the timer in a step.** -/
inductive Timing (svc : Service) (g : Gateway) (l : Link) (x : Step) (l' : Link) : Prop where
  | gone (htimer : l'.phase.timer? = none)
  /-- The client is let in, or heard of, and the timer starts again. -/
  | begun (session : SessionId) (hbegun : l.admits x = true ∨ l.hears x = true)
    (hphase' : l'.phase = .live session (g.now.ticks + svc.settings.heartbeatTimeout.toNat))
  | kept (hadmits : l.admits x = false) (hhears : l.hears x = false) (htimer : l'.phase.timer? = l.phase.timer?)
    (hearly : l'.phase.isEarly = l.phase.isEarly)

/-- What is sent for a cause with which a connection ends that has no session. -/
def Told (cause : Cause) (told : List Sent) (l : Link) : Prop :=
  (∃ code : CloseCode, cause.number? = some code.number ∧ told = [.close code]) ∨
    told = [] ∧ (cause.number? = none ∨ l.transport = .cut)

section Turns

variable {svc : Service} {g : Gateway} {id : ConnectionId} {l l' : Link} {x : Step} {calls : List Router.Step}

/-- **No cause but that the timer has run out has its number.** -/
theorem expire_of_causeAt? {cause : Cause} (hcause : g.causeAt? svc l x = some cause)
    (hnumber : cause.number? = some 4009) : ∃ i, x = .expire i := by
  have hcomplaint : ∀ limit m, l.complaint? limit m = some cause → cause.number? ≠ some 4009 := by
    intro limit m h
    unfold Link.complaint? Phase.objection? at h
    repeat' split at h
    all_goals first | cases h; done | (cases h; decide)
  unfold causeAt? Link.readComplaint? at hcause
  cases x with
  | expire i => exact ⟨i, rfl⟩
  | read i c =>
    dsimp only at hcause
    split at hcause
    · obtain ⟨m, -, hm⟩ := Option.bind_eq_some_iff.1 hcause
      exact absurd hnumber (hcomplaint _ m hm)
    · cases hcause
  | judged i answer =>
    cases answer <;> simp only at hcause
    · split at hcause <;> cases hcause
      cases hnumber
    · cases hcause
  | flush i =>
    simp only at hcause
    split at hcause <;> cases hcause
    cases hnumber
  | _ => cases hcause

theorem isEarly_of_admits (h : l.admits x = true) : l.phase.isEarly = true := by
  unfold Link.admits at h
  split at h
  · cases hphase : l.phase with
    | authenticating => rfl
    | _ => rw [hphase] at h; cases h
  · cases h

theorem causeAt?_of_admits (h : l.admits x = true) : g.causeAt? svc l x = none := by
  unfold Link.admits at h
  split at h
  · rfl
  · cases h

theorem isEarly_of_hears (h : l.hears x = true) : l.phase.isEarly = false := by
  unfold Link.hears at h
  split at h
  · obtain ⟨session, hsession⟩ := Option.isSome_iff_exists.1 (Bool.and_eq_true_iff.1 h).1
    exact Phase.isEarly_eq_false_of_session? hsession
  · cases h

theorem Turn.timing {cause? : Option Cause} (h : Turn svc g id l x cause? calls l') (hx : x.at? = some id)
    (hcause : cause? = g.causeAt? svc l x) (hstands : l.Stands id)
    (hfed : l'.bootstrap = l.bootstrap.run (l.machineCalls svc.settings.maxFrameBytes.toNat x)) :
    Timing svc g l x l' := by
  have hkept : l'.phase = l.phase → l.admits x = false → l.hears x = false → Timing svc g l x l' := fun hphase =>
    fun hadmits hhears => .kept hadmits hhears (by rw [hphase]) (by rw [hphase])
  cases h with
  | idle x hread =>
    refine hkept rfl (Bool.eq_false_iff.2 fun hadmits => ?_) (Bool.eq_false_iff.2 fun hhears => ?_)
    · -- The machine has been told of the verdict, so the link cannot be as it was.
      unfold Link.admits at hadmits
      split at hadmits
      · rename_i who
        cases hphase : l.phase with
        | authenticating connection asked deadline verdictAt =>
          rw [Link.machineCalls, if_pos hadmits, (hstands.authenticating hphase).2] at hfed
          cases hfed
        | _ => rw [hphase] at hadmits; cases hadmits
      · cases hadmits
    · unfold Link.hears at hhears
      split at hhears
      · rename_i i c
        rw [hread c (by rw [Option.some.inj hx]), Bool.and_false] at hhears
        cases hhears
      · cases hhears
  | arrived | cut => exact hkept rfl rfl rfl
  | skipped c connection deadline inbox pongs hphase =>
    exact hkept rfl rfl (by rw [Link.hears, hphase]; rfl)
  | asked c connection deadline verdictAt who inbox hphase =>
    exact .kept rfl (by rw [Link.hears, hphase]; rfl) (by rw [hphase]; rfl) (by rw [hphase]; rfl)
  | refused => exact .gone (by rw [(Link.dismissed_cases _ _).1]; rfl)
  | created connection who deadline verdictAt idleAt identity s r hphase _ hidle =>
    exact .begun s.id (.inl (by rw [Link.admits, hphase]; rfl)) (by rw [hidle])
  | heard c session idleAt idleAt' heardAt inbox pongs hphase _ hcalled hidle =>
    exact .begun session (.inr (by rw [Link.hears, hphase, hcalled]; rfl)) (by rw [hidle])
  | served c session idleAt idleAt' heardAt p inbox hphase _ hcalled hidle =>
    exact .begun session (.inr (by rw [Link.hears, hphase, hcalled]; rfl)) (by rw [hidle])
  | stopped => exact .gone (Link.timer?_stopped ..)
  | left | signedOff => exact .gone rfl
  | wrote => exact hkept rfl rfl rfl

theorem told_dismissed {cause : Cause} {code? : Option CloseCode} (hcode : cause.number? = code?.map (·.number))
    (l : Link) : ∃ told, (l.dismissed code?).sent = l.sent ++ told ∧ Told cause told (l.dismissed code?) := by
  cases code? with
  | none => exact ⟨[], (List.append_nil _).symm, .inr ⟨rfl, .inl hcode⟩⟩
  | some code =>
    cases htransport : l.transport with
    | up =>
      exact ⟨[.close code], congrArg Link.sent (Link.signedOff_of_up (l := l.ended) htransport code),
        .inl ⟨code, hcode, rfl⟩⟩
    | cut =>
      have hcut : l.dismissed (some code) = l.ended := Link.signedOff_of_cut (l := l.ended) htransport code
      rw [hcut]
      exact ⟨[], (List.append_nil _).symm, .inr ⟨rfl, .inr htransport⟩⟩

/-- **In the first steps a client is only ever sent pongs**, until the connection ends for a cause. -/
theorem Turn.early {cause? : Option Cause} (h : Turn svc g id l x cause? calls l') (hearly : l.phase.isEarly = true) :
    (l'.phase.timer?.isSome = true ∧ ∃ pongs, l'.sent = l.sent ++ pongs ∧ ∀ s ∈ pongs, ∃ payload, s = .pong payload) ∨
      l'.phase = .ended ∧ ∃ cause told, cause? = some cause ∧ l'.sent = l.sent ++ told ∧ Told cause told l' := by
  have hkept : l'.phase.timer?.isSome = true → l'.sent = l.sent →
      l'.phase.timer?.isSome = true ∧ ∃ pongs, l'.sent = l.sent ++ pongs ∧ ∀ s ∈ pongs, ∃ payload, s = .pong payload :=
    fun htimer hsent => ⟨htimer, [], by rw [hsent, List.append_nil], by simp⟩
  have hserved : ∀ {session}, l.phase.session? ≠ some session := fun h => by
    rw [Phase.session?_of_isEarly hearly] at h
    cases h
  cases h with
  | idle | arrived | cut => exact .inl (hkept (Phase.timer?_of_isEarly hearly) rfl)
  | skipped c connection deadline inbox pongs hphase hpongs =>
    exact .inl ⟨Phase.timer?_of_isEarly hearly, pongs, rfl, fun s hs => (hpongs s hs).2⟩
  | asked | created => exact .inl (hkept rfl rfl)
  | refused x cause code? bootstrap inbox hphase hcode =>
    refine .inr ⟨(Link.dismissed_cases _ _).1, cause, ?_⟩
    obtain ⟨told, hsent, htold⟩ := told_dismissed hcode { l with bootstrap, inbox }
    exact ⟨told, rfl, hsent, htold⟩
  | heard _ _ _ _ _ _ _ hphase | served _ _ _ _ _ _ _ hphase | stopped _ _ _ _ _ _ _ _ hphase =>
    rw [hphase] at hearly
    cases hearly
  | left _ _ _ _ _ _ _ hphase | wrote _ _ _ hphase | signedOff _ _ _ _ hphase => exact absurd hphase hserved

/-- Where the reader has ended, it has ended for good. -/
theorem Turn.timer?_eq_none {cause? : Option Cause} (h : Turn svc g id l x cause? calls l')
    (hover : l.phase.timer? = none) : l'.phase.timer? = none := by
  cases h with
  | idle | arrived | cut | skipped | wrote => exact hover
  | refused => rw [(Link.dismissed_cases _ _).1]; rfl
  | left | signedOff => rfl
  | stopped => exact Link.timer?_stopped ..
  | asked _ _ _ _ _ _ hphase | created _ _ _ _ _ _ _ _ hphase | heard _ _ _ _ _ _ _ hphase
  | served _ _ _ _ _ _ _ hphase => rw [hphase] at hover; cases hover

/-- A cause to end a connection ends the reader. -/
theorem Turn.timer?_of_cause {cause : Cause} (h : Turn svc g id l x (some cause) calls l') :
    l'.phase.timer? = none := by
  cases h with
  | refused => rw [(Link.dismissed_cases _ _).1]; rfl
  | stopped => exact Link.timer?_stopped ..
  | left => rfl

/-- **On a connection that has ended nothing is sent.** -/
theorem Turn.of_ended {cause? : Option Cause} (h : Turn svc g id l x cause? calls l') (hended : l.phase = .ended) :
    l'.phase = .ended ∧ l'.sent = l.sent ∧ (l.transport = .cut → l'.transport = .cut) := by
  cases h with
  | idle | arrived => exact ⟨hended, rfl, fun h => h⟩
  | cut => exact ⟨hended, rfl, fun _ => rfl⟩
  | refused _ _ _ _ _ hphase => rw [hended] at hphase; cases hphase
  | skipped _ _ _ _ _ hphase | asked _ _ _ _ _ _ hphase | created _ _ _ _ _ _ _ _ hphase
  | heard _ _ _ _ _ _ _ hphase | served _ _ _ _ _ _ _ hphase | stopped _ _ _ _ _ _ _ _ hphase
  | left _ _ _ _ _ _ _ hphase | wrote _ _ _ hphase | signedOff _ _ _ _ hphase => rw [hended] at hphase; cases hphase

end Turns

/-! ## Whoever watches -/

/-- **What a link has to do with what has been noted of its reader.**  The handshake was sent at the tick `start`, and
`hello` is what was sent with it. -/
structure Watched (svc : Service) (id : ConnectionId) (start : Nat) (hello : List Sent) (w : Watch) (g : Gateway)
    (l : Link) : Prop where
  /-- As long as the client is not let in, time is counted from the handshake. -/
  fixed : w.admitted? = none → w.since = start
  admitted : ∀ tick, w.admitted? = some tick → tick ≤ start + svc.settings.identifyTimeout.toNat
  unknown : w.admitted? = none → ∀ i s, ¬ g.router.registry.Had id i s
  /-- As long as there is a reader, its time is not up. -/
  waiting : w.over? = none → l.phase.timer? = some (w.due svc.settings) ∧ g.now.ticks ≤ w.due svc.settings ∧
    l.phase.isEarly = w.admitted?.isNone
  greeted : w.over? = none → w.admitted? = none →
    ∃ pongs, l.sent = hello ++ pongs ∧ ∀ s ∈ pongs, ∃ payload, s = .pong payload
  stopped : ∀ tick cause?, w.over? = some (tick, cause?) → l.phase.timer? = none ∧ tick ≤ w.due svc.settings ∧
    (cause?.bind (·.number?) = some 4009 → tick = w.due svc.settings)
  dismissed : ∀ tick cause?, w.over? = some (tick, cause?) → w.admitted? = none → l.phase = .ended ∧
    ∃ cause pongs told, cause? = some cause ∧ l.sent = hello ++ pongs ++ told ∧
      (∀ s ∈ pongs, ∃ payload, s = .pong payload) ∧ Told cause told l

section Watched

variable {svc : Service} {g : Gateway} {id : ConnectionId} {start : Nat} {hello : List Sent} {w : Watch} {l l' : Link}
  {x : Step}

/-- Only the clock itself goes on. -/
theorem Orderly.now_step (hg : g.Orderly svc) (x : Step) :
    (g.step svc x).now = g.now ∨ x = .pass (g.step svc x).now := by
  cases hx : x.at? with
  | some i =>
    left
    cases hl : g.link? i with
    | none => rw [step_eq_self hx hl]
    | some l =>
      obtain ⟨calls, l', -, -, hbooks⟩ := hg.turns hl hx
      exact hbooks.now
  | none =>
    cases x with
    | opened | unreached => exact .inl (step_same_of_added? rfl).now
    | publish e => exact .inl rfl
    | pass now => exact .inr rfl
    | _ => cases hx

/-- What is noted where there is a link before and after. -/
theorem noted_eq (hl : g.link? id = some l) (hl' : (g.step svc x).link? id = some l') : g.noted svc id x w =
    if w.over?.isSome then w
    else if l'.phase.timer?.isNone then { w with over? := some (g.now.ticks, g.cause? svc id l x) }
    else if x.at? = some id ∧ l.admits x then { w with admitted? := some g.now.ticks, since := g.now.ticks }
    else if x.at? = some id ∧ l.hears x then { w with since := g.now.ticks }
    else w := by
  unfold noted
  rw [hl, hl']

/-- Nobody gets a session with a step that lets nobody in. -/
theorem Watched.unknown_step (h : Watched svc id start hello w g l) (hg : g.Orderly svc) (hl : g.link? id = some l)
    (hadmits : x.at? = some id → l.admits x = false) (hnone : w.admitted? = none) (i : SessionId) (s : Session) :
    ¬ (g.step svc x).router.registry.Had id i s := fun hs => by
  rcases hg.had_step hs with ⟨s, hs⟩ | ⟨hx, l₀, hl₀, hadmitted⟩
  · exact h.unknown hnone i s hs
  · rw [hl] at hl₀
    rw [← Option.some.inj hl₀, hadmits hx] at hadmitted
    cases hadmitted

/-- **What happens elsewhere**: the clock may go on, but not past the timer. -/
theorem Watched.elsewhere (h : Watched svc id start hello w g l) (hg : g.Orderly svc) (hl : g.link? id = some l)
    (hx : x.at? ≠ some id) (hpermits : g.permits id x = true) :
    Watched svc id start hello (g.noted svc id x w) (g.step svc x) l := by
  have hnoted : g.noted svc id x w = w := by
    rw [noted_eq hl (hg.link?_elsewhere hx hl)]
    cases hover : w.over? with
    | some o => rfl
    | none =>
      rw [(h.waiting hover).1]
      simp [hx]
  rw [hnoted]
  refine ⟨h.fixed, h.admitted, fun hnone => h.unknown_step hg hl (fun he => absurd he hx) hnone, fun hover => ?_,
    h.greeted, h.stopped, h.dismissed⟩
  obtain ⟨htimer, hnow, hearly⟩ := h.waiting hover
  refine ⟨htimer, ?_, hearly⟩
  rcases hg.now_step x with hsame | hpass
  · rwa [hsame]
  · rw [hpass, permits, hl, Option.all_some, Link.restsTo, htimer] at hpermits
    simpa using (Bool.and_eq_true_iff.1 hpermits).2

/-- A reader that has ended has ended for good. -/
theorem Watched.settled {calls : List Router.Step} (h : Watched svc id start hello w g l) (hg : g.Orderly svc)
    (hl : g.link? id = some l) (hl' : (g.step svc x).link? id = some l')
    (hturn : Turn svc g id l x (g.causeAt? svc l x) calls l') (hover : w.over?.isSome = true) :
    Watched svc id start hello (g.noted svc id x w) (g.step svc x) l' := by
  obtain ⟨⟨tick, cause?⟩, ho⟩ := Option.isSome_iff_exists.1 hover
  obtain ⟨htimer, -⟩ := h.stopped tick cause? ho
  have hopen : w.over? ≠ none := fun hnone => by rw [hnone] at hover; cases hover
  have hadmits : l.admits x = false := Bool.eq_false_iff.2 fun hadmits => by
    have hreads := Phase.timer?_of_isEarly (isEarly_of_admits hadmits)
    rw [htimer] at hreads
    cases hreads
  rw [noted_eq hl hl', if_pos hover]
  refine ⟨h.fixed, h.admitted, fun hnone => h.unknown_step hg hl (fun _ => hadmits) hnone,
    fun hnone => absurd hnone hopen, fun hnone => absurd hnone hopen, fun t c? ho' => ?_, fun t c? ho' hnone => ?_⟩
  · exact ⟨hturn.timer?_eq_none htimer, (h.stopped t c? ho').2⟩
  · obtain ⟨hended, cause, pongs, told, hcause, hsent, hpongs, htold⟩ := h.dismissed t c? ho' hnone
    obtain ⟨hended', hsent', hcut⟩ := hturn.of_ended hended
    exact ⟨hended', cause, pongs, told, hcause, hsent'.trans hsent, hpongs, htold.imp_right fun ⟨hnil, hwhy⟩ =>
      ⟨hnil, hwhy.imp_right hcut⟩⟩

/-- **The reader ends**: not too late, and for the timer only when it has run out. -/
theorem Watched.ends {calls : List Router.Step} (h : Watched svc id start hello w g l) (hg : g.Orderly svc)
    (hl : g.link? id = some l) (hl' : (g.step svc x).link? id = some l') (hx : x.at? = some id)
    (hpermits : g.permits id x = true) (hturn : Turn svc g id l x (g.causeAt? svc l x) calls l')
    (hover : w.over? = none) (htimer : l'.phase.timer? = none) :
    Watched svc id start hello (g.noted svc id x w) (g.step svc x) l' := by
  obtain ⟨hdue, hnow, hearly⟩ := h.waiting hover
  have hcause : g.cause? svc id l x = g.causeAt? svc l x := if_pos hx
  rw [noted_eq hl hl', hover, htimer, hcause]
  have hdismissed : w.admitted? = none → l'.phase = .ended ∧ ∃ cause told, g.causeAt? svc l x = some cause ∧
      l'.sent = l.sent ++ told ∧ Told cause told l' := fun hnone => by
    rcases hturn.early (by rw [hearly, hnone]; rfl) with ⟨hreads, -⟩ | hended
    · rw [htimer] at hreads
      cases hreads
    · exact hended
  refine ⟨h.fixed, h.admitted, fun hnone => h.unknown_step hg hl (fun _ => ?_) hnone, nofun, nofun, fun t c? ho => ?_,
    fun t c? ho hnone => ?_⟩
  · refine Bool.eq_false_iff.2 fun hadmits => ?_
    obtain ⟨-, cause, -, hc, -⟩ := hdismissed hnone
    rw [causeAt?_of_admits hadmits] at hc
    cases hc
  · obtain ⟨rfl, rfl⟩ := Prod.mk.inj (Option.some.inj ho)
    refine ⟨htimer, hnow, fun hnumber => Nat.le_antisymm hnow ?_⟩
    obtain ⟨cause, hc, hnumber⟩ := Option.bind_eq_some_iff.1 hnumber
    obtain ⟨i, rfl⟩ := expire_of_causeAt? hc hnumber
    obtain rfl := Option.some.inj hx
    rw [permits, bne_self_eq_false, Bool.false_or, hl, Option.all_some, Link.isOut, hdue] at hpermits
    exact of_decide_eq_true (Bool.and_eq_true_iff.1 hpermits).2
  · obtain ⟨rfl, rfl⟩ := Prod.mk.inj (Option.some.inj ho)
    obtain ⟨pongs, hsent, hpongs⟩ := h.greeted hover hnone
    obtain ⟨hended, cause, told, hc, hsent', htold⟩ := hdismissed hnone
    exact ⟨hended, cause, pongs, told, hc, by rw [hsent', hsent], hpongs, htold⟩

/-- **The timer starts again**: the client is let in, in time, or heard of. -/
theorem Watched.begun {session : SessionId} (h : Watched svc id start hello w g l) (hl : g.link? id = some l)
    (hl' : (g.step svc x).link? id = some l') (hx : x.at? = some id) (hnow' : (g.step svc x).now = g.now)
    (hover : w.over? = none) (hbegun : l.admits x = true ∨ l.hears x = true)
    (hphase' : l'.phase = .live session (g.now.ticks + svc.settings.heartbeatTimeout.toNat)) :
    Watched svc id start hello (g.noted svc id x w) (g.step svc x) l' := by
  obtain ⟨-, hnow, hearly⟩ := h.waiting hover
  have hsame : ∀ tick cause?, w.over? ≠ some (tick, cause?) := by simp [hover]
  cases hadmits : l.admits x with
  | true =>
    have hnone : w.admitted? = none := by
      rw [isEarly_of_admits hadmits] at hearly
      exact Option.isNone_iff_eq_none.1 hearly.symm
    rw [Watch.due, h.fixed hnone, hnone] at hnow
    have hnoted : g.noted svc id x w = ⟨some g.now.ticks, g.now.ticks, none⟩ := by
      rw [noted_eq hl hl', hover, hphase']
      simp [Phase.timer?, hx, hadmits]
    rw [hnoted]
    refine ⟨nofun, fun tick ht => Option.some.inj ht ▸ hnow, nofun, fun _ => ⟨?_, ?_, ?_⟩, nofun, nofun, nofun⟩
    · rw [hphase']; rfl
    · rw [hnow', Watch.due]
      exact Nat.le_add_right _ _
    · rw [hphase']; rfl
  | false =>
    have hhears : l.hears x = true := hbegun.resolve_left (by rw [hadmits]; exact Bool.false_ne_true)
    have hin : w.admitted?.isNone = false := by rw [← hearly]; exact isEarly_of_hears hhears
    have hsome : w.admitted? ≠ none := fun hnone => by rw [hnone] at hin; cases hin
    have hnoted : g.noted svc id x w = { w with since := g.now.ticks } := by
      rw [noted_eq hl hl', hover, hphase']
      simp [Phase.timer?, hx, hadmits, hhears]
    rw [hnoted]
    refine ⟨fun hnone => absurd hnone hsome, h.admitted, fun hnone => absurd hnone hsome, fun _ => ⟨?_, ?_, ?_⟩,
      fun _ hnone => absurd hnone hsome, fun t c? ho => absurd ho (hsame t c?), fun t c? ho => absurd ho (hsame t c?)⟩
    · rw [hphase', Watch.due, hin]; rfl
    · rw [hnow', Watch.due]
      exact Nat.le_add_right _ _
    · rw [hphase', hin]; rfl

/-- Something happens that the timer has nothing to do with. -/
theorem Watched.kept {calls : List Router.Step} (h : Watched svc id start hello w g l) (hg : g.Orderly svc)
    (hl : g.link? id = some l) (hl' : (g.step svc x).link? id = some l') (hnow' : (g.step svc x).now = g.now)
    (hturn : Turn svc g id l x (g.causeAt? svc l x) calls l') (hover : w.over? = none) (hadmits : l.admits x = false)
    (hhears : l.hears x = false) (htimer : l'.phase.timer? = l.phase.timer?)
    (hearly' : l'.phase.isEarly = l.phase.isEarly) :
    Watched svc id start hello (g.noted svc id x w) (g.step svc x) l' := by
  obtain ⟨hdue, hnow, hearly⟩ := h.waiting hover
  have hsame : ∀ tick cause?, w.over? ≠ some (tick, cause?) := by simp [hover]
  have hnoted : g.noted svc id x w = w := by
    rw [noted_eq hl hl', hover, htimer, hdue]
    simp [hadmits, hhears]
  rw [hnoted]
  refine ⟨h.fixed, h.admitted, fun hnone => h.unknown_step hg hl (fun _ => hadmits) hnone,
    fun _ => ⟨htimer.trans hdue, hnow' ▸ hnow, hearly'.trans hearly⟩, fun _ hnone => ?_,
    fun t c? ho => absurd ho (hsame t c?), fun t c? ho => absurd ho (hsame t c?)⟩
  obtain ⟨pongs, hsent, hpongs⟩ := h.greeted hover hnone
  rcases hturn.early (by rw [hearly, hnone]; rfl) with ⟨-, more, hsent', hmore⟩ | ⟨hended, -⟩
  · refine ⟨pongs ++ more, by rw [hsent', hsent, List.append_assoc], fun s hs => ?_⟩
    exact (List.mem_append.1 hs).elim (hpongs s) (hmore s)
  · rw [hended, hdue] at htimer
    cases htimer

/-- **Every step keeps what has been noted true**, if it is time for it. -/
theorem Watched.step (h : Watched svc id start hello w g l) (hg : g.Orderly svc) (hl : g.link? id = some l)
    (hpermits : g.permits id x = true) : ∃ l', (g.step svc x).link? id = some l' ∧
      Watched svc id start hello (g.noted svc id x w) (g.step svc x) l' := by
  by_cases hx : x.at? = some id
  · obtain ⟨calls, l', hturn, hfed, hbooks⟩ := hg.turns hl hx
    have hl' : (g.step svc x).link? id = some l' := by rw [link?_turned hbooks hl, if_pos rfl]
    have hnow' : (g.step svc x).now = g.now := hbooks.now
    refine ⟨l', hl', ?_⟩
    cases hover : w.over? with
    | some o => exact h.settled hg hl hl' hturn (by rw [hover]; rfl)
    | none =>
      cases hturn.timing hx rfl (hg.stands hl) hfed with
      | gone htimer => exact h.ends hg hl hl' hx hpermits hturn hover htimer
      | begun session hbegun hphase' => exact h.begun hl hl' hx hnow' hover hbegun hphase'
      | kept hadmits hhears htimer hearly' =>
        exact h.kept hg hl hl' hnow' hturn hover hadmits hhears htimer hearly'
  · exact ⟨l, hg.link?_elsewhere hx hl, h.elsewhere hg hl hx hpermits⟩

/-- **What has been noted stays true along a run that is in time.** -/
theorem Watched.run (h : Watched svc id start hello w g l) (hg : g.Orderly svc) (hl : g.link? id = some l)
    (xs : List Step) (htimely : timely svc id xs g = true) : ∃ l', (g.run svc xs).link? id = some l' ∧
      Watched svc id start hello (watch svc id xs g w) (g.run svc xs) l' := by
  induction xs generalizing g w l with
  | nil => exact ⟨l, hl, h⟩
  | cons x xs ih =>
    obtain ⟨hpermits, htimely⟩ := Bool.and_eq_true_iff.1 htimely
    obtain ⟨l₁, hl₁, h₁⟩ := h.step hg hl hpermits
    exact ih h₁ (hg.step x).1 hl₁ htimely

/-- **The timer goes off** when its time has come, and with the number that tells so. -/
theorem Watched.rings (h : Watched svc id start hello w g l) (hg : g.Orderly svc) (hl : g.link? id = some l)
    (hover : w.over? = none) (hout : l.isOut g.now.ticks = true) : g.now.ticks = w.due svc.settings ∧
      ∃ cause, cause.number? = some 4009 ∧
        (g.noted svc id (.expire id) w).over? = some (w.due svc.settings, some cause) := by
  obtain ⟨hdue, hnow, -⟩ := h.waiting hover
  have hpermits : g.permits id (.expire id) = true := by
    rw [permits, hl, Option.all_some, hout, Bool.or_true]
  rw [Link.isOut, hdue] at hout
  have htick : g.now.ticks = w.due svc.settings :=
    Nat.le_antisymm hnow (of_decide_eq_true (Bool.and_eq_true_iff.1 hout).2)
  obtain ⟨cause, hcause, hnumber⟩ : ∃ cause, l.phase.lateness? = some cause ∧ cause.number? = some 4009 := by
    cases hphase : l.phase with
    | identifying | authenticating => exact ⟨.lateIdentify, rfl, rfl⟩
    | live => exact ⟨.idle, rfl, rfl⟩
    | closing | ended => rw [hphase] at hdue; cases hdue
  obtain ⟨calls, l', hturn, hfed, hbooks⟩ := hg.turns hl (x := .expire id) rfl
  have hl' : (g.step svc (.expire id)).link? id = some l' := by rw [link?_turned hbooks hl, if_pos rfl]
  have hlate : g.causeAt? svc l (.expire id) = some cause := hcause
  rw [hlate] at hturn
  refine ⟨htick, cause, hnumber, ?_⟩
  rw [noted_eq hl hl', hover, hturn.timer?_of_cause]
  show some (g.now.ticks, g.cause? svc id l (.expire id)) = _
  rw [htick, show g.cause? svc id l (.expire id) = g.causeAt? svc l (.expire id) from if_pos rfl, hlate]

/-- How a connection begins that is granted. -/
theorem watched_opened (hg : g.Orderly svc) (request : Opening) (peer : Peer)
    (granted : request.refusal? svc.versions = none)
    (hknown : ∀ {i s}, g.router.registry.Had g.newId i s → ∃ l, g.link? g.newId = some l) :
    Watched svc g.newId g.now.ticks (Link.opened svc g.newId request g.now).sent (.new g.now.ticks)
      (g.step svc (.opened request peer)) (Link.opened svc g.newId request g.now) := by
  have hrefusal := refusal?_of_negotiate request svc.versions
  have hphase : ∃ connection, (Link.opened svc g.newId request g.now).phase =
      .identifying connection (g.now.ticks + svc.settings.identifyTimeout.toNat) := by
    unfold Link.opened
    cases hnegotiate : request.negotiate svc.versions with
    | error fault =>
      rw [hnegotiate] at hrefusal
      obtain ⟨c, hc, -⟩ := hrefusal
      rw [granted] at hc
      cases hc
    | ok accepted => exact ⟨_, rfl⟩
  obtain ⟨connection, hphase⟩ := hphase
  have hnow : (g.step svc (.opened request peer)).now = g.now := (step_same_of_added? rfl).now
  refine ⟨fun _ => rfl, nofun, fun _ i s hs => ?_, fun _ => ⟨by rw [hphase]; rfl, ?_, by rw [hphase]; rfl⟩,
    fun _ _ => ⟨[], (List.append_nil _).symm, by simp⟩, nofun, nofun⟩
  · rw [(step_same_of_added? rfl).router.registry] at hs
    obtain ⟨l, hl⟩ := hknown hs
    exact hg.newId_not_mem ((lookup_isSome_iff _ _).1 ⟨l, hl⟩)
  · rw [hnow]
    exact Nat.le_add_right _ _

end Watched

/-! ## Whole connections -/

/-- **What the timers of a connection come to**, if the handshake was sent at the tick `start`, and `hello` with it. -/
structure Punctual (svc : Service) (id : ConnectionId) (start : Nat) (hello : List Sent) (w : Watch) (g : Gateway)
    (l : Link) : Prop where
  /-- Whoever is let in is let in by the deadline. -/
  admitted : ∀ tick, w.admitted? = some tick → tick ≤ start + svc.settings.identifyTimeout.toNat
  /-- Whoever is not let in has never had a session. -/
  unknown : w.admitted? = none → ∀ i s, ¬ g.router.registry.Had id i s
  /-- Whoever is not let in by the deadline has no connection any more: it has ended at the deadline, with the number
  that tells so, or by then for another cause.  Until then it was sent nothing but pongs. -/
  late : w.admitted? = none → start + svc.settings.identifyTimeout.toNat < g.now.ticks → l.phase = .ended ∧
    ∃ tick cause pongs told, w.over? = some (tick, some cause) ∧
      tick ≤ start + svc.settings.identifyTimeout.toNat ∧
      (cause.number? = some 4009 → tick = start + svc.settings.identifyTimeout.toNat) ∧
      l.sent = hello ++ pongs ++ told ∧ (∀ s ∈ pongs, ∃ payload, s = .pong payload) ∧ Told cause told l
  /-- The reader of a session waits as long as it may since the client was let in or heard of, and no longer. -/
  waiting : w.admitted? ≠ none → w.over? = none →
    (∃ session, l.phase = .live session (w.since + svc.settings.heartbeatTimeout.toNat)) ∧
      g.now.ticks ≤ w.since + svc.settings.heartbeatTimeout.toNat
  /-- It ends by then, and if it is for the timer, exactly then. -/
  silent : ∀ tick cause?, w.admitted? ≠ none → w.over? = some (tick, cause?) → l.isReading = false ∧
    tick ≤ w.since + svc.settings.heartbeatTimeout.toNat ∧
      (cause?.bind (·.number?) = some 4009 → tick = w.since + svc.settings.heartbeatTimeout.toNat)
  /-- A timer that goes off ends the reader. -/
  rings : w.over? = none → l.isOut g.now.ticks = true → g.now.ticks = w.due svc.settings ∧
    ∃ cause, cause.number? = some 4009 ∧
      (g.noted svc id (.expire id) w).over? = some (w.due svc.settings, some cause)
  /-- That of a session has it closed with the code for it. -/
  closes : ∀ session idleAt, l.phase = .live session idleAt → (g.step svc (.expire id)).SameBooks
    (g.turned id (svc.stopping session .timeout) (Link.stopped svc session { l with bootstrap := ⟨.closed, false⟩ }))

theorem Watched.punctual {svc : Service} {g : Gateway} {id : ConnectionId} {start : Nat} {hello : List Sent} {w : Watch}
    {l : Link} (h : Watched svc id start hello w g l) (hg : g.Orderly svc) (hl : g.link? id = some l) :
    Punctual svc id start hello w g l := by
  have hdue : w.admitted? = none → w.due svc.settings = start + svc.settings.identifyTimeout.toNat := fun hnone => by
    rw [Watch.due, h.fixed hnone, hnone]
    rfl
  have hpatience : w.admitted? ≠ none → w.due svc.settings = w.since + svc.settings.heartbeatTimeout.toNat ∧
      w.admitted?.isNone = false := fun hsome => by
    obtain ⟨tick, ht⟩ := Option.ne_none_iff_exists'.1 hsome
    rw [Watch.due, ht]
    exact ⟨rfl, rfl⟩
  refine ⟨h.admitted, h.unknown, fun hnone hlate => ?_, fun hsome hover => ?_, fun tick cause? hsome hover => ?_,
    h.rings hg hl, fun session idleAt hphase => expire_live hl hphase ((hg.stands hl).live hphase)⟩
  · cases hover : w.over? with
    | none =>
      have hnow := (h.waiting hover).2.1
      rw [hdue hnone] at hnow
      exact absurd hnow (Nat.not_le.2 hlate)
    | some o =>
      obtain ⟨tick, cause?⟩ := o
      obtain ⟨-, htick, hnumber⟩ := h.stopped tick cause? hover
      obtain ⟨hended, cause, pongs, told, rfl, hsent, hpongs, htold⟩ := h.dismissed tick cause? hover hnone
      rw [hdue hnone] at htick hnumber
      exact ⟨hended, tick, cause, pongs, told, rfl, htick, hnumber, hsent, hpongs, htold⟩
  · obtain ⟨htimer, hnow, hearly⟩ := h.waiting hover
    rw [(hpatience hsome).1] at htimer hnow
    rw [(hpatience hsome).2] at hearly
    refine ⟨?_, hnow⟩
    cases hphase : l.phase with
    | live session idleAt =>
      rw [hphase] at htimer
      exact ⟨session, by rw [Option.some.inj htimer]⟩
    | identifying | authenticating => rw [hphase] at hearly; cases hearly
    | closing | ended => rw [hphase] at htimer; cases htimer
  · obtain ⟨htimer, htick, hnumber⟩ := h.stopped tick cause? hover
    rw [(hpatience hsome).1] at htick hnumber
    refine ⟨?_, htick, hnumber⟩
    cases hphase : l.phase with
    | closing | ended => rw [Link.isReading, hphase]
    | _ => rw [hphase] at htimer; cases htimer

/-- **The deadline of an Identify stands, and the patience with a client starts again with each message.**  Whatever
happens before the connection is opened, on it and on others, and however long the verdict takes, as long as each wait
of the reader ends with whichever comes first, the next message or the timer: at each point after the handshake, a
client that was not let in has had no session, and by the deadline it has no connection; and the reader of a session
ends for its silence exactly when the time since it began to wait for the next message is up, whatever the messages
before were. -/
theorem timers_hold (svc : Service) (ids : Generator) (now : Moment) (before after : List Step) (request : Opening)
    (peer : Peer) (granted : request.refusal? svc.versions = none) :
    let opening := (new svc ids now).run svc before
    let start := opening.step svc (.opened request peer)
    timely svc opening.newId after start = true →
      ∃ l, (start.run svc after).link? opening.newId = some l ∧
        Punctual svc opening.newId opening.now.ticks (Link.opened svc opening.newId request opening.now).sent
          (watch svc opening.newId after start (.new opening.now.ticks)) (start.run svc after) l := by
  intro opening start htimely
  have hopening : opening.Orderly svc := (sound_new svc ids now).toOrderly.run before
  have hstart : start.Orderly svc := (hopening.step _).1
  have hlink : start.link? opening.newId = some (Link.opened svc opening.newId request opening.now) :=
    (hopening.link?_added rfl opening.newId).trans (if_pos rfl)
  obtain ⟨l, hl, hwatched⟩ := (watched_opened hopening request peer granted
    (link?_of_had svc ids now before)).run hstart hlink after htimely
  exact ⟨l, hl, hwatched.punctual (hstart.run after) hl⟩

/-- A client pings, and is let in at the last moment; later it says one thing, and is silent then. -/
theorem timers_hold_silent :
    let svc : Service := ⟨{ Settings.standard with identifyTimeout := 100, heartbeatTimeout := 50 },
      ⟨[⟨2, 0⟩], by decide⟩, .all, .table [], 0, LocalChannels.handler ⟨[]⟩⟩
    let reading := Step.read 1 (LocalChannels.collaborator ⟨[]⟩)
    let identify := Wire.Envelope.unsequenced (.identify ⟨"t", 7, ""⟩)
    let after := [.pass ⟨60, 60⟩, .arrive 1 (.ping []), reading, .arrive 1 (.frame (identify.encode .protobuf)),
      reading, .pass ⟨101, 101⟩, .judged 1 (.ok ⟨⟨7⟩, ""⟩), .pass ⟨140, 140⟩, .arrive 1 (.pong []), reading,
      .pass ⟨190, 190⟩, .expire 1, .flush 1]
    let start := ((new svc ⟨1, 0, 0⟩ ⟨0, 0⟩).run svc [.pass ⟨1, 1⟩]).step svc (.opened ⟨none, none⟩ ⟨"", none⟩)
    let w := watch svc 1 after start (.new 1)
    timely svc 1 after start = true ∧ w = ⟨some 101, 140, some (190, some .idle)⟩ ∧
      ∃ l, (start.run svc after).link? 1 = some l ∧ l.sent.getLast? = some (.close .timeout) ∧
        Punctual svc 1 1 (Link.opened svc 1 ⟨none, none⟩ ⟨1, 1⟩).sent w (start.run svc after) l := by
  intro svc reading identify after start w
  have htimely : timely svc 1 after start = true := by decide +kernel
  have hlast : ((start.run svc after).link? 1).map (·.sent.getLast?) = some (some (.close .timeout)) := by
    decide +kernel
  obtain ⟨l, hl, hpunctual⟩ := timers_hold svc ⟨1, 0, 0⟩ ⟨0, 0⟩ [.pass ⟨1, 1⟩] after ⟨none, none⟩ ⟨"", none⟩
    (by decide +kernel) htimely
  have hl : (start.run svc after).link? 1 = some l := hl
  rw [hl] at hlast
  exact ⟨htimely, by decide +kernel, l, hl, Option.some.inj hlast, hpunctual⟩

/-- **A connection can end before the deadline for another cause**, and is told of that one alone: the client has sent
something that cannot be read. -/
theorem ended_before_deadline :
    let svc : Service := ⟨{ Settings.standard with identifyTimeout := 100, heartbeatTimeout := 50 },
      ⟨[⟨2, 0⟩], by decide⟩, .all, .table [], 0, LocalChannels.handler ⟨[]⟩⟩
    let after := [.arrive 1 (.frame (.text "x")), .read 1 (LocalChannels.collaborator ⟨[]⟩), .pass ⟨102, 102⟩]
    let start := ((new svc ⟨1, 0, 0⟩ ⟨0, 0⟩).run svc [.pass ⟨1, 1⟩]).step svc (.opened ⟨none, none⟩ ⟨"", none⟩)
    timely svc 1 after start = true ∧
      watch svc 1 after start (.new 1) = ⟨none, 1, some (1, some .undecodable)⟩ ∧
      1 + svc.settings.identifyTimeout.toNat < (start.run svc after).now.ticks ∧
      ((start.run svc after).link? 1).map (fun l => (decide (l.phase = .ended), l.sent.getLast?,
        l.sent.contains (.close .timeout))) = some (true, some (.close .protocolViolation), false) := by
  decide +kernel

end Gateway
end EventGateway
