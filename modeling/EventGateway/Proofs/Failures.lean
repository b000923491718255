import EventGateway.Proofs.Alike
import EventGateway.Proofs.Connections
import EventGateway.Proofs.Ledger
import EventGateway.Proofs.Reports
/-!
# Failures — a command that fails changes nothing but the queue of its session

Whatever a command fails for, it fails before anything has been done: the registry is as it was, but for ids that the
handler may have taken, and one report is pushed to the session (`handle_failed`).  The session is there, for as long as
its link is served (`served_run`), and the link goes on.
-/
namespace EventGateway

open Wire (Payload)

namespace Queue

/-- **What has become of a queue that a reply was pushed to**: it was closing already, the reply has found room, or it
has found none and the session is closed for that. -/
inductive Replied (p : Payload) (q : Queue) : Queue → Prop where
  | closing (h : q.isClosing = true) : Replied p q q
  | queued (h : q.isClosing = false) (room : q.controls < q.config.controlCapacity) :
    Replied p q { q with items := q.items ++ [p], controls := q.controls + 1 }
  | refused (h : q.isClosing = false) (full : q.config.controlCapacity ≤ q.controls) :
    Replied p q { q with close := some .backpressureOverflow }

theorem replied_push (now : Nat) {p : Payload} (hp : p.isSequenced = false) (q : Queue) :
    q.Replied p (q.push now p).2 := by
  generalize hr : q.push now p = r
  have hpushed : Pushed now p q r := hr ▸ pushed now p q
  have hno : ¬p.isSequenced = true := by simp [hp]
  cases hpushed with
  | closing h => exact .closing h
  | control h _ room => exact .queued h room
  | controlRefused h _ full => exact .refused h full
  | dispatch _ h => exact absurd h hno
  | evicting _ _ _ h => exact absurd h hno
  | dispatchRefused _ _ h => exact absurd h hno

/-- A reply closes a queue only if it finds no room. -/
theorem Replied.isClosing {p : Payload} {q q' : Queue} (h : q.Replied p q') (hopen : q.isClosing = false)
    (hclosing : q'.isClosing = true) :
    q.config.controlCapacity ≤ q.controls ∧ q'.close = some .backpressureOverflow := by
  cases h with
  | closing h =>
    rw [hopen] at h
    cases h
  | queued =>
    have hsame : q.isClosing = true := hclosing
    rw [hopen] at hsame
    cases hsame
  | refused _ full => exact ⟨full, rfl⟩

end Queue

namespace Registry

/-- **Two registries differ in the stream of one session at most**, and in the ids that are left: every table, every
subscription and every other session is the same. -/
structure SameBut (i : SessionId) (s : Session) (queue : Queue) (r r' : Registry) : Prop where
  byConnection : r'.byConnection = r.byConnection
  byIdentity : r'.byIdentity = r.byIdentity
  byScope : r'.byScope = r.byScope
  others : ∀ j, j ≠ i → r'.session? j = r.session? j ∧ r'.handle? j = r.handle? j
  before : r.handle? i = some s
  after : r'.handle? i = some { s with queue }
  live : r'.session? i = (r.session? i).map fun _ => { s with queue }

theorem sameBut_push {r : Registry} (hr : r.Consistent) (ids : Generator) {i : SessionId} {s : Session}
    (hs : r.handle? i = some s) (now : Nat) (p : Payload) :
    r.SameBut i s (s.queue.push now p).2 (({ r with ids } : Registry).changed i (·.push now p)) := by
  have hr' : ({ r with ids } : Registry).Consistent := Router.consistent_withIds hr ids
  have hsame : ∀ t : Session, t.SameStanding (t.push now p).2 := fun t => t.sameStanding_push now p
  refine ⟨byConnection_changed, byIdentity_changed, byScope_changed, fun j hj => ⟨?_, ?_⟩, hs, ?_, ?_⟩
  · rw [session?_changed hr' hsame, if_neg hj]
    rfl
  · rw [handle?_changed hr' hsame, if_neg hj]
    rfl
  · rw [handle?_changed hr' hsame, if_pos rfl]
    exact congrArg (Option.map _) hs
  · rw [session?_changed hr' hsame, if_pos rfl]
    show (r.session? i).map _ = _
    cases hlive : r.session? i with
    | none => rfl
    | some t =>
      rw [handle?_of_session? hlive] at hs
      obtain rfl := Option.some.inj hs
      rfl

end Registry

namespace Router

variable {handler : CommandHandler} {now : Moment} {i : SessionId} {s : Session} {r : Router}

/-- **A command that fails has taken ids at most.** -/
theorem Executed.registry_of_error {command : Command} {e : CommandError} {registry : Registry}
    (h : Executed handler now s r command (.error e) registry) : ∃ ids, registry = { r.registry with ids } := by
  cases h with
  | refused => exact ⟨r.registry.ids, rfl⟩
  | failed action e r₁ h => exact ⟨_, registry_perform h⟩

/-- A command that fails counts nothing but itself. -/
theorem stats_execute_of_error {command : Command} {e : CommandError} {r₁ : Router}
    (h : r.execute handler now s command = (.error e, r₁)) : r₁.stats = r.stats := by
  by_cases hcommand : ∀ action, command ≠ .act action
  · have hstats : (r.execute handler now s command).2.stats = r.stats := stats_execute hcommand r
    rwa [h] at hstats
  · obtain ⟨action, rfl⟩ : ∃ action, command = .act action := by simpa using hcommand
    have hperform : (r.perform handler now s action).2.stats = r.stats := rfl
    simp only [execute] at h
    generalize r.perform handler now s action = result at h hperform
    obtain ⟨e' | events, r₂⟩ := result
    · rw [← (Prod.mk.inj h).2]
      exact hperform
    · cases (Prod.mk.inj h).1

/-- What a payload fails with for a session: it makes no command, or the command fails. -/
def Fails (handler : CommandHandler) (now : Moment) (i : SessionId) (p : Payload) (e : CommandError) (r : Router) :
    Prop :=
  Command.ofPayload p = .error e ∨
    ∃ command, Command.ofPayload p = .ok command ∧ (r.submit handler now i command).1 = .error e

/-- **A payload that fails is reported, under its own name**, and nothing else is done. -/
theorem handle_failed (hs : r.registry.handle? i = some s) {p : Payload} {e : CommandError}
    (h : r.Fails handler now i p e) : ∃ ids : Generator,
      (r.handle handler now i p).2.registry =
        ({ r.registry with ids } : Registry).changed i (·.push now.ticks (.error e.code e.message p.name)) ∧
      (r.handle handler now i p).2.counts = r.counts := by
  rcases h with hp | ⟨command, hp, h⟩
  · rw [handle_of_ofPayload_eq_error hp]
    exact ⟨r.registry.ids, registry_reportFailure .., counts_reportFailure ..⟩
  · have hexecuted := executed handler now s command r
    rw [handle_of_ofPayload hp]
    simp only [submit, hs] at h ⊢
    rcases hresult : r.execute handler now s command with ⟨e' | ⟨⟩, r₁⟩
    · rw [hresult] at h hexecuted
      obtain rfl : e' = e := Except.error.inj h
      obtain ⟨ids, hids⟩ := hexecuted.registry_of_error
      refine ⟨ids, ?_, ?_⟩
      · dsimp only
        rw [registry_reportFailure, ← hids, Command.name_of_ofPayload hp]
      · dsimp only
        rw [counts_reportFailure, ← counts_of_stats (stats_execute_of_error hresult)]
        rfl
    · rw [hresult] at h
      cases h

/-! ## Sessions that are known -/

/-- A session that is known, or begins, is known from then on. -/
theorem known_step (hr : r.registry.Consistent) {x : Step}
    (h : (r.registry.handle? i).isSome = true ∨ r.begins i x = true) :
    ((r.step x).registry.handle? i).isSome = true := by
  by_cases hx : r.begins i x = true
  · obtain ⟨_, _, _, _, -, hbegun⟩ := handle?_step_of_begins hx
    rw [hbegun]
    rfl
  · obtain ⟨ms, -, hundergoes⟩ := step_moves hr x i (by simpa using hx)
    rw [hundergoes.handle?, Option.isSome_map]
    exact h.resolve_right hx

theorem known_run : ∀ (xs : List Step) {r : Router}, r.registry.Consistent → (r.registry.handle? i).isSome = true →
    ((r.run xs).registry.handle? i).isSome = true
  | [], _, _, h => h
  | x :: xs, _, hr, h => known_run xs (consistent_step hr x).1 (known_step hr (.inl h))

end Router

namespace Gateway

variable {svc : Service} {g : Gateway} {id : ConnectionId} {l : Link} {x : Step}

/-- The session of a link that is served is known. -/
def Served (g : Gateway) : Prop :=
  ∀ {id l session}, g.link? id = some l → l.phase.session? = some session →
    (g.router.registry.handle? session).isSome = true

/-- A link is served for the session for which it was, or for one that has just been created. -/
theorem Turn.known {cause? : Option Cause} {calls : List Router.Step} {l' : Link} {session : SessionId}
    (h : Turn svc g id l x cause? calls l') (hg : g.router.registry.Consistent)
    (hsession : l'.phase.session? = some session)
    (hl : l.phase.session? = some session → (g.router.registry.handle? session).isSome = true) :
    ((g.router.run calls).registry.handle? session).isSome = true := by
  have hrun : l.phase.session? = some session →
      ((g.router.run calls).registry.handle? session).isSome = true := fun h => Router.known_run calls hg (hl h)
  cases h with
  | idle | arrived | cut | skipped | wrote => exact hrun hsession
  | asked => cases hsession
  | refused =>
    rw [(Link.dismissed_cases _ _).1] at hsession
    cases hsession
  | created connection who deadline verdictAt idleAt identity s r hphase hcreate =>
    obtain rfl : s.id = session := Option.some.inj hsession
    have hbegins : g.router.begins s.id (.create g.now connection identity
        (.negotiate svc.capabilities who.capabilities)) = true := by
      simp [Router.begins, hcreate, Except.toOption]
    exact Router.known_run [.reply g.now s.id s.ready] (Router.consistent_step hg _).1
      (Router.known_step hg (.inr hbegins))
  | heard c i idleAt _ _ _ _ hphase => exact hrun (by rw [hphase]; exact hsession)
  | served c i idleAt _ _ p _ hphase => exact hrun (by rw [hphase]; exact hsession)
  | stopped x cause code i idleAt _ _ _ hphase =>
    refine hrun ?_
    rw [hphase]
    unfold Link.stopped at hsession
    dsimp only at hsession
    split at hsession
    · cases hsession
    · exact hsession
  | left => cases hsession
  | signedOff => cases hsession

theorem Served.step (h : g.Served) (hg : g.Orderly svc) (x : Step) : (g.step svc x).Served := by
  intro i l' session hl' hsession
  rcases (hg.numbered_step x).2 _ _ hl' with ⟨l, hl⟩ | ⟨-, hadded⟩
  · by_cases hx : x.at? = some i
    · obtain ⟨calls, l₁, hturn, -, hsame⟩ := hg.turns hl hx
      rw [link?_turned hsame hl, if_pos rfl] at hl'
      obtain rfl := Option.some.inj hl'
      rw [hsame.router.registry]
      exact hturn.known hg.router.consistent hsession (h hl)
    · rw [hg.link?_elsewhere hx hl] at hl'
      obtain rfl := Option.some.inj hl'
      obtain ⟨calls, -, hregistry, -⟩ := hg.calls x
      rw [hregistry]
      exact Router.known_run calls hg.router.consistent (h hl hsession)
  · rw [(added_early hadded).2] at hsession
    cases hsession

/-- **The session of a link that is served is known**, at every point of every run. -/
theorem Served.run (h : g.Served) (hg : g.Orderly svc) (xs : List Step) : (g.run svc xs).Served := by
  induction xs generalizing g with
  | nil => exact h
  | cons x xs ih => exact ih (h.step hg x) (hg.step x).1

theorem served_new (svc : Service) (ids : Generator) (now : Moment) : (new svc ids now).Served := by
  intro i l session hl
  cases hl

/-- **A command that fails changes nothing but the queue of its session**, at every point of every run and whatever the
handler does.  It gets one report, with the code and the message of the error and the name of the payload; no other
session, no table and no subscription changes, and no event is counted.  The link goes on with the client identified,
and reads the next message.  The session is closed only if the report finds no room. -/
theorem failed_command_reported (svc : Service) (ids : Generator) (now : Moment) (steps : List Step)
    (handler : CommandHandler) (id : ConnectionId) (l : Link) (session : SessionId) (idleAt : Nat) (f : Wire.Frame)
    (inbox : List Inbound) (p : Payload) (e : CommandError)
    (hl : ((new svc ids now).run svc steps).link? id = some l) (hphase : l.phase = .live session idleAt)
    (hinbox : l.inbox = .message (.frame f) :: inbox) (hdecode : f.decode svc.settings.maxFrameBytes.toNat = .ok p)
    (hp : p.role = .command)
    (hfails :
      ((new svc ids now).run svc steps).router.Fails handler ((new svc ids now).run svc steps).now session p e) :
    let g := (new svc ids now).run svc steps
    let g' := g.read { svc with handler } id
    let report := Payload.error e.code e.message p.name
    (∃ s : Session, ∃ queue, queue = (s.queue.push g.now.ticks report).2 ∧ s.queue.Replied report queue ∧
      g.router.registry.SameBut session s queue g'.router.registry ∧
      (s.queue.isClosing = false → queue.isClosing = true →
        s.queue.config.controlCapacity ≤ s.queue.controls ∧ queue.close = some .backpressureOverflow)) ∧
    (g'.router.stats.published, g'.router.stats.delivered, g'.router.stats.dropped) =
      (g.router.stats.published, g.router.stats.delivered, g.router.stats.dropped) ∧
    (∃ l', g'.link? id = some l' ∧ l'.bootstrap.state = .identified ∧ l'.isReading = true ∧ l' = { l with
      phase := .live session (g.now.ticks + svc.settings.heartbeatTimeout.toNat)
      heardAt := g.now.ticks
      inbox }) ∧
    ∀ i, i ≠ id → g'.link? i = g.link? i := by
  intro g g' report
  have hg : g.Orderly svc := (sound_new svc ids now).toOrderly.run steps
  have hserved : g.Served := Served.run (served_new svc ids now) (sound_new svc ids now).toOrderly steps
  obtain ⟨s, hs⟩ := Option.isSome_iff_exists.1 (hserved hl (by rw [hphase]; rfl))
  have hb := (hg.stands hl).live hphase
  have hread : g'.SameBooks (g.turned id [Router.serving handler g.now session p] _) :=
    read_of_command handler hl hphase hinbox hdecode hp hb
  have hrouter : g'.router.SameBooks (g.router.handle handler g.now session p).2 :=
    hread.router.trans (Router.handle_same ..).symm
  obtain ⟨ids', hregistry, hcounts⟩ := Router.handle_failed hs hfails
  have hreplied := s.queue.replied_push g.now.ticks (p := report) rfl
  refine ⟨⟨s, _, rfl, hreplied, ?_, hreplied.isClosing⟩, ?_, ?_, fun i hi => ?_⟩
  · rw [hrouter.registry, hregistry]
    exact Registry.sameBut_push hg.router.consistent ids' hs g.now.ticks report
  · rw [hrouter.stats]
    exact hcounts
  · refine ⟨_, (link?_turned hread hl id).trans (if_pos rfl), ?_, rfl, rfl⟩
    rw [hb]
  · exact (link?_turned hread hl i).trans (if_neg hi)

/-- A client asks for a scope of no known kind, and its queue has no room to tell it so. -/
theorem failed_command_reported_without_room :
    let svc : Service := ⟨{ Settings.standard with controlQueueCapacity := 1 }, ⟨[⟨2, 0⟩], by decide⟩, .all, .table [],
      0, LocalChannels.handler ⟨[]⟩⟩
    let frame (p : Payload) := (Wire.Envelope.unsequenced p).encode .protobuf
    let reading := Step.read 1 (LocalChannels.collaborator ⟨[]⟩)
    let steps := [Step.opened ⟨none, none⟩ ⟨"", none⟩, .arrive 1 (.frame (frame (.identify ⟨"t", 7, ""⟩))), reading,
      .judged 1 (.ok ⟨⟨7⟩, ""⟩), .arrive 1 (.frame (frame (.subscribe "guild:1" 0)))]
    let g := (new svc ⟨1, 0, 0⟩ ⟨0, 0⟩).run svc steps
    let e := CommandError.invalidScope "unknown scope kind `guild`"
    (g.link? 1).map (fun l => (l.phase, l.inbox)) =
        some (.live ⟨4097⟩ 90000, [.message (.frame (frame (.subscribe "guild:1" 0)))]) ∧
      g.router.Fails svc.handler g.now ⟨4097⟩ (.subscribe "guild:1" 0) e ∧
      ∃ s queue, s.queue.Replied (.error "INVALID_SCOPE" e.message "subscribe") queue ∧
        g.router.registry.SameBut ⟨4097⟩ s queue (g.read { svc with handler := svc.handler } 1).router.registry ∧
        queue.close = some .backpressureOverflow := by
  intro svc frame reading steps g e
  have hlink : (g.link? 1).map (fun l => (l.phase, l.inbox)) =
      some (.live ⟨4097⟩ 90000, [.message (.frame (frame (.subscribe "guild:1" 0)))]) := by decide +kernel
  have hfails : g.router.Fails svc.handler g.now ⟨4097⟩ (.subscribe "guild:1" 0) e := .inl (by rfl)
  have hread : ((frame (.subscribe "guild:1" 0)).decode svc.settings.maxFrameBytes.toNat).toOption =
      some (.subscribe "guild:1" 0) := by decide +kernel
  refine ⟨hlink, hfails, ?_⟩
  obtain ⟨l, hl, hshape⟩ := Option.map_eq_some_iff.1 hlink
  obtain ⟨hphase, hinbox⟩ := Prod.mk.inj hshape
  cases hdecode : (frame (.subscribe "guild:1" 0)).decode svc.settings.maxFrameBytes.toNat with
  | error fault =>
    rw [hdecode] at hread
    cases hread
  | ok p =>
    rw [hdecode] at hread
    obtain rfl := Option.some.inj hread
    obtain ⟨⟨s, queue, -, hreplied, hsame, -⟩, -⟩ := failed_command_reported svc ⟨1, 0, 0⟩ ⟨0, 0⟩ steps svc.handler 1 l
      ⟨4097⟩ 90000 (frame (.subscribe "guild:1" 0)) [] (.subscribe "guild:1" 0) e hl hphase hinbox hdecode rfl hfails
    have hclose : ((g.read { svc with handler := svc.handler } 1).router.registry.handle? ⟨4097⟩).map (·.queue.close) =
        some (some .backpressureOverflow) := by decide +kernel
    rw [hsame.after] at hclose
    exact ⟨s, queue, hreplied, hsame, Option.some.inj hclose⟩

end Gateway
end EventGateway
