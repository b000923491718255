import Mathlib.Data.List.Forall2
import EventGateway.Proofs.Grammar
import EventGateway.Proofs.RoundTrip
/-!
# Recoding — a client may write text or binary, frame by frame

A frame is read for its payload and for nothing else.  So two gateways whose clients sent the same payloads, each frame
in whichever form, are `Recoded`: they differ in what is waiting to be read, and in what has been noted.  There is one
lemma for each operation of the gateway, and from them every step and every run keeps them so (`Recoded.step`,
`Recoded.run`).
-/
namespace EventGateway

namespace Wire

/-- A frame in which a client says something: one that is read as the payload, or a spelling of it that keeps to the
limit. -/
def Frame.Says (limit : UInt64) (p : Payload) (f : Frame) : Prop :=
  f.decode limit.toNat = .ok p ∨
    ∃ seq encoding, f = (⟨seq, p⟩ : Envelope).encode encoding ∧ f.size ≤ limit.toNat

/-- Either spelling is read as the payload. -/
theorem Frame.Says.decode {limit : UInt64} {p : Payload} {f : Frame} (h : f.Says limit p) :
    f.decode limit.toNat = .ok p := by
  rcases h with h | ⟨seq, encoding, rfl, hsize⟩
  · exact h
  · rw [Frame.decode, if_neg (Nat.not_lt.2 hsize)]
    cases encoding with
    | json =>
      rw [Envelope.encode, Frame.read, Json.readText_render EnvelopeParts.ofJson (plain_envelope _), ofJson_envelope]
      rfl
    | protobuf =>
      refine ofBinary_envelope ⟨seq, p⟩ (Nat.lt_of_le_of_lt ?_ limit.toNat_lt)
      refine Nat.le_trans ?_ hsize
      simp only [Envelope.encode, Frame.size, Envelope.binary, writeBytes, List.length_append]
      omega

theorem Frame.size_le_of_decode {limit : Nat} {p : Payload} {f : Frame} (h : f.decode limit = .ok p) :
    f.size ≤ limit := by
  rw [Frame.decode] at h
  split at h
  · cases h
  · exact Nat.le_of_not_lt ‹_›

end Wire

/-- What comes out of a transport is the same, or frames that are read alike. -/
inductive Inbound.Recoded (limit : Nat) : Inbound → Inbound → Prop where
  | same (m : Inbound) : Recoded limit m m
  | frame (f f' : Wire.Frame) (h : f.decode limit = f'.decode limit) :
    Recoded limit (.message (.frame f)) (.message (.frame f'))

/-- **Links that differ in what is waiting to be read**, and there in the form of the frames. -/
structure Link.Recoded (limit : Nat) (l l' : Link) : Prop where
  phase : l.phase = l'.phase
  bootstrap : l.bootstrap = l'.bootstrap
  inbox : List.Forall₂ (Inbound.Recoded limit) l.inbox l'.inbox
  transport : l.transport = l'.transport
  sent : l.sent = l'.sent
  heardAt : l.heardAt = l'.heardAt

namespace Link.Recoded

variable {limit : Nat} {l l' : Link}

theorem refl (limit : Nat) (l : Link) : l.Recoded limit l :=
  ⟨rfl, rfl, List.forall₂_same.2 fun m _ => .same m, rfl, rfl, rfl⟩

/-- They are one link with two inboxes. -/
theorem exists_inbox (h : l.Recoded limit l') :
    ∃ inbox, List.Forall₂ (Inbound.Recoded limit) l.inbox inbox ∧ l' = { l with inbox } := by
  obtain ⟨phase, bootstrap, inbox, transport, sent, heardAt⟩ := l
  obtain ⟨phase', bootstrap', inbox', transport', sent', heardAt'⟩ := l'
  obtain ⟨rfl, rfl, hinbox, rfl, rfl, rfl⟩ := h
  exact ⟨inbox', hinbox, rfl⟩

theorem ended (h : l.Recoded limit l') : l.ended.Recoded limit l'.ended :=
  ⟨rfl, h.bootstrap, h.inbox, h.transport, h.sent, h.heardAt⟩

theorem withBootstrap (h : l.Recoded limit l') (bootstrap : Bootstrap) :
    Recoded limit { l with bootstrap } { l' with bootstrap } :=
  ⟨h.phase, rfl, h.inbox, h.transport, h.sent, h.heardAt⟩

theorem said (h : l.Recoded limit l') (encoding : Wire.Encoding) (es : List Wire.Envelope) :
    (l.said encoding es).Recoded limit (l'.said encoding es) :=
  ⟨h.phase, h.bootstrap, h.inbox, h.transport, by rw [Link.said, Link.said, h.sent], h.heardAt⟩

/-- Both transports take what is sent, or neither. -/
theorem send? (h : l.Recoded limit l') (s : Sent) : (l.send? s = none ∧ l'.send? s = none) ∨
    ∃ l₁ l₁', l.send? s = some l₁ ∧ l'.send? s = some l₁' ∧ l₁.Recoded limit l₁' := by
  unfold Link.send?
  rw [h.transport]
  split
  · exact .inl ⟨rfl, rfl⟩
  · exact .inr ⟨_, _, rfl, rfl, h.phase, h.bootstrap, h.inbox, rfl, by rw [h.sent], h.heardAt⟩

theorem signedOff (h : l.Recoded limit l') (code : CloseCode) :
    (l.signedOff code).Recoded limit (l'.signedOff code) := by
  unfold Link.signedOff
  rcases h.send? (.close code) with ⟨hl, hl'⟩ | ⟨l₁, l₁', hl, hl', h₁⟩
  · rw [hl, hl']; exact h
  · rw [hl, hl']; exact h₁

theorem dismissed (h : l.Recoded limit l') (code? : Option CloseCode) :
    (l.dismissed code?).Recoded limit (l'.dismissed code?) := by
  cases code? with
  | none => exact h.ended
  | some code => exact h.ended.signedOff code

theorem stopped (h : l.Recoded limit l') (svc : Service) (session : SessionId) :
    (l.stopped svc session).Recoded limit (l'.stopped svc session) :=
  ⟨rfl, h.bootstrap, h.inbox, h.transport, h.sent, h.heardAt⟩

theorem goesOn (h : l.Recoded limit l') (out : Outgoing) : l.goesOn out = l'.goesOn out := by
  rw [Link.goesOn, Link.goesOn, h.transport]

theorem written (h : l.Recoded limit l') (encoding : Wire.Encoding) (out : Outgoing) :
    (l.written encoding out).Recoded limit (l'.written encoding out) := by
  have hsaid : (if out.finished || l.transport == .cut then l
      else out.close.elim (l.said encoding out.envelopes) ((l.said encoding out.envelopes).signedOff ·)).Recoded limit
      (if out.finished || l'.transport == .cut then l'
      else out.close.elim (l'.said encoding out.envelopes) ((l'.said encoding out.envelopes).signedOff ·)) := by
    rw [h.transport]
    split
    · exact h
    · cases out.close with
      | none => exact h.said ..
      | some code => exact (h.said ..).signedOff code
  unfold Link.written
  dsimp only
  rw [h.goesOn]
  split
  · exact hsaid
  · exact hsaid.ended

end Link.Recoded

namespace Gateway

/-- **Gateways whose clients have said the same**, each frame in either form. -/
structure Recoded (limit : Nat) (g g' : Gateway) : Prop where
  now : g.now = g'.now
  router : g.router.SameBooks g'.router
  links : List.Forall₂ (fun x x' : ConnectionId × Link => x.1 = x'.1 ∧ x.2.Recoded limit x'.2) g.links g'.links

section Operations

variable {limit : Nat} {g g' g₁ g₁' : Gateway} {id : ConnectionId} {l l' : Link}

theorem Recoded.refl (limit : Nat) (g : Gateway) : g.Recoded limit g :=
  ⟨rfl, .refl _, List.forall₂_same.2 fun _ _ => ⟨rfl, .refl ..⟩⟩

theorem Recoded.of_same (h : g.Recoded limit g') (hg : g₁.SameBooks g) (hg' : g₁'.SameBooks g') :
    g₁.Recoded limit g₁' :=
  ⟨hg.now.trans (h.now.trans hg'.now.symm), hg.router.trans (h.router.trans hg'.router.symm), by
    rw [hg.links, hg'.links]; exact h.links⟩

theorem Recoded.put (h : g.Recoded limit g') (id : ConnectionId) (hl : l.Recoded limit l') :
    (g.put id l).Recoded limit (g'.put id l') := by
  refine ⟨h.now, h.router, ?_⟩
  refine List.forall₂_map_left_iff.2 (List.forall₂_map_right_iff.2 (h.links.imp fun x x' hx => ?_))
  rw [hx.1]
  split
  · exact ⟨rfl, hl⟩
  · exact hx

theorem Recoded.turned (h : g.Recoded limit g') (id : ConnectionId) (calls : List Router.Step)
    (hl : l.Recoded limit l') : (g.turned id calls l).Recoded limit (g'.turned id calls l') :=
  Recoded.put (⟨h.now, .run calls h.router, h.links⟩ : Recoded limit { g with router := g.router.run calls }
    { g' with router := g'.router.run calls }) id hl

/-- What comes of it if both make the same calls. -/
theorem Recoded.of_turned (h : g.Recoded limit g') {calls : List Router.Step} (hl : l.Recoded limit l')
    (hg : g₁.SameBooks (g.turned id calls l)) (hg' : g₁'.SameBooks (g'.turned id calls l')) : g₁.Recoded limit g₁' :=
  (h.turned id calls hl).of_same hg hg'

/-- A connection is there on both sides, or on neither. -/
theorem Recoded.link? (h : g.Recoded limit g') (id : ConnectionId) :
    (g.link? id = none ∧ g'.link? id = none) ∨
      ∃ l l', g.link? id = some l ∧ g'.link? id = some l' ∧ l.Recoded limit l' := by
  have hlookup : ∀ {xs xs' : List (ConnectionId × Link)},
      List.Forall₂ (fun x x' : ConnectionId × Link => x.1 = x'.1 ∧ x.2.Recoded limit x'.2) xs xs' →
        (xs.lookup id = none ∧ xs'.lookup id = none) ∨
          ∃ l l', xs.lookup id = some l ∧ xs'.lookup id = some l' ∧ l.Recoded limit l' := by
    intro xs xs' hxs
    induction hxs with
    | nil => exact .inl ⟨rfl, rfl⟩
    | @cons x x' xs xs' hx _ ih =>
      obtain ⟨i, l⟩ := x
      obtain ⟨i', l'⟩ := x'
      obtain ⟨rfl, hl⟩ : i = i' ∧ l.Recoded limit l' := hx
      rw [List.lookup_cons, List.lookup_cons]
      cases id == i with
      | true => exact .inr ⟨l, l', rfl, rfl, hl⟩
      | false => exact ih
  exact hlookup h.links

/-- What is done with a link if there is one is done on both sides, or on neither. -/
theorem Recoded.onLink (h : g.Recoded limit g') (id : ConnectionId) {f f' : Link → Gateway}
    (hf : ∀ l l', l.Recoded limit l' → (f l).Recoded limit (f' l')) : Recoded limit
      (match g.link? id with
        | some l => f l
        | none => g)
      (match g'.link? id with
        | some l => f' l
        | none => g') := by
  rcases h.link? id with ⟨hl, hl'⟩ | ⟨l, l', hl, hl', hlink⟩
  · rw [hl, hl']
    exact h
  · rw [hl, hl']
    exact hf l l' hlink

/-! ## Ending a connection -/

theorem Recoded.endBootstrap (h : g.Recoded limit g') (connection : Connection) (e : ConnectionError)
    (hl : l.Recoded limit l') :
    (g.endBootstrap id connection e l).Recoded limit (g'.endBootstrap id connection e l') :=
  h.of_turned (hl.dismissed _) (endBootstrap_same ..) (endBootstrap_same ..)

theorem Recoded.cleanup (h : g.Recoded limit g') (session : SessionId) (hl : l.Recoded limit l') :
    (g.cleanup id session l).Recoded limit (g'.cleanup id session l') :=
  h.of_turned hl.ended (cleanup_same ..) (cleanup_same ..)

theorem Recoded.endReader (h : g.Recoded limit g') (svc : Service) (session : SessionId) (code : CloseCode)
    (hl : l.Recoded limit l') :
    (g.endReader svc id session code l).Recoded limit (g'.endReader svc id session code l') :=
  h.of_turned (hl.stopped svc session) (endReader_same ..) (endReader_same ..)

theorem Recoded.note (h : g.Recoded limit g') (level level' : Level) (message message' : String)
    (details details' : List (String × Detail)) :
    (g.note level message details).Recoded limit (g'.note level' message' details') :=
  h.of_same (note_same ..) (note_same ..)

theorem Recoded.violation (h : g.Recoded limit g') (svc : Service) (session : SessionId) (e : ConnectionError)
    (hl : l.Recoded limit l') :
    (g.violation svc id session e l).Recoded limit (g'.violation svc id session e l') := by
  unfold Gateway.violation
  dsimp only
  split
  · exact (h.note ..).endReader svc session _ hl
  · exact (h.note ..).cleanup session hl

theorem Recoded.lose (h : g.Recoded limit g') (session : SessionId) (hl : l.Recoded limit l') :
    (g.lose id session l).Recoded limit (g'.lose id session l') := by
  unfold Gateway.lose
  rw [hl.bootstrap]
  exact (h.note ..).cleanup session (hl.withBootstrap _)

/-! ## Reading -/

theorem Recoded.identify (h : g.Recoded limit g') {svc : Service} (hlimit : limit = svc.settings.maxFrameBytes.toNat)
    (connection : Connection) (deadline : Nat) {f f' : Wire.Frame} (hf : f.decode limit = f'.decode limit)
    (hl : l.Recoded limit l') :
    (g.identify svc id connection deadline f l).Recoded limit (g'.identify svc id connection deadline f' l') := by
  unfold Gateway.identify
  rw [← hlimit, hf, hl.bootstrap, h.now]
  cases f'.decode limit with
  | error fault => exact h.endBootstrap connection _ (hl.withBootstrap _)
  | ok p =>
    dsimp only
    split
    · exact h.endBootstrap connection _ (hl.withBootstrap _)
    · exact h.put id ⟨rfl, rfl, hl.inbox, hl.transport, hl.sent, hl.heardAt⟩
    · exact (h.note ..).endBootstrap connection _ (hl.withBootstrap _)

theorem Recoded.serve (h : g.Recoded limit g') {svc : Service} (hlimit : limit = svc.settings.maxFrameBytes.toNat)
    (session : SessionId) {f f' : Wire.Frame} (hf : f.decode limit = f'.decode limit) (hl : l.Recoded limit l') :
    (g.serve svc id session f l).Recoded limit (g'.serve svc id session f' l') := by
  have hhandled : ∀ {g g' : Gateway} (p : Wire.Payload), g.Recoded limit g' →
      Recoded limit { g with router := (g.router.handle svc.handler g.now session p).2 }
        { g' with router := (g'.router.handle svc.handler g'.now session p).2 } := by
    intro g g' p h
    refine ⟨h.now, ?_, h.links⟩
    show Router.SameBooks (g.router.handle svc.handler g.now session p).2
      (g'.router.handle svc.handler g'.now session p).2
    rw [h.now]
    exact (Router.handle_same ..).trans ((h.router.step _).trans (Router.handle_same ..).symm)
  unfold Gateway.serve
  rw [← hlimit, hf, hl.bootstrap]
  cases f'.decode limit with
  | error fault => exact h.violation svc session _ (hl.withBootstrap _)
  | ok p =>
    dsimp only
    split
    · exact (h.note ..).violation svc session _ (hl.withBootstrap _)
    · exact (hhandled _ (h.note ..)).put id (hl.withBootstrap _)
    · exact ((h.note ..).note ..).violation svc session _ (hl.withBootstrap _)

theorem Recoded.readIdentifying (h : g.Recoded limit g') {svc : Service}
    (hlimit : limit = svc.settings.maxFrameBytes.toNat) (connection : Connection) (deadline : Nat) {m m' : Inbound}
    (hm : Inbound.Recoded limit m m') (hl : l.Recoded limit l') :
    (g.readIdentifying svc id connection deadline m l).Recoded limit
      (g'.readIdentifying svc id connection deadline m' l') := by
  unfold Gateway.readIdentifying
  rw [hl.bootstrap]
  cases hm with
  | frame f f' hf => exact h.identify hlimit connection deadline hf hl
  | same =>
    dsimp only
    split
    · exact h.endBootstrap connection _ (hl.withBootstrap _)
    · exact h.endBootstrap connection _ (hl.withBootstrap _)
    · rename_i payload
      rcases hl.send? (.pong payload) with ⟨hsend, hsend'⟩ | ⟨l₁, l₁', hsend, hsend', hl₁⟩
      · rw [hsend, hsend']
        exact h.endBootstrap connection _ (hl.withBootstrap _)
      · rw [hsend, hsend']
        exact h.put id hl₁
    · exact h.put id hl
    · exact h.identify hlimit connection deadline rfl hl

theorem Recoded.readLive (h : g.Recoded limit g') {svc : Service} (hlimit : limit = svc.settings.maxFrameBytes.toNat)
    (session : SessionId) {m m' : Inbound} (hm : Inbound.Recoded limit m m') (hl : l.Recoded limit l') :
    (g.readLive svc id session m l).Recoded limit (g'.readLive svc id session m' l') := by
  have hheard : ∀ phase bootstrap heardAt,
      Link.Recoded limit { l with phase, bootstrap, heardAt } { l' with phase, bootstrap, heardAt } :=
    fun _ _ _ => ⟨rfl, rfl, hl.inbox, hl.transport, hl.sent, rfl⟩
  unfold Gateway.readLive
  rw [hl.bootstrap, h.now]
  cases hm with
  | frame f f' hf => exact h.serve hlimit session hf (hheard ..)
  | same =>
    dsimp only
    split
    · exact h.lose session hl
    · exact (h.note ..).cleanup session (hheard ..)
    · rename_i payload
      rcases (hheard (.live session (g'.now.ticks + svc.settings.heartbeatTimeout.toNat)) l'.bootstrap
        g'.now.ticks).send? (.pong payload) with ⟨hsend, hsend'⟩ | ⟨l₁, l₁', hsend, hsend', hl₁⟩
      · rw [hsend, hsend']
        exact h.lose session (hheard ..)
      · rw [hsend, hsend']
        exact h.put id hl₁
    · exact h.put id (hheard ..)
    · exact h.serve hlimit session rfl (hheard ..)

theorem Recoded.read (h : g.Recoded limit g') (svc : Service) (hlimit : limit = svc.settings.maxFrameBytes.toNat)
    (id : ConnectionId) : (g.read svc id).Recoded limit (g'.read svc id) := by
  unfold Gateway.read
  refine h.onLink id fun l l' hlink => ?_
  obtain ⟨inbox', hinbox, rfl⟩ := hlink.exists_inbox
  obtain ⟨phase, bootstrap, inbox, transport, sent, heardAt⟩ := l
  -- Either there is a message on both sides, or on neither.
  cases hinbox with
  | nil => cases phase <;> exact h
  | cons hm hrest =>
    cases phase with
    | identifying connection deadline =>
      exact h.readIdentifying hlimit connection deadline hm ⟨rfl, rfl, hrest, rfl, rfl, rfl⟩
    | live session idleAt => exact h.readLive hlimit session hm ⟨rfl, rfl, hrest, rfl, rfl, rfl⟩
    | _ => exact h

/-! ## All that can happen -/

/-- A transport takes either form, so nothing tells them apart before they are read. -/
theorem recoded_arrived {svc : Service} {f f' : Wire.Frame} (hlimit : limit = svc.settings.maxFrameBytes.toNat)
    (hsize : f.size ≤ limit) (hsize' : f'.size ≤ limit) (hf : f.decode limit = f'.decode limit) :
    Inbound.Recoded limit
      (if (Message.frame f).fits svc.settings.transportLimit then .message (.frame f) else .fault)
      (if (Message.frame f').fits svc.settings.transportLimit then .message (.frame f') else .fault) := by
  have hfits : ∀ {f : Wire.Frame}, f.size ≤ limit → (Message.frame f).fits svc.settings.transportLimit = true := by
    intro f hsize
    simp only [Message.fits, Settings.transportLimit, ← hlimit, decide_eq_true_eq]
    omega
  rw [if_pos (hfits hsize), if_pos (hfits hsize')]
  exact .frame f f' hf

theorem Recoded.arrive (h : g.Recoded limit g') (svc : Service) (id : ConnectionId) {m m' : Message}
    (hm : Inbound.Recoded limit (if m.fits svc.settings.transportLimit then .message m else .fault)
      (if m'.fits svc.settings.transportLimit then .message m' else .fault)) :
    (g.arrive svc id m).Recoded limit (g'.arrive svc id m') := by
  unfold Gateway.arrive
  exact h.onLink id fun l l' hlink => h.put id ⟨hlink.phase, hlink.bootstrap,
    List.rel_append hlink.inbox (.cons hm .nil), hlink.transport, hlink.sent, hlink.heardAt⟩

theorem Recoded.cut (h : g.Recoded limit g') (id : ConnectionId) : (g.cut id).Recoded limit (g'.cut id) := by
  unfold Gateway.cut
  exact h.onLink id fun l l' hlink => h.put id ⟨hlink.phase, hlink.bootstrap,
    List.rel_append hlink.inbox (.cons (.same _) .nil), rfl, hlink.sent, hlink.heardAt⟩

/-- The same connection begins. -/
theorem Recoded.added (h : g.Recoded limit g') (svc : Service) {x : Step} {l : Link} (hx : x.added? svc g = some l) :
    (g.step svc x).Recoded limit (g'.step svc x) := by
  have hid : g.newId = g'.newId := congrArg (· + 1) h.links.length_eq
  have hx' : x.added? svc g' = some l := by
    unfold Step.added? at hx ⊢
    rwa [← hid, ← h.now]
  have hadded : Recoded limit { g with links := g.links ++ [(g.newId, l)] }
      { g' with links := g'.links ++ [(g'.newId, l)] } := by
    rw [hid]
    exact ⟨h.now, h.router, List.rel_append h.links (.cons ⟨rfl, .refl ..⟩ .nil)⟩
  exact hadded.of_same (step_same_of_added? hx) (step_same_of_added? hx')

theorem Recoded.createSession (h : g.Recoded limit g') (svc : Service) (connection : Connection) (who : Identity)
    (asked : UInt32) (hl : l.Recoded limit l') :
    (g.createSession svc id connection who asked l).Recoded limit
      (g'.createSession svc id connection who asked l') := by
  rcases h.router.create g.now connection who (.negotiate svc.capabilities asked) with
    ⟨e, he, he'⟩ | ⟨s, r, r', hr, hr', -⟩
  · rw [h.now] at he'
    exact h.of_turned (hl.dismissed _) (createSession_same_of_error he) (createSession_same_of_error he')
  · have hlive : ∀ phase heardAt, Link.Recoded limit { l with phase, heardAt } { l' with phase, heardAt } :=
      fun _ _ => ⟨rfl, hl.bootstrap, hl.inbox, hl.transport, hl.sent, rfl⟩
    rw [h.now] at hr'
    refine h.of_turned (hlive ..) (createSession_same_of_ok hr) ?_
    rw [h.now]
    exact createSession_same_of_ok hr'

theorem Recoded.judged (h : g.Recoded limit g') (svc : Service) (id : ConnectionId)
    (answer : Except AuthError Identity) : (g.judged svc id answer).Recoded limit (g'.judged svc id answer) := by
  unfold Gateway.judged
  refine h.onLink id fun l l' hlink => ?_
  obtain ⟨inbox, hinbox, rfl⟩ := hlink.exists_inbox
  dsimp only
  split
  · split
    · split
      · exact (h.note ..).endBootstrap _ _ (hlink.withBootstrap _)
      · exact ((h.note ..).note ..).endBootstrap _ _ (hlink.withBootstrap _)
    · split
      · exact h.endBootstrap _ _ (hlink.withBootstrap _)
      · exact h.createSession svc _ _ _ (hlink.withBootstrap _)
      · exact (h.note ..).endBootstrap _ _ (hlink.withBootstrap _)
  · exact h

theorem Recoded.expire (h : g.Recoded limit g') (svc : Service) (id : ConnectionId) :
    (g.expire svc id).Recoded limit (g'.expire svc id) := by
  unfold Gateway.expire
  refine h.onLink id fun l l' hlink => ?_
  obtain ⟨inbox, hinbox, rfl⟩ := hlink.exists_inbox
  dsimp only
  split
  · exact h.endBootstrap _ _ (hlink.withBootstrap _)
  · exact h.endBootstrap _ _ (hlink.withBootstrap _)
  · split
    · exact (h.note ..).endReader svc _ _ (hlink.withBootstrap _)
    · exact (h.note ..).cleanup _ (hlink.withBootstrap _)
  · exact h
  · exact h

theorem Recoded.lapse (h : g.Recoded limit g') (id : ConnectionId) : (g.lapse id).Recoded limit (g'.lapse id) := by
  unfold Gateway.lapse
  refine h.onLink id fun l l' hlink => ?_
  rw [hlink.phase]
  split
  · exact h.cleanup _ hlink
  · exact h

theorem Recoded.flush (h : g.Recoded limit g') (id : ConnectionId) : (g.flush id).Recoded limit (g'.flush id) := by
  rcases h.link? id with ⟨hl, hl'⟩ | ⟨l, l', hl, hl', hlink⟩
  · unfold Gateway.flush
    rw [hl, hl']
    exact h
  · by_cases hturn : ∃ session s out, l.phase.session? = some session ∧
        g.router.registry.handle? session = some s ∧ s.nextOutgoing.1 = some out
    · obtain ⟨session, s, out, hphase, hs, hout⟩ := hturn
      have hflush' := flush_same hl' (hlink.phase ▸ hphase) (h.router.registry ▸ hs) hout
      rw [← hlink.goesOn] at hflush'
      exact h.of_turned (hlink.written _ out) (flush_same hl hphase hs hout) hflush'
    · have hnothing : ∀ session, l.phase.session? = some session →
          ∀ s, g.router.registry.handle? session = some s → s.nextOutgoing.1 = none := by
        intro session hphase s hs
        refine Classical.byContradiction fun hne => ?_
        obtain ⟨out, hout⟩ := Option.ne_none_iff_exists'.1 hne
        exact hturn ⟨session, s, out, hphase, hs, hout⟩
      rw [flush_eq_self hl hnothing, flush_eq_self hl' (hlink.phase ▸ h.router.registry ▸ hnothing)]
      exact h

end Operations

/-! ## Steps and runs -/

/-- **What happens in two runs alike**: a client says the same, in either form. -/
inductive Step.Recoded (limit : UInt64) : Step → Step → Prop where
  | same (x : Step) : Recoded limit x x
  | said (id : ConnectionId) (p : Wire.Payload) (f f' : Wire.Frame) (hf : f.Says limit p) (hf' : f'.Says limit p) :
    Recoded limit (.arrive id (.frame f)) (.arrive id (.frame f'))

section Runs

variable {svc : Service} {g g' : Gateway}

theorem Recoded.step_same (h : g.Recoded svc.settings.maxFrameBytes.toNat g') (x : Step) :
    (g.step svc x).Recoded svc.settings.maxFrameBytes.toNat (g'.step svc x) := by
  cases x with
  | opened | unreached => exact h.added svc rfl
  | arrive id m => exact h.arrive svc id (.same _)
  | cut id => exact h.cut id
  | read id c => exact h.read { svc with handler := c.toCommandHandler } rfl id
  | judged id answer => exact h.judged svc id answer
  | expire id => exact h.expire svc id
  | lapse id => exact h.lapse id
  | flush id => exact h.flush id
  | publish e =>
    have hpublish : (g.publish e).2.router.SameBooks (g'.publish e).2.router := by
      show (g.router.publish g.now e).2.SameBooks (g'.router.publish g'.now e).2
      rw [h.now]
      exact h.router.publish g'.now e
    exact ⟨h.now, hpublish, h.links⟩
  | pass now => exact ⟨rfl, h.router, h.links⟩

/-- **Every step keeps them alike.** -/
theorem Recoded.step (h : g.Recoded svc.settings.maxFrameBytes.toNat g') {x y : Step}
    (hxy : Step.Recoded svc.settings.maxFrameBytes x y) :
    (g.step svc x).Recoded svc.settings.maxFrameBytes.toNat (g'.step svc y) := by
  cases hxy with
  | same => exact h.step_same x
  | said id p f f' hf hf' =>
    have hread := hf.decode
    have hread' := hf'.decode
    exact h.arrive svc id (recoded_arrived rfl (Wire.Frame.size_le_of_decode hread)
      (Wire.Frame.size_le_of_decode hread') (hread.trans hread'.symm))

theorem Recoded.run (h : g.Recoded svc.settings.maxFrameBytes.toNat g') {xs ys : List Step}
    (hxys : List.Forall₂ (Step.Recoded svc.settings.maxFrameBytes) xs ys) :
    (g.run svc xs).Recoded svc.settings.maxFrameBytes.toNat (g'.run svc ys) := by
  induction hxys generalizing g g' with
  | nil => exact h
  | cons hxy _ ih => exact ih (h.step hxy)

/-! ## What is done with the machines -/

theorem machineCalls_recoded {limit : Nat} {l l' : Link} (h : l.Recoded limit l') (x : Step) :
    l.machineCalls limit x = l'.machineCalls limit x := by
  have hcalls : ∀ {m m' : Inbound}, Inbound.Recoded limit m m' →
      l.machineCallsOf limit m = l'.machineCallsOf limit m' := by
    intro m m' hm
    cases hm with
    | same =>
      unfold Link.machineCallsOf
      rw [h.transport]
    | frame f f' hf =>
      unfold Link.machineCallsOf
      dsimp only
      rw [hf]
  obtain ⟨inbox, hinbox, rfl⟩ := h.exists_inbox
  cases x with
  | read id c =>
    have hhead : l.inbox.head?.elim [] (l.machineCallsOf limit) =
        inbox.head?.elim [] (Link.machineCallsOf limit { l with inbox }) := by
      generalize l.inbox = inbox₀ at hinbox
      cases hinbox with
      | nil => rfl
      | cons hm _ => exact hcalls hm
    exact if_congr Iff.rfl hhead rfl
  | judged id answer => cases answer <;> rfl
  | _ => rfl

theorem Recoded.history (h : g.Recoded svc.settings.maxFrameBytes.toNat g') {xs ys : List Step}
    (hxys : List.Forall₂ (Step.Recoded svc.settings.maxFrameBytes) xs ys) (id : ConnectionId) :
    Gateway.history svc id xs g = Gateway.history svc id ys g' := by
  induction hxys generalizing g g' with
  | nil => rfl
  | @cons x y xs ys hxy _ ih =>
    rw [Gateway.history, Gateway.history, ih (h.step hxy)]
    refine congrArg (· ++ _) ?_
    have hat : x.at? = y.at? := by cases hxy <;> rfl
    rw [hat]
    refine if_congr Iff.rfl ?_ rfl
    rcases h.link? id with ⟨hl, hl'⟩ | ⟨l, l', hl, hl', hlink⟩
    · rw [hl, hl']
      rfl
    · rw [hl, hl']
      -- Nothing is done with a machine when a frame arrives.
      cases hxy with
      | same => exact machineCalls_recoded hlink x
      | said => rfl

end Runs

/-- **A client may write its frames in either form**, one in text and the next in binary.  The machines go through the
same inputs, the sessions and the counters are the same, and so is everything about each link but what it has not read
yet; so each client is sent the same frames and the same close code.  The frames are in the encoding that was agreed
upon when the connection was opened. -/
theorem run_recoded (svc : Service) (ids : Generator) (now : Moment) {xs ys : List Step}
    (alike : List.Forall₂ (Step.Recoded svc.settings.maxFrameBytes) xs ys) :
    let g₀ := new svc ids now
    let g := g₀.run svc xs
    let g' := g₀.run svc ys
    (∀ id, history svc id xs g₀ = history svc id ys g₀) ∧
      g.router.registry = g'.router.registry ∧ g.router.stats = g'.router.stats ∧ g.now = g'.now ∧
      (∀ id, (g.link? id).map (·.sent) = (g'.link? id).map (·.sent)) ∧
      (∀ id, (g.link? id).map (fun l => { l with inbox := [] }) = (g'.link? id).map (fun l => { l with inbox := [] })) ∧
      (g.router.registry.ids.Fits → ∀ before request peer after encoding version,
        xs = before ++ .opened request peer :: after → request.negotiate svc.versions = .ok (encoding, version) →
          ∃ l, g.link? (g₀.run svc before).newId = some l ∧ ∀ f, .frame f ∈ l.sent → f.encoding = encoding) := by
  intro g₀ g g'
  have hrecoded : g.Recoded svc.settings.maxFrameBytes.toNat g' := (Recoded.refl _ g₀).run alike
  have hlinks : ∀ id, (g.link? id).map (fun l => { l with inbox := [] }) =
      (g'.link? id).map (fun l => { l with inbox := [] }) := by
    intro id
    rcases hrecoded.link? id with ⟨hl, hl'⟩ | ⟨l, l', hl, hl', hlink⟩
    · rw [hl, hl']
    · obtain ⟨inbox, -, rfl⟩ := hlink.exists_inbox
      rw [hl, hl']
      rfl
  refine ⟨fun id => (Recoded.refl _ g₀).history alike id, hrecoded.router.registry, hrecoded.router.stats, hrecoded.now,
    fun id => ?_, hlinks, ?_⟩
  · have hsent := congrArg (Option.map Link.sent) (hlinks id)
    rwa [Option.map_map, Option.map_map] at hsent
  · rintro hfits before request peer after encoding version rfl hnegotiate
    obtain ⟨l, hl, hspoken⟩ := spoken_opened svc ids now before after request peer hfits hnegotiate
    obtain ⟨said, es, closes, lost, hsent, -, htold, -⟩ := hspoken.sent
    refine ⟨l, hl, fun f hf => encoding_of_told htold ?_⟩
    rw [hsent] at hf
    exact (List.mem_append.1 hf).resolve_right (by simp)

/-- An Identify in text and a Subscribe in binary, or the other way round: all three answers are in text. -/
theorem run_recoded_mixed :
    let svc : Service := ⟨Settings.standard, ⟨[⟨2, 0⟩], by decide⟩, .all, .table [], 0, LocalChannels.handler ⟨[]⟩⟩
    let reading := Step.read 1 (LocalChannels.collaborator ⟨[]⟩)
    let sends (encoding : Wire.Encoding) (p : Wire.Payload) :=
      Step.arrive 1 (.frame ((Wire.Envelope.unsequenced p).encode encoding))
    let script (first second : Wire.Encoding) := [.opened ⟨some "json", none⟩ ⟨"", none⟩,
      sends first (.identify ⟨"t", 7, ""⟩), reading, .judged 1 (.ok ⟨⟨7⟩, ""⟩), sends second (.subscribe "user:5" 0),
      reading, .flush 1]
    let g := (new svc ⟨1, 0, 0⟩ ⟨0, 0⟩).run svc (script .json .protobuf)
    let g' := (new svc ⟨1, 0, 0⟩ ⟨0, 0⟩).run svc (script .protobuf .json)
    g.router.registry.ids.Fits ∧ (g.link? 1).map (·.sent.length) = some 3 ∧
      (g.link? 1).map (·.sent) = (g'.link? 1).map (·.sent) ∧
        ∃ l, g.link? 1 = some l ∧ ∀ f, .frame f ∈ l.sent → f.encoding = .json := by
  intro svc reading sends script g g'
  have hspelt : ∀ (encoding : Wire.Encoding) (p : Wire.Payload),
      ((Wire.Envelope.unsequenced p).encode encoding).size ≤ svc.settings.maxFrameBytes.toNat →
        ((Wire.Envelope.unsequenced p).encode encoding).Says svc.settings.maxFrameBytes p :=
    fun encoding _ hsize => .inr ⟨0, encoding, rfl, hsize⟩
  have halike : List.Forall₂ (Step.Recoded svc.settings.maxFrameBytes) (script .json .protobuf)
      (script .protobuf .json) :=
    .cons (.same _) <|
    .cons (.said 1 _ _ _ (hspelt .json _ (by decide +kernel)) (hspelt .protobuf _ (by decide +kernel))) <|
    .cons (.same _) <| .cons (.same _) <|
    .cons (.said 1 _ _ _ (hspelt .protobuf _ (by decide +kernel)) (hspelt .json _ (by decide +kernel))) <|
    .cons (.same _) <| .cons (.same _) .nil
  have hfits : g.router.registry.ids.Fits := by
    show _ * _ < _
    decide +kernel
  have hlength : (g.link? 1).map (·.sent.length) = some 3 := by decide +kernel
  have hgranted : (Opening.negotiate ⟨some "json", none⟩ svc.versions).toOption = some (.json, ⟨2, 0⟩) := by
    decide +kernel
  obtain ⟨-, -, -, -, hsent, -, hencoding⟩ := run_recoded svc ⟨1, 0, 0⟩ ⟨0, 0⟩ halike
  cases hnegotiate : Opening.negotiate ⟨some "json", none⟩ svc.versions with
  | error fault => rw [hnegotiate] at hgranted; cases hgranted
  | ok granted =>
    rw [hnegotiate] at hgranted
    obtain rfl := Option.some.inj hgranted
    exact ⟨hfits, hlength, hsent 1, hencoding hfits [] _ _ _ _ _ rfl hnegotiate⟩

end Gateway
end EventGateway
