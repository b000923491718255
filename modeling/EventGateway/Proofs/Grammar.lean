import EventGateway.Proofs.Connections
/-!
# Grammar — what a client is told, and in which order

A client that is refused is told so by a close frame and nothing else.  Any other is greeted first; when it has been
identified it is told that it is ready, after a notice of the events it has missed by then if there are any; and from
then on it hears of what it asked for.  A close frame comes last.  What is told comes from the bootstrap, from the queue
and from whoever closes, so `Spoken` says for each phase what has been told already and what stands in the queue still,
and every passage keeps it (`Passage.spoken`).
-/
namespace EventGateway

namespace Wire

theorem Envelope.encoding_encode (e : Envelope) (encoding : Encoding) : (e.encode encoding).encoding = encoding := by
  cases encoding <;> rfl

theorem Payload.isSequenced_of_ready {p : Payload} (h : p.variant = .ready) : p.isSequenced = false := by
  simp only [Payload.isSequenced, Payload.role, h]
  rfl

end Wire

def Sent.isPong : Sent → Bool
  | .pong _ => true
  | _ => false

namespace Link

/-- All that the client was sent but answers to its pings. -/
def told (l : Link) : List Sent := l.sent.filter (!·.isPong)

end Link

/-- The frames of some envelopes. -/
def Wire.Encoding.frames (encoding : Wire.Encoding) (es : List Wire.Envelope) : List Sent :=
  es.map (fun e => .frame (e.encode encoding))

/-- **The envelopes of one connection, in order**, if `lost` dispatches were lost before the writer had its first turn.
Losses are told of before anything else in the queue, so a notice of them stands before the news that the session is
ready.  There is none if nothing was lost, and nothing else can stand there. -/
inductive Dialogue (hello : Wire.Envelope) (lost : Nat) : List Wire.Envelope → Prop where
  | greeted : Dialogue hello lost [hello]
  | ready (notice : List Wire.Envelope) (r : Wire.Envelope) (later : List Wire.Envelope)
    (hnotice : notice.map (·.payload) = if 0 < lost then [.eventsMissed (UInt64.ofNat lost)] else [])
    (hready : r.payload.variant = .ready) (hlater : ∀ e ∈ later, e.payload.isLater = true) :
    Dialogue hello lost (hello :: (notice ++ r :: later))

theorem Dialogue.append {hello : Wire.Envelope} {lost : Nat} {es later : List Wire.Envelope}
    (h : Dialogue hello lost es) (htwo : 2 ≤ es.length) (hlater : ∀ e ∈ later, e.payload.isLater = true) :
    Dialogue hello lost (es ++ later) := by
  cases h with
  | greeted => simp at htwo
  | ready notice r later' hnotice hready hlater' =>
    rw [show hello :: (notice ++ r :: later') ++ later = hello :: (notice ++ r :: (later' ++ later)) by simp]
    exact .ready notice r _ hnotice hready fun e he => (List.mem_append.1 he).elim (hlater' e) (hlater e)

/-! ## What stands in the queue -/

namespace Queue

/-- Nothing but later talk. -/
def Talks (q : Queue) : Prop := q.shut = false ∧ ∀ p ∈ q.items, p.isLater = true

/-- The news that the session is ready stands at the head, and later talk behind it. -/
def Waits (q : Queue) : Prop :=
  q.shut = false ∧ ∃ r later, q.items = r :: later ∧ r.variant = .ready ∧ ∀ p ∈ later, p.isLater = true

theorem Talked.talks {q q' : Queue} (h : q.Talked q') (hq : q.Talks) : q'.Talks := by
  obtain ⟨more, hmore, hitems⟩ := h.items
  refine ⟨h.shut.trans hq.1, fun p hp => ?_⟩
  rcases hitems with hitems | hitems <;> rw [hitems, List.mem_append] at hp <;> rcases hp with hp | hp
  · exact hq.2 p hp
  · exact hmore p hp
  · exact hq.2 p (List.mem_of_mem_eraseP hp)
  · exact hmore p hp

/-- **What is told first is never dropped.** -/
theorem Talked.waits {q q' : Queue} (h : q.Talked q') (hq : q.Waits) : q'.Waits := by
  obtain ⟨hshut, r, later, hr, hready, hlater⟩ := hq
  obtain ⟨more, hmore, hitems⟩ := h.items
  have herase : (r :: later).eraseP (·.isSequenced) = r :: later.eraseP (·.isSequenced) := by
    rw [List.eraseP_cons, Wire.Payload.isSequenced_of_ready hready]
    rfl
  refine ⟨h.shut.trans hshut, r, ?_⟩
  rcases hitems with hitems | hitems
  · refine ⟨later ++ more, by rw [hitems, hr]; rfl, hready, fun p hp => ?_⟩
    exact (List.mem_append.1 hp).elim (hlater p) (hmore p)
  · refine ⟨later.eraseP (·.isSequenced) ++ more, by rw [hitems, hr, herase]; rfl, hready, fun p hp => ?_⟩
    exact (List.mem_append.1 hp).elim (fun hp => hlater p (List.mem_of_mem_eraseP hp)) (hmore p)

end Queue

/-- **There is room for the first reply**, whatever the settings say. -/
theorem Settings.queue_controlCapacity_pos (s : Settings) : 0 < s.queue.controlCapacity :=
  Nat.lt_of_lt_of_le Nat.one_pos (Nat.le_max_right _ _)

namespace Session

theorem waits_ready (now : Moment) (id : SessionId) (connection : Connection) (identity : Identity)
    (capabilities : Wire.Capabilities) (settings : Settings) :
    let s := new now id connection identity capabilities settings.queue
    (s.push now.ticks s.ready).2.queue.Waits ∧ (s.push now.ticks s.ready).2.queue.close = none := by
  intro s
  have hpush : (s.push now.ticks s.ready).2.queue =
      { s.queue with items := s.queue.items ++ [s.ready], controls := s.queue.controls + 1 } := by
    show (s.queue.push now.ticks s.ready).2 = _
    rw [Queue.push, if_neg (by simp [s, new, Queue.new, Queue.isClosing]),
      if_pos (show s.ready.isCritical = true from rfl),
      if_pos (show s.queue.controls < s.queue.config.controlCapacity from settings.queue_controlCapacity_pos)]
  rw [hpush]
  exact ⟨⟨rfl, s.ready, [], rfl, rfl, by simp⟩, rfl⟩

variable {s : Session} {out : Outgoing}

/-- What is handed over next, notice and queue. -/
theorem outgoing_payloads (hshut : s.queue.shut = false) (hout : s.nextOutgoing.1 = some out) :
    out.envelopes.map (·.payload) = announced ⟨s.queue.missed, s.queue.items, none, false⟩ ∧
      s.nextOutgoing.2.queue.Talks := by
  have hpayloads := s.nextOutgoing_payloads
  rw [hout, hshut, if_neg (by simp)] at hpayloads
  refine ⟨hpayloads, ?_⟩
  rw [Queue.Talks, s.nextOutgoing_queue, s.queue.drain_shut, s.queue.drain_empties.1]
  exact ⟨hshut, by simp⟩

/-- The envelopes of talk. -/
theorem later_of_talks (hs : s.queue.Talks) (hout : s.nextOutgoing.1 = some out) :
    ∀ e ∈ out.envelopes, e.payload.isLater = true := by
  intro e he
  have hmem : e.payload ∈ out.envelopes.map (·.payload) := List.mem_map_of_mem he
  rw [(outgoing_payloads hs.1 hout).1, announced, List.mem_append] at hmem
  rcases hmem with hmem | hmem
  · split at hmem
    · rw [List.mem_singleton.1 hmem]; rfl
    · cases hmem
  · exact hs.2 _ hmem

/-- **The first envelopes of a session**: the notice if something was lost, and that it is ready. -/
theorem dialogue_of_waits (hello : Wire.Envelope) (hs : s.queue.Waits) (hout : s.nextOutgoing.1 = some out) :
    Dialogue hello s.queue.missed (hello :: out.envelopes) ∧ 2 ≤ (hello :: out.envelopes).length := by
  obtain ⟨hshut, r, later, hitems, hready, hlater⟩ := hs
  have hpayloads := (outgoing_payloads hshut hout).1
  rw [announced] at hpayloads
  dsimp only at hpayloads
  rw [hitems] at hpayloads
  obtain ⟨notice, rest, henvelopes, hnotice, hrest⟩ := List.map_eq_append_iff.1 hpayloads
  obtain ⟨e, later', rfl, he, hlater'⟩ := List.map_eq_cons_iff.1 hrest
  rw [henvelopes]
  refine ⟨.ready notice e later' hnotice (by rw [he]; exact hready) fun x hx => ?_, ?_⟩
  · exact hlater _ (hlater' ▸ List.mem_map_of_mem hx)
  · simp only [List.length_cons, List.length_append]
    omega

end Session

/-! ## Where a conversation stands -/

namespace Gateway

open Wire (Encoding Envelope)

/-- **What has been told and what is to come**, phase by phase.  `identified` says that an Identify has succeeded, and
`begun` how many dispatches had been lost when the writer had its first turn. -/
inductive Spoken (encoding : Encoding) (hello : Envelope) (identified : Prop) (begun : Nat → Prop) (l : Link)
    (s? : Option Session) : Prop where
  | early (connection : Connection) (hphase : l.phase.connection? = some connection)
    (hencoding : connection.encoding = encoding) (htold : l.told = encoding.frames [hello])
  | waiting (session : SessionId) (s : Session) (hs : s? = some s) (hphase : l.phase.session? = some session)
    (hencoding : s.connection.encoding = encoding) (hqueue : s.queue.Waits) (htold : l.told = encoding.frames [hello])
    (hidentified : identified)
  | talking (session : SessionId) (s : Session) (es : List Envelope) (lost : Nat) (hs : s? = some s)
    (hphase : l.phase.session? = some session) (hencoding : s.connection.encoding = encoding)
    (hqueue : s.queue.Talks) (hes : Dialogue hello lost es) (htwo : 2 ≤ es.length)
    (htold : l.told = encoding.frames es) (hidentified : identified) (hbegun : begun lost)
  | ended (said : List Sent) (es : List Envelope) (closes : List CloseCode) (lost : Nat) (hphase : l.phase = .ended)
    (hsent : l.sent = said ++ closes.map .close) (hcloses : closes.length ≤ 1) (hes : Dialogue hello lost es)
    (htold : said.filter (!·.isPong) = encoding.frames es)
    (hidentified : 2 ≤ es.length → identified ∧ begun lost)

variable {encoding : Encoding} {hello : Envelope} {identified identified' : Prop} {begun begun' : Nat → Prop}
  {l l' : Link} {s? s'? : Option Session}

theorem Spoken.mono (h : Spoken encoding hello identified begun l s?) (himp : identified → identified')
    (hbegun : ∀ lost, begun lost → begun' lost) : Spoken encoding hello identified' begun' l s? := by
  cases h with
  | early connection hphase hencoding htold => exact .early connection hphase hencoding htold
  | waiting session s hs hphase hencoding hqueue htold hid =>
    exact .waiting session s hs hphase hencoding hqueue htold (himp hid)
  | talking session s es lost hs hphase hencoding hqueue hes htwo htold hid hlost =>
    exact .talking session s es lost hs hphase hencoding hqueue hes htwo htold (himp hid) (hbegun lost hlost)
  | ended said es closes lost hphase hsent hcloses hes htold hid =>
    exact .ended said es closes lost hphase hsent hcloses hes htold fun h =>
      (hid h).imp himp (hbegun lost)

theorem frames_append (es es' : List Envelope) :
    encoding.frames (es ++ es') = encoding.frames es ++ encoding.frames es' := List.map_append ..

theorem told_append {more : List Sent} (h : l'.sent = l.sent ++ more) :
    l'.told = l.told ++ more.filter (!·.isPong) := by
  rw [Link.told, h, List.filter_append]
  rfl

theorem filter_pongs {pongs : List Sent} {P : Prop} (h : ∀ s ∈ pongs, P ∧ ∃ payload, s = .pong payload) :
    pongs.filter (!·.isPong) = [] := by
  refine List.filter_eq_nil_iff.2 fun s hs => ?_
  obtain ⟨-, payload, rfl⟩ := h s hs
  simp [Sent.isPong]

theorem filter_frames (es : List Envelope) : (encoding.frames es).filter (!·.isPong) = encoding.frames es := by
  refine List.filter_eq_self.2 fun s hs => ?_
  obtain ⟨e, -, rfl⟩ := List.mem_map.1 hs
  rfl

/-- What has been told of the session once the writer has had its turn, which may have been the first one. -/
theorem Spoken.said {session : SessionId} {s : Session} {out : Outgoing}
    (h : Spoken encoding hello identified begun l (some s)) (hphase : l.phase.session? = some session)
    (hout : s.nextOutgoing.1 = some out) : s.connection.encoding = encoding ∧ s.nextOutgoing.2.queue.Talks ∧
      identified ∧ ∃ es lost, Dialogue hello lost es ∧ 2 ≤ es.length ∧
        (begun lost ∨ l.told = encoding.frames [hello] ∧ s.queue.missed = lost) ∧
        (l.sent ++ encoding.frames out.envelopes).filter (!·.isPong) = encoding.frames es := by
  have hsplit : ∀ es, l.told = encoding.frames es →
      (l.sent ++ encoding.frames out.envelopes).filter (!·.isPong) = encoding.frames (es ++ out.envelopes) := by
    intro es htold
    rw [List.filter_append, filter_frames, frames_append, ← htold]
    rfl
  cases h with
  | early connection hconnection =>
    rw [Phase.session?_of_connection? hconnection] at hphase
    cases hphase
  | waiting _ s₁ hs _ hencoding hqueue htold hid =>
    obtain rfl := Option.some.inj hs
    obtain ⟨hes, htwo⟩ := Session.dialogue_of_waits hello hqueue hout
    exact ⟨hencoding, (Session.outgoing_payloads hqueue.1 hout).2, hid, _, _, hes, htwo, .inr ⟨htold, rfl⟩,
      hsplit [hello] htold⟩
  | talking _ s₁ es lost hs _ hencoding hqueue hes htwo htold hid hbegun =>
    obtain rfl := Option.some.inj hs
    refine ⟨hencoding, (Session.outgoing_payloads hqueue.1 hout).2, hid, es ++ out.envelopes, lost,
      hes.append htwo (Session.later_of_talks hqueue hout), ?_, .inl hbegun, hsplit es htold⟩
    rw [List.length_append]
    omega
  | ended _ _ _ _ hended => rw [hended] at hphase; cases hphase

/-- Ended without a word, or with a close frame. -/
theorem Spoken.over (h : Spoken encoding hello identified begun l s?) (hphase : l.phase ≠ .ended)
    (closes : List CloseCode) (hended : l'.phase = .ended) (hsent : l'.sent = l.sent ++ closes.map .close)
    (hcloses : closes.length ≤ 1) : Spoken encoding hello identified begun l' s'? := by
  cases h with
  | early connection _ _ htold =>
    exact .ended l.sent [hello] closes 0 hended hsent hcloses .greeted htold (by simp)
  | waiting session s _ _ _ _ htold =>
    exact .ended l.sent [hello] closes 0 hended hsent hcloses .greeted htold (by simp)
  | talking session s es lost _ _ _ _ hes _ htold hid hbegun =>
    exact .ended l.sent es closes lost hended hsent hcloses hes htold (fun _ => ⟨hid, hbegun⟩)
  | ended _ _ _ _ h => exact absurd h hphase

variable {svc : Service} {id : ConnectionId} {x : Step} {cause? : Option Cause}

/-- A link that is told nothing, and whose session is served. -/
theorem Spoken.kept (h : Spoken encoding hello identified begun l s?)
    (hconnection : l'.phase.connection? = l.phase.connection?)
    (hsession : l'.phase.session? = l.phase.session?) (hended : l.phase = .ended → l'.phase = .ended ∧ l'.sent = l.sent)
    (htold' : l'.told = l.told) (hs' : ∀ s, s? = some s → ∃ s', s'? = some s' ∧ s'.connection = s.connection ∧
      (s.queue.Waits → s'.queue.Waits) ∧ (s.queue.Talks → s'.queue.Talks)) :
    Spoken encoding hello identified begun l' s'? := by
  cases h with
  | early connection hphase hencoding htold =>
    exact .early connection (hconnection.trans hphase) hencoding (htold'.trans htold)
  | waiting session s hs hphase hencoding hqueue htold hid =>
    obtain ⟨s', rfl, hsame, hwaits, -⟩ := hs' s hs
    exact .waiting session s' rfl (hsession.trans hphase) (hsame ▸ hencoding) (hwaits hqueue) (htold'.trans htold) hid
  | talking session s es lost hs hphase hencoding hqueue hes htwo htold hid hbegun =>
    obtain ⟨s', rfl, hsame, -, htalks⟩ := hs' s hs
    exact .talking session s' es lost rfl (hsession.trans hphase) (hsame ▸ hencoding) (htalks hqueue) hes htwo
      (htold'.trans htold) hid hbegun
  | ended said es closes lost hphase hsent hcloses hes htold hid =>
    exact .ended said es closes lost (hended hphase).1 ((hended hphase).2.trans hsent) hcloses hes htold hid

/-- A link that is ended is told nothing more. -/
theorem Passage.of_ended (h : Passage svc id x cause? l s? l' s'?) (hended : l.phase = .ended) :
    l'.phase = .ended ∧ l'.sent = l.sent := by
  cases h with
  | kept _ _ _ _ pongs ms hphase _ hsent hpongs =>
    have hnone : pongs = [] := by
      refine List.eq_nil_iff_forall_not_mem.2 fun s hs => ?_
      have hreading := (hpongs s hs).1
      simp [Link.isReading, hended] at hreading
    rcases hphase with hphase | ⟨session, _, _, hphase, -⟩
    · exact ⟨hphase.trans hended, by rw [hsent, hnone, List.append_nil]⟩
    · rw [hended] at hphase; cases hphase
  | asked _ _ _ _ _ _ _ hphase
  | refused _ _ _ _ _ hphase
  | created _ _ _ _ _ _ _ _ _ _ _ hphase
  | stopped _ _ _ _ _ _ _ _ hphase
  | ended _ _ _ _ _ _ hphase
  | wrote _ _ _ _ _ hphase
  | signedOff _ _ _ _ _ _ hphase => rw [hended] at hphase; cases hphase

/-- **Whatever happens to a connection, the conversation keeps its order**; a session begins only with an Identify that
has succeeded, and what it is told begins with a turn of the writer. -/
theorem Passage.spoken (h : Passage svc id x cause? l s? l' s'?)
    (hspoken : Spoken encoding hello identified begun l s?) : Spoken encoding hello
      (identified ∨ (∃ identity, x = .judged id (.ok identity)) ∧ l.phase.isAuthenticating = true)
      (fun lost => begun lost ∨ x = .flush id ∧ l.told = encoding.frames [hello] ∧ ∃ s, s? = some s ∧ s.queue.missed = lost)
      l' s'? := by
  have hofEnded := h.of_ended
  cases h with
  | kept _ _ _ _ pongs ms hphase _ hsent hpongs hms =>
    refine (hspoken.kept ?_ ?_ hofEnded ?_ fun s hs => ?_).mono .inl fun _ => .inl
    · rcases hphase with hphase | ⟨session, _, _, hphase, hphase'⟩
      · rw [hphase]
      · rw [hphase, hphase']; rfl
    · rcases hphase with hphase | ⟨session, _, _, hphase, hphase'⟩
      · rw [hphase]
      · rw [hphase, hphase']; rfl
    · rw [told_append hsent, filter_pongs hpongs, List.append_nil]
    · refine ⟨ms.foldl Session.move s, by rw [hs]; rfl, s.connection_moves ms, fun hq => ?_, fun hq => ?_⟩
      · exact Session.moves_induction (P := fun s => s.queue.Waits) (fun s m hm => (s.talked_move hm).waits) hms hq
      · exact Session.moves_induction (P := fun s => s.queue.Talks) (fun s m hm => (s.talked_move hm).talks) hms hq
  | asked _ _ _ connection who deadline verdictAt hphase hphase' _ hsent =>
    exact (hspoken.kept (by rw [hphase, hphase']; rfl) (by rw [hphase, hphase']; rfl) hofEnded
      (by rw [Link.told, hsent]; rfl) (by simp)).mono .inl fun _ => .inl
  | refused _ cause _ _ closes hphase hphase' hsent hcloses =>
    have hnotEnded : l.phase ≠ .ended := fun hended => by rw [hended] at hphase; cases hphase
    rcases hcloses with rfl | ⟨code, rfl, -⟩
    · exact (hspoken.over hnotEnded [] hphase' hsent (by simp)).mono .inl fun _ => .inl
    · exact (hspoken.over hnotEnded [code] hphase' hsent (by simp)).mono .inl fun _ => .inl
  | created _ _ connection who deadline verdictAt idleAt now identity session s hphase hphase' _ hsent hs =>
    cases hspoken with
    | early connection' hconnection hencoding htold =>
      rw [hphase] at hconnection
      obtain rfl := Option.some.inj hconnection
      obtain ⟨hwaits, -⟩ := Session.waits_ready now session connection identity
        (.negotiate svc.capabilities who.capabilities) svc.settings
      refine .waiting session _ rfl (by rw [hphase']; rfl) ?_ (hs ▸ hwaits) ?_
        (.inr ⟨⟨identity, rfl⟩, by rw [hphase]; rfl⟩)
      · rw [hs]; exact hencoding
      · rw [Link.told, hsent]; exact htold
    | waiting _ _ hs => cases hs
    | talking _ _ _ _ hs => cases hs
    | ended _ _ _ _ hended => rw [hended] at hphase; cases hphase
  | stopped _ cause code _ _ session idleAt s hphase hphase' hsent =>
    obtain ⟨hitems, hshut⟩ := s.queue.closeWith_items code
    have hqueue : (s.closeWith code).2.queue.items = s.queue.items := hitems
    refine (hspoken.kept (by rw [hphase, hphase']; rfl) (by rw [hphase, hphase']; rfl) hofEnded
      (by rw [Link.told, hsent]; rfl) fun s₁ hs₁ => ?_).mono .inl fun _ => .inl
    obtain rfl := Option.some.inj hs₁
    exact ⟨_, rfl, rfl, fun hq => ⟨hshut.trans hq.1, hqueue ▸ hq.2⟩, fun hq => ⟨hshut.trans hq.1, hqueue ▸ hq.2⟩⟩
  | ended _ _ _ _ _ session hphase hphase' hsent =>
    have hnotEnded : l.phase ≠ .ended := fun hended => by rw [hended] at hphase; cases hphase
    exact (hspoken.over hnotEnded [] hphase' (by simpa using hsent) (by simp)).mono .inl fun _ => .inl
  | wrote _ _ session s out hphase hphase' _ hout hclose hsent =>
    obtain ⟨hencoding, htalks, hid, es, lost, hes, htwo, hbegun, htold⟩ := hspoken.said hphase hout
    rw [hencoding] at hsent
    refine .talking session _ es lost rfl (by rw [hphase']; exact hphase) ?_ htalks hes htwo ?_ (.inl hid)
      (hbegun.imp_right fun ⟨h, hmissed⟩ => ⟨rfl, h, s, rfl, hmissed⟩)
    · rw [show s.nextOutgoing.2.connection = s.connection from s.connection_moves [.drain]]; exact hencoding
    · rw [Link.told, hsent]; exact htold
  | signedOff _ _ session s out code hphase hphase' hout hclose hsent =>
    obtain ⟨hencoding, -, hid, es, lost, hes, -, hbegun, htold⟩ := hspoken.said hphase hout
    rw [hencoding] at hsent
    exact .ended _ es [code] lost hphase' hsent (by simp) hes htold fun _ =>
      ⟨.inl hid, hbegun.imp_right fun ⟨h, hmissed⟩ => ⟨rfl, h, s, rfl, hmissed⟩⟩

/-- All that has been sent, wherever the conversation stands. -/
theorem Spoken.sent (h : Spoken encoding hello identified begun l s?) :
    ∃ (said : List Sent) (es : List Envelope) (closes : List CloseCode) (lost : Nat),
      l.sent = said ++ closes.map .close ∧ closes.length ≤ 1 ∧ said.filter (!·.isPong) = encoding.frames es ∧
        Dialogue hello lost es ∧ (2 ≤ es.length → identified ∧ begun lost) := by
  have hopen : l.sent = l.sent ++ ([] : List CloseCode).map .close := (List.append_nil _).symm
  cases h with
  | early connection _ _ htold => exact ⟨l.sent, [hello], [], 0, hopen, by simp, htold, .greeted, by simp⟩
  | waiting session s _ _ _ _ htold => exact ⟨l.sent, [hello], [], 0, hopen, by simp, htold, .greeted, by simp⟩
  | talking session s es lost _ _ _ _ hes _ htold hid hbegun =>
    exact ⟨l.sent, es, [], lost, hopen, by simp, htold, hes, fun _ => ⟨hid, hbegun⟩⟩
  | ended said es closes lost _ hsent hcloses hes htold hid =>
    exact ⟨said, es, closes, lost, hsent, hcloses, htold, hes, hid⟩

theorem encoding_of_told {said : List Sent} {es : List Envelope} (h : said.filter (!·.isPong) = encoding.frames es)
    {f : Wire.Frame} (hf : .frame f ∈ said) : f.encoding = encoding := by
  have hmem : Sent.frame f ∈ said.filter (!·.isPong) := List.mem_filter.2 ⟨hf, rfl⟩
  rw [h] at hmem
  obtain ⟨e, -, he⟩ := List.mem_map.1 hmem
  cases he
  exact e.encoding_encode encoding

/-! ## Whole connections -/

/-- An Identify succeeds in the course of some steps. -/
def Succeeds (svc : Service) (id : ConnectionId) (g : Gateway) (xs : List Step) : Prop :=
  ∃ before identity after l, xs = before ++ .judged id (.ok identity) :: after ∧
    (g.run svc before).link? id = some l ∧ l.phase.isAuthenticating = true

/-- The writer has its first turn in the course of some steps: the client has been greeted and told nothing else, and
`lost` dispatches have been lost from the queue of its session. -/
def FirstTurn (svc : Service) (id : ConnectionId) (greeting : List Sent) (g : Gateway) (xs : List Step) (lost : Nat) :
    Prop :=
  ∃ before after l s, xs = before ++ .flush id :: after ∧ (g.run svc before).link? id = some l ∧
    (g.run svc before).session? l = some s ∧ l.told = greeting ∧ s.queue.missed = lost

theorem Sound.spoken_run {g : Gateway} (hg : g.Sound svc) (xs : List Step)
    (hfits : (g.run svc xs).router.registry.ids.Fits) (hl : g.link? id = some l)
    (h : Spoken encoding hello identified begun l (g.session? l)) : ∃ l', (g.run svc xs).link? id = some l' ∧
      Spoken encoding hello (identified ∨ Succeeds svc id g xs)
        (fun lost => begun lost ∨ FirstTurn svc id (encoding.frames [hello]) g xs lost) l'
        ((g.run svc xs).session? l') := by
  induction xs generalizing g l identified begun with
  | nil => exact ⟨l, hl, h.mono .inl fun _ => .inl⟩
  | cons x xs ih =>
    have hfits' := hg.fits_step hfits
    obtain ⟨l₁, hl₁, hpassage⟩ := hg.passage x hfits' hl
    obtain ⟨l', hl', h'⟩ := ih (hg.step x hfits') hfits hl₁ (hpassage.spoken h)
    refine ⟨l', hl', h'.mono ?_ fun lost => ?_⟩
    · rintro ((hid | ⟨⟨identity, rfl⟩, hphase⟩) | ⟨before, identity, after, l₂, rfl, hl₂, hphase⟩)
      · exact .inl hid
      · exact .inr ⟨[], identity, xs, l, rfl, hl, hphase⟩
      · exact .inr ⟨x :: before, identity, after, l₂, rfl, hl₂, hphase⟩
    · rintro ((hbegun | ⟨rfl, htold, s, hs, hmissed⟩) | ⟨before, after, l₂, s, rfl, hl₂, hs⟩)
      · exact .inl hbegun
      · exact .inr ⟨[], xs, l, s, rfl, hl, hs, htold, hmissed⟩
      · exact .inr ⟨x :: before, after, l₂, s, rfl, hl₂, hs⟩

/-- A link that is ended is told nothing more. -/
theorem Sound.sent_run_of_ended {g : Gateway} (hg : g.Sound svc) (xs : List Step)
    (hfits : (g.run svc xs).router.registry.ids.Fits) (hl : g.link? id = some l) (hended : l.phase = .ended) :
    ∃ l', (g.run svc xs).link? id = some l' ∧ l'.sent = l.sent := by
  induction xs generalizing g l with
  | nil => exact ⟨l, hl, rfl⟩
  | cons x xs ih =>
    have hfits' := hg.fits_step hfits
    obtain ⟨l₁, hl₁, hpassage⟩ := hg.passage x hfits' hl
    obtain ⟨hended₁, hsent⟩ := hpassage.of_ended hended
    obtain ⟨l', hl', hsent'⟩ := ih (hg.step x hfits') hfits hl₁ hended₁
    exact ⟨l', hl', hsent'.trans hsent⟩

/-- A connection whose request is granted, at the end of a run. -/
theorem spoken_opened (svc : Service) (ids : Generator) (now : Moment) (before after : List Step) (request : Opening)
    (peer : Peer)
    (hfits : ((new svc ids now).run svc (before ++ .opened request peer :: after)).router.registry.ids.Fits)
    {version : Wire.Version} (hnegotiate : request.negotiate svc.versions = .ok (encoding, version)) :
    let g := (new svc ids now).run svc before
    let g' := (new svc ids now).run svc (before ++ .opened request peer :: after)
    ∃ l, g'.link? g.newId = some l ∧ Spoken encoding (svc.hello version)
      (Succeeds svc g.newId (g.step svc (.opened request peer)) after)
      (FirstTurn svc g.newId (encoding.frames [svc.hello version]) (g.step svc (.opened request peer)) after) l
      (g'.session? l) := by
  intro g g'
  obtain ⟨-, hg, hlink, hrun⟩ := run_added svc ids now before after rfl hfits
  rw [hrun] at hfits
  rw [Link.opened, hnegotiate] at hlink
  have hgreeted : ∀ s?, Spoken encoding (svc.hello version) False (fun _ => False)
      ⟨.identifying ⟨g.newId, encoding, version⟩ (g.now.ticks + svc.settings.identifyTimeout.toNat),
        ⟨.awaitingIdentify, false⟩, [], .up, encoding.frames [svc.hello version], g.now.ticks⟩ s? :=
    fun s? => .early ⟨g.newId, encoding, version⟩ rfl rfl rfl
  obtain ⟨l, hl, hspoken⟩ := hg.spoken_run after hfits hlink (hgreeted _)
  rw [show g' = (g.step svc (.opened request peer)).run svc after from hrun]
  exact ⟨l, hl, hspoken.mono (fun h => h.resolve_left id) fun _ h => h.resolve_left id⟩

/-- **A client that is gone before the first word** is sent nothing, whatever happens later. -/
theorem unreached_sent (svc : Service) (ids : Generator) (now : Moment) (before after : List Step) (request : Opening)
    (peer : Peer)
    (hfits : ((new svc ids now).run svc (before ++ .unreached request peer :: after)).router.registry.ids.Fits) :
    ∃ l, ((new svc ids now).run svc (before ++ .unreached request peer :: after)).link?
      ((new svc ids now).run svc before).newId = some l ∧ l.sent = [] := by
  obtain ⟨-, hg, hlink, hrun⟩ := run_added svc ids now before after rfl hfits
  rw [hrun] at hfits ⊢
  exact hg.sent_run_of_ended after hfits hlink rfl

/-- **Everything that a client is sent, in order.**  A client whose request is refused is sent a close frame.  Any other
is sent a Handshake first, numbered 0; the second envelope is sent only when an Identify has succeeded; it says that the
session is ready, unless dispatches were lost before the writer had its first turn, of whose number the client is then
told right before that; and whatever follows is a reply or a dispatch.  Every envelope is in the encoding that was
agreed upon, and at most one close frame comes after them all. -/
theorem sent_in_order (svc : Service) (ids : Generator) (now : Moment) (before after : List Step) (request : Opening)
    (peer : Peer)
    (fits : ((new svc ids now).run svc (before ++ .opened request peer :: after)).router.registry.ids.Fits) :
    let g := (new svc ids now).run svc before
    ∃ l, ((new svc ids now).run svc (before ++ .opened request peer :: after)).link? g.newId = some l ∧
      match request.negotiate svc.versions with
      | .error fault => l.sent = [.close fault.closeCode]
      | .ok (encoding, version) => ∃ (said : List Sent) (es : List Envelope) (closes : List CloseCode) (lost : Nat),
        l.sent = said ++ closes.map .close ∧ closes.length ≤ 1 ∧ said.filter (!·.isPong) = encoding.frames es ∧
          (∀ f, .frame f ∈ said → f.encoding = encoding) ∧ Dialogue (svc.hello version) lost es ∧
          (svc.hello version).seq = 0 ∧ (svc.hello version).payload.variant = .handshake ∧
          (2 ≤ es.length → Succeeds svc g.newId (g.step svc (.opened request peer)) after ∧
            FirstTurn svc g.newId (encoding.frames [svc.hello version]) (g.step svc (.opened request peer)) after
              lost) := by
  intro g
  cases hnegotiate : request.negotiate svc.versions with
  | error fault =>
    obtain ⟨-, hg, hlink, hrun⟩ := run_added svc ids now before after rfl fits
    rw [hrun] at fits ⊢
    rw [Link.opened, hnegotiate] at hlink
    obtain ⟨l, hl, hsent⟩ := hg.sent_run_of_ended after fits hlink rfl
    exact ⟨l, hl, hsent⟩
  | ok granted =>
    obtain ⟨encoding, version⟩ := granted
    obtain ⟨l, hl, hspoken⟩ := spoken_opened svc ids now before after request peer fits hnegotiate
    obtain ⟨said, es, closes, lost, hsent, hcloses, htold, hes, hid⟩ := hspoken.sent
    exact ⟨l, hl, said, es, closes, lost, hsent, hcloses, htold, fun f hf => encoding_of_told htold hf, hes, rfl, rfl,
      hid⟩

/-- The news that a session is ready is not always the second envelope: with room for one dispatch only, a client that
subscribes at once is told first of the dispatch that was lost while its writer was waiting for a turn. -/
theorem ready_after_notice :
    let svc : Service := ⟨{ Settings.standard with queueCapacity := 1 }, ⟨[⟨2, 0⟩], by decide⟩, .all, .table [], 0,
      LocalChannels.handler ⟨[]⟩⟩
    let reading := Step.read 1 (LocalChannels.collaborator ⟨[]⟩)
    let sends (p : Wire.Payload) := Step.arrive 1 (.frame ((Envelope.unsequenced p).encode .protobuf))
    let g := (new svc ⟨1, 0, 0⟩ ⟨0, 0⟩).run svc [.opened ⟨none, none⟩ ⟨"", none⟩, sends (.identify ⟨"t", 7, ""⟩),
      reading, .judged 1 (.ok ⟨⟨7⟩, ""⟩), sends (.subscribe "user:5" 0), reading,
      .publish (.presenceUpdated ⟨5⟩ .online), .publish (.presenceUpdated ⟨5⟩ .idle), .flush 1]
    let es := [svc.hello ⟨2, 0⟩, ⟨1, .eventsMissed 1⟩, .unsequenced (.ready 4097 7 2 0 7),
      .unsequenced (.subscribed "user:5" 31), ⟨2, .presenceUpdated 5 "idle"⟩]
    (g.link? 1).map (·.sent) = some (Encoding.protobuf.frames es) ∧
      es[1]?.map (·.payload.variant) ≠ some .ready := by
  decide +kernel

/-- A client that is identified, and closed for staying silent: two envelopes and the close frame. -/
theorem sent_in_order_silent :
    let svc : Service := ⟨Settings.standard, ⟨[⟨2, 0⟩], by decide⟩, .all, .table [], 0, LocalChannels.handler ⟨[]⟩⟩
    let sends (p : Wire.Payload) := Step.arrive 1 (.frame ((Envelope.unsequenced p).encode .protobuf))
    let after := [sends (.identify ⟨"t", 7, ""⟩), Step.read 1 (LocalChannels.collaborator ⟨[]⟩),
      .judged 1 (.ok ⟨⟨7⟩, ""⟩), .flush 1, .expire 1, .flush 1]
    let g := (new svc ⟨1, 0, 0⟩ ⟨0, 0⟩).run svc (.opened ⟨some "json", none⟩ ⟨"", none⟩ :: after)
    g.router.registry.ids.Fits ∧ ∃ (l : Link) (said : List Sent) (es : List Envelope) (closes : List CloseCode)
      (lost : Nat), g.link? 1 = some l ∧ l.sent.length = 3 ∧ l.sent = said ++ closes.map .close ∧
        said.filter (!·.isPong) = Encoding.json.frames es ∧ Dialogue (svc.hello ⟨2, 0⟩) lost es := by
  intro svc sends after g
  have hfits : g.router.registry.ids.Fits := by
    show _ * _ < _
    decide +kernel
  have hlength : (g.link? 1).map (·.sent.length) = some 3 := by decide +kernel
  have hgranted : (Opening.negotiate ⟨some "json", none⟩ svc.versions).toOption = some (.json, ⟨2, 0⟩) := by
    decide +kernel
  obtain ⟨l, hl, h⟩ := sent_in_order svc ⟨1, 0, 0⟩ ⟨0, 0⟩ [] after ⟨some "json", none⟩ ⟨"", none⟩ hfits
  rw [show g.link? 1 = some l from hl] at hlength
  cases hnegotiate : Opening.negotiate ⟨some "json", none⟩ svc.versions with
  | error fault => rw [hnegotiate] at hgranted; cases hgranted
  | ok granted =>
    rw [hnegotiate] at hgranted h
    obtain rfl := Option.some.inj hgranted
    obtain ⟨said, es, closes, lost, hsent, -, htold, -, hes, -⟩ := h
    exact ⟨hfits, l, said, es, closes, lost, hl, Option.some.inj hlength, hsent, htold, hes⟩

end Gateway
end EventGateway
