import EventGateway.Proofs.Replies
/-!
# Heartbeats — acknowledgements never run ahead of the stream

The number of an acknowledgement is read when the heartbeat is answered, and it is handed over later, after whatever
gave way meanwhile and whatever notice tells of it.  But the counter only goes up, and only with what is handed over.
So the number is that of a dispatch which stands before the acknowledgement in the stream, or 0, and it is not below
that of an earlier acknowledgement: `InStep` says so of all that is handed over or queued, and each move keeps it.
-/
namespace EventGateway

open Wire (Payload Envelope)
open Session (dispatches Numbered)

/-! ## Acknowledgements -/

/-- The number that an acknowledgement carries. -/
def acked? : Payload → Option UInt64
  | .heartbeatAck lastSeq => some lastSeq
  | _ => none

/-- The numbers of the acknowledgements among some payloads. -/
def acksOf (ps : List Payload) : List UInt64 := ps.filterMap acked?

theorem acksOf_append (ps qs : List Payload) : acksOf (ps ++ qs) = acksOf ps ++ acksOf qs := List.filterMap_append ..

theorem acked?_eq_some_iff {p : Payload} {k : UInt64} : acked? p = some k ↔ p = .heartbeatAck k := by
  cases p <;> simp [acked?]

theorem mem_acksOf {ps : List Payload} {k : UInt64} : k ∈ acksOf ps ↔ .heartbeatAck k ∈ ps := by
  simp [acksOf, acked?_eq_some_iff]

/-- An acknowledgement is a reply. -/
theorem acksOf_repliesOf : ∀ ps : List Payload, acksOf (repliesOf ps) = acksOf ps
  | [] => rfl
  | p :: ps => by
    cases hp : p.isSequenced with
    | false => rw [repliesOf_cons_of_control hp, acksOf, acksOf, List.filterMap_cons, List.filterMap_cons,
        ← acksOf, ← acksOf, acksOf_repliesOf ps]
    | true =>
      have hnone : acked? p = none := by
        cases h : acked? p with
        | none => rfl
        | some k =>
          rw [acked?_eq_some_iff.1 h] at hp
          cases hp
      rw [repliesOf_cons_of_dispatch hp, acksOf_repliesOf ps, acksOf, acksOf, List.filterMap_cons, hnone]

/-- **Numbers that follow a counter** which has come to `n` by now: its values at some points, one after the other.  A
number is a 64-bit one, and the counter is not. -/
def Snapshots (n : Nat) (ks : List UInt64) : Prop :=
  ∃ counts : List Nat, counts.Pairwise (· ≤ ·) ∧ (∀ c ∈ counts, c ≤ n) ∧ ks = counts.map UInt64.ofNat

namespace Snapshots

variable {n : Nat} {ks : List UInt64}

theorem nil (n : Nat) : Snapshots n [] := ⟨[], .nil, fun _ h => (nomatch h), rfl⟩

theorem mono (h : Snapshots n ks) {m : Nat} (hm : n ≤ m) : Snapshots m ks := by
  obtain ⟨counts, hpairwise, hle, hks⟩ := h
  exact ⟨counts, hpairwise, fun c hc => Nat.le_trans (hle c hc) hm, hks⟩

theorem sublist (h : Snapshots n ks) {ls : List UInt64} (hls : ls.Sublist ks) : Snapshots n ls := by
  obtain ⟨counts, hpairwise, hle, rfl⟩ := h
  obtain ⟨counts', hsub, rfl⟩ := List.sublist_map_iff.1 hls
  exact ⟨counts', hpairwise.sublist hsub, fun c hc => hle c (hsub.subset hc), rfl⟩

/-- One more is taken now. -/
theorem concat (h : Snapshots n ks) : Snapshots n (ks ++ [UInt64.ofNat n]) := by
  obtain ⟨counts, hpairwise, hle, rfl⟩ := h
  refine ⟨counts ++ [n], ?_, ?_, by simp⟩
  · rw [List.pairwise_append]
    exact ⟨hpairwise, List.pairwise_singleton _ _, fun c hc d hd => List.mem_singleton.1 hd ▸ hle c hc⟩
  · simpa [or_imp, forall_and] using hle

theorem of_mem (h : Snapshots n ks) {k : UInt64} (hk : k ∈ ks) : ∃ c ≤ n, k = UInt64.ofNat c := by
  obtain ⟨counts, -, hle, rfl⟩ := h
  obtain ⟨c, hc, rfl⟩ := List.mem_map.1 hk
  exact ⟨c, hle c hc, rfl⟩

/-- **A counter that fits into 64 bits is seen to go up.** -/
theorem pairwise (h : Snapshots n ks) (hn : n < UInt64.size) : ks.Pairwise (· ≤ ·) := by
  obtain ⟨counts, hpairwise, hle, rfl⟩ := h
  rw [List.pairwise_map]
  refine hpairwise.imp_of_mem fun hc hd hcd => ?_
  rw [UInt64.le_iff_toNat_le, UInt64.toNat_ofNat_of_lt' (Nat.lt_of_le_of_lt (hle _ hc) hn),
    UInt64.toNat_ofNat_of_lt' (Nat.lt_of_le_of_lt (hle _ hd) hn)]
  exact hcd

end Snapshots

/-! ## One session -/

/-- **The acknowledgements in the stream of a session**, handed over or still queued, carry numbers that the counter has
had; and each one that is handed over carries a number that the counter had come to by then. -/
structure InStep (sent : List Envelope) (s : Session) : Prop where
  numbered : Numbered 0 sent
  counter : s.sequence = UInt64.ofNat (dispatches sent).length
  acks : Snapshots (dispatches sent).length (acksOf (sent.map (·.payload) ++ s.queue.items))
  behind : ∀ pre e post k, sent = pre ++ e :: post → e.payload = .heartbeatAck k →
    ∃ c ≤ (dispatches pre).length, k = UInt64.ofNat c

/-- Whether a move pushes no acknowledgement but that of a heartbeat. -/
def Session.Move.acksHeartbeats : Session.Move → Bool
  | .push _ p => (acked? p).isNone
  | _ => true

namespace InStep

variable {sent : List Envelope} {s : Session}

theorem new (now : Moment) (id : SessionId) (connection : Connection) (identity : Identity)
    (capabilities : Wire.Capabilities) (queue : QueueConfig) :
    InStep [] (.new now id connection identity capabilities queue) :=
  ⟨Session.numbered_nil 0, rfl, .nil 0, fun pre e post k h => by cases pre <;> cases h⟩

/-- Nothing is handed over, and no acknowledgement joins the queue. -/
theorem of_queue (h : InStep sent s) {s' : Session} (hsequence : s'.sequence = s.sequence)
    (hitems : (acksOf s'.queue.items).Sublist (acksOf s.queue.items)) : InStep sent s' := by
  refine ⟨h.numbered, hsequence.trans h.counter, h.acks.sublist ?_, h.behind⟩
  rw [acksOf_append, acksOf_append]
  exact (List.Sublist.refl _).append hitems

/-- **What gives way is no acknowledgement**, and so is what is pushed but for the answer to a heartbeat. -/
theorem push (h : InStep sent s) (now : Nat) {p : Payload} (hp : acked? p = none) : InStep sent (s.push now p).2 := by
  refine h.of_queue rfl ?_
  have hitems : acksOf (s.push now p).2.queue.items = acksOf s.queue.items := by
    show acksOf (s.queue.push now p).2.items = _
    rw [← acksOf_repliesOf, s.queue.repliesOf_push now p, acksOf_append, acksOf_repliesOf]
    split <;> simp [acksOf, hp]
  exact hitems ▸ List.Sublist.refl _

/-- **A heartbeat is answered with what the counter has come to**, which is not below what it was before. -/
theorem heartbeat (h : InStep sent s) (now : Nat) : InStep sent (s.move (.heartbeat now)) := by
  refine ⟨h.numbered, h.counter, ?_, h.behind⟩
  have hitems : acksOf (s.move (.heartbeat now)).queue.items = acksOf s.queue.items ∨
      acksOf (s.move (.heartbeat now)).queue.items =
        acksOf s.queue.items ++ [UInt64.ofNat (dispatches sent).length] := by
    show acksOf (s.queue.push now (.heartbeatAck s.sequence)).2.items = _ ∨
      acksOf (s.queue.push now (.heartbeatAck s.sequence)).2.items = _
    rw [← acksOf_repliesOf, s.queue.repliesOf_push, acksOf_append, acksOf_repliesOf, ← h.counter]
    split
    · exact .inr rfl
    · exact .inl (List.append_nil _)
  have hacks := h.acks
  rw [acksOf_append] at hacks ⊢
  rcases hitems with hitems | hitems
  · rwa [hitems]
  · rw [hitems, ← List.append_assoc]
    exact hacks.concat

/-- **A drain hands the queued acknowledgements over behind everything that was handed over before**, and with it all
that their numbers count. -/
theorem drain (h : InStep sent s) :
    InStep (sent ++ s.nextOutgoing.1.elim [] (·.envelopes)) s.nextOutgoing.2 := by
  generalize hbatch : s.nextOutgoing.1.elim [] (·.envelopes) = batch
  obtain ⟨hnumbered, hcounter⟩ : Numbered (dispatches sent).length batch ∧
      s.nextOutgoing.2.sequence = UInt64.ofNat ((dispatches sent).length + (dispatches batch).length) :=
    hbatch ▸ Session.apply_numbered .drain _ s h.counter
  have hpayloads : (acksOf (batch.map (·.payload))).Sublist (acksOf s.queue.items) := by
    have hannounced : acksOf (Session.announced ⟨s.queue.missed, s.queue.items, none, false⟩) =
        acksOf s.queue.items := by
      rw [← acksOf_repliesOf, repliesOf_announced, acksOf_repliesOf]
    rw [← hbatch, s.nextOutgoing_payloads]
    split
    · exact List.nil_sublist _
    · exact hannounced ▸ List.Sublist.refl _
  have hitems : s.nextOutgoing.2.queue.items = [] := by rw [s.nextOutgoing_queue, s.queue.drain_empties.1]
  have hacks : Snapshots (dispatches sent).length (acksOf ((sent ++ batch).map (·.payload) ++ [])) := by
    refine h.acks.sublist ?_
    rw [List.append_nil, List.map_append, acksOf_append, acksOf_append]
    exact (List.Sublist.refl _).append hpayloads
  have hlength : (dispatches (sent ++ batch)).length = (dispatches sent).length + (dispatches batch).length := by
    rw [Session.dispatches_append, List.length_append]
  -- What is handed over now counts no dispatch that is not in front of it.
  have hbehind : ∀ pre e post k, batch = pre ++ e :: post → e.payload = .heartbeatAck k →
      ∃ c ≤ (dispatches (sent ++ pre)).length, k = UInt64.ofNat c := by
    rintro pre e post k rfl hk
    have hmem : k ∈ acksOf ((sent ++ (pre ++ e :: post)).map (·.payload) ++ []) := mem_acksOf.2 (by simp [hk])
    obtain ⟨c, hc, rfl⟩ := hacks.of_mem hmem
    refine ⟨c, Nat.le_trans hc ?_, rfl⟩
    rw [Session.dispatches_append, List.length_append]
    exact Nat.le_add_right _ _
  refine ⟨h.numbered.append (by rwa [Nat.zero_add]), by rw [hcounter, hlength], ?_, fun pre e post k hsplit hk => ?_⟩
  · rw [hitems]
    exact hacks.mono (by omega)
  · rcases List.append_eq_append_iff.1 hsplit with ⟨pre', rfl, hpre⟩ | ⟨post', rfl, hpost⟩
    · exact hbehind pre' e post k hpre hk
    · cases post' with
      | nil => simpa using hbehind [] e post k hpost.symm hk
      | cons e' post' =>
        obtain ⟨rfl, -⟩ := List.cons.inj hpost
        exact h.behind pre e post' k rfl hk

/-- **Each move keeps the acknowledgements in step with the counter.** -/
theorem move {a : Account} (h : InStep a.sent s) {m : Session.Move} (hm : m.acksHeartbeats = true) :
    InStep (a.move s m).sent (s.move m) := by
  cases m with
  | offer now e =>
    rw [show (a.move s (.offer now e)).sent = a.sent by rw [Account.move]; split <;> rfl]
    show InStep a.sent (s.offer now e)
    unfold Session.offer
    split
    · exact h.push now (by cases e <;> rfl)
    · exact h
  | push now p => exact h.push now (Option.isNone_iff_eq_none.1 hm)
  | heartbeat now => exact h.heartbeat now
  | close code =>
    exact h.of_queue rfl ((s.queue.closeWith_items code).1 ▸ List.Sublist.refl _)
  | drain => exact h.drain
  | subscribe scope kinds => exact h.of_queue rfl (List.Sublist.refl _)
  | unsubscribe scope =>
    refine h.of_queue ?_ (s.queue_unsubscribe scope ▸ List.Sublist.refl _)
    simp only [Session.move]
    split <;> rfl
  | retire => exact h.of_queue rfl (List.nil_sublist _)

end InStep

/-! ## Runs -/

/-- The highest number among some envelopes, or 0. -/
def highest (es : List Envelope) : UInt64 := (es.map (·.seq)).foldr max 0

theorem le_highest : ∀ {es : List Envelope} {k : UInt64}, k ∈ es.map (·.seq) → k ≤ highest es
  | e :: es, k, h => by
    show k ≤ if e.seq ≤ highest es then highest es else e.seq
    rcases List.mem_cons.1 h with rfl | h
    · split
      · assumption
      · exact UInt64.le_refl _
    · have hrest := le_highest h
      split
      · exact hrest
      · exact UInt64.le_trans hrest (UInt64.le_of_lt (UInt64.not_le.1 ‹_›))

theorem Session.Numbered.of_append {n : Nat} {xs ys : List Envelope} (h : Numbered n (xs ++ ys)) : Numbered n xs := by
  refine ⟨?_, fun e he => h.zero e (List.mem_append_left _ he)⟩
  have hseqs := h.seqs
  rw [Session.dispatches_append, List.map_append, List.length_append, ← List.range'_append_1, List.map_append] at hseqs
  exact List.append_inj_left hseqs (by simp)

/-- A number that the counter has come to is one of those in front, or 0. -/
theorem Session.Numbered.ofNat_le_highest {es : List Envelope} (h : Numbered 0 es) {c : Nat}
    (hc : c ≤ (dispatches es).length) : UInt64.ofNat c ≤ highest es := by
  cases c with
  | zero => exact UInt64.zero_le
  | succ c =>
    refine le_highest ?_
    have hmem : UInt64.ofNat (c + 1) ∈ (dispatches es).map (·.seq) := by
      rw [h.seqs]
      exact List.mem_map_of_mem (List.mem_range'_1.2 (by omega))
    obtain ⟨e, he, hseq⟩ := List.mem_map.1 hmem
    exact hseq ▸ List.mem_map_of_mem (List.mem_filter.1 he).1

namespace Router

/-- Whether a step pushes no acknowledgement to a session, but to answer a heartbeat. -/
def Step.acksHeartbeats (id : SessionId) : Step → Bool
  | .enqueue _ i p | .reply _ i p => i != id || (acked? p).isNone
  | _ => true

theorem Step.Moves.acksHeartbeats {id : SessionId} {x : Step} {ms : List Session.Move} (hms : x.Moves id ms)
    (hx : x.acksHeartbeats id = true) : ∀ m ∈ ms, m.acksHeartbeats = true := by
  cases hms with
  | enqueue | reply => simpa [Step.acksHeartbeats, Session.Move.acksHeartbeats] using hx
  | acted handler now i action events => exact List.forall_mem_map.2 fun _ _ => rfl
  | _ => simp [Session.Move.acksHeartbeats, acked?]

/-- **Acknowledgements of heartbeats never run ahead of the stream.**  In every run in which only heartbeats are
answered with acknowledgements, the number of each one that a session is handed is at most the highest number in front
of it in the stream, or 0 if there is none.  The numbers are what the counter of dispatches has been, one time after the
other, so none is below that of an earlier acknowledgement; the numbers being 64-bit ones, this is seen of them as long
as the session is handed no more dispatches than there are such numbers. -/
theorem acks_behind_stream (ids : Generator) (queue : QueueConfig) (steps : List Step) (id : SessionId)
    (hsteps : ∀ x ∈ steps, x.acksHeartbeats id = true) (s : Session)
    (hs : ((new ids queue).run steps).registry.handle? id = some s) :
    let sent := (account id steps (new ids queue) .empty).sent
    (∀ pre e post lastSeq, sent = pre ++ e :: post → e.payload = .heartbeatAck lastSeq → lastSeq ≤ highest pre) ∧
      Snapshots (dispatches sent).length (acksOf (sent.map (·.payload))) ∧
      ((dispatches sent).length < UInt64.size → (acksOf (sent.map (·.payload))).Pairwise (· ≤ ·)) := by
  intro sent
  have h : InStep sent s := by
    refine run_invariant (P := fun a s => InStep a.sent s) (fun _ _ _ _ => .new ..) steps
      (Registry.consistent_new ids queue) rfl ?_ ?_ s hs
    · exact fun x hx ms hms a s => Account.moves_keep (P := fun a s => InStep a.sent s)
        (fun hm h => h.move hm) ms (hms.acksHeartbeats (hsteps x hx))
    · exact fun s hnone => by cases hnone
  have hacks : Snapshots (dispatches sent).length (acksOf (sent.map (·.payload))) :=
    h.acks.sublist (by rw [acksOf_append]; exact List.sublist_append_left _ _)
  refine ⟨fun pre e post k hsplit hk => ?_, hacks, hacks.pairwise⟩
  obtain ⟨c, hc, rfl⟩ := h.behind pre e post k hsplit hk
  exact (hsplit ▸ h.numbered).of_append.ofNat_le_highest hc

/-- Room for one event: a heartbeat is answered when one event has been handed over, then an event evicts another, and
the notice of it and a second heartbeat follow. -/
theorem acks_behind_stream_evicting :
    let deleted (n : Nat) := Step.publish ⟨0, 0⟩ (.messageDeleted ⟨5⟩ (.ofNat n))
    let heartbeat := Step.submit (LocalChannels.handler ⟨[]⟩) ⟨0, 0⟩ ⟨4097⟩ (.heartbeat 0)
    let steps := [.create ⟨0, 0⟩ ⟨1, .json, ⟨2, 0⟩⟩ ⟨⟨7⟩, "agent"⟩ .all, .subscribe ⟨4097⟩ (.channel ⟨5⟩) .all,
      deleted 1, .drain ⟨4097⟩, heartbeat, deleted 2, deleted 3, .drain ⟨4097⟩, heartbeat, .drain ⟨4097⟩]
    let start := new ⟨1, 0, 0⟩ ⟨1, 1, .dropOldest 9 1000⟩
    let early : List Envelope := [⟨1, .messageDeleted 5 1⟩, ⟨2, .eventsMissed 1⟩]
    let late : List Envelope := early ++ ⟨0, .heartbeatAck 1⟩ :: [⟨3, .messageDeleted 5 3⟩]
    let sent := (account ⟨4097⟩ steps start .empty).sent
    (∀ x ∈ steps, x.acksHeartbeats ⟨4097⟩ = true) ∧ ((start.run steps).registry.handle? ⟨4097⟩).isSome = true ∧
      sent = late ++ [⟨0, .heartbeatAck 3⟩] ∧ 1 ≤ highest early ∧ 3 ≤ highest late ∧
      (acksOf (sent.map (·.payload))).Pairwise (· ≤ ·) := by
  intro deleted heartbeat steps start early late sent
  have hsteps : ∀ x ∈ steps, x.acksHeartbeats ⟨4097⟩ = true := by decide
  have hsome : ((start.run steps).registry.handle? ⟨4097⟩).isSome = true := by decide +kernel
  have hsent : sent = late ++ [⟨0, .heartbeatAck 3⟩] := by decide +kernel
  obtain ⟨s, hs⟩ := Option.isSome_iff_exists.1 hsome
  obtain ⟨hbehind, -, hascend⟩ := acks_behind_stream ⟨1, 0, 0⟩ ⟨1, 1, .dropOldest 9 1000⟩ steps ⟨4097⟩ hsteps s hs
  have hearly : sent = early ++ ⟨0, .heartbeatAck 1⟩ :: [⟨3, .messageDeleted 5 3⟩, ⟨0, .heartbeatAck 3⟩] := hsent
  have hfew : (dispatches sent).length < UInt64.size := by
    rw [hsent]
    decide
  exact ⟨hsteps, hsome, hsent, hbehind early _ _ 1 hearly rfl, hbehind late _ _ 3 hsent rfl, hascend hfew⟩

end Router
end EventGateway
