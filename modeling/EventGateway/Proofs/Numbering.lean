import EventGateway.Proofs.Queue
import EventGateway.Session.Basic
/-!
# Numbering — the numbers of a session's stream

The dispatches that a session hands to its writer are numbered from 1 on without a gap, whatever is pushed, closed and
drained between them, and whatever the queue loses (`run_dispatches_numbered`).  The counter moves only when something
is handed over: every operation keeps `sequence` at the number of dispatches handed over so far (`apply_numbered`).
-/
namespace EventGateway.Session

open Wire (Envelope)

/-- What senders and the writer do with a session, one whole operation at a time.  Events and replies are pushed
alike. -/
inductive Op where
  | push (now : Nat) (p : Wire.Payload)
  | close (code : CloseCode)
  | shutdown
  | drain

/-- What an operation hands to the writer, and the session after it. -/
def apply (s : Session) : Op → List Envelope × Session
  | .push now p => ([], (s.push now p).2)
  | .close code => ([], (s.closeWith code).2)
  | .shutdown => ([], s.shutdown)
  | .drain => (s.nextOutgoing.1.elim [] (·.envelopes), s.nextOutgoing.2)

/-- Everything that is handed to the writer, and the session in the end. -/
def run (s : Session) : List Op → List Envelope × Session
  | [] => ([], s)
  | op :: ops => ((s.apply op).1 ++ ((s.apply op).2.run ops).1, ((s.apply op).2.run ops).2)

/-- The dispatches among some envelopes, notices of lost ones included. -/
def dispatches (es : List Envelope) : List Envelope := es.filter (·.payload.isSequenced)

theorem dispatches_append (xs ys : List Envelope) : dispatches (xs ++ ys) = dispatches xs ++ dispatches ys :=
  List.filter_append ..

/-- **Dispatches carry the numbers that follow `n`, and all else carries 0.**  A number is a 64-bit one. -/
structure Numbered (n : Nat) (es : List Envelope) : Prop where
  seqs : (dispatches es).map (·.seq) = (List.range' (n + 1) (dispatches es).length).map UInt64.ofNat
  zero : ∀ e ∈ es, e.payload.isSequenced = false → e.seq = 0

theorem numbered_nil (n : Nat) : Numbered n [] := ⟨rfl, fun _ h => by cases h⟩

theorem Numbered.append {n : Nat} {xs ys : List Envelope} (hx : Numbered n xs)
    (hy : Numbered (n + (dispatches xs).length) ys) : Numbered n (xs ++ ys) := by
  refine ⟨?_, fun e he => ?_⟩
  · rw [dispatches_append, List.map_append, hx.seqs, hy.seqs, ← List.map_append, List.length_append]
    rw [show n + (dispatches xs).length + 1 = n + 1 + (dispatches xs).length by omega, List.range'_append_1]
  · rcases List.mem_append.1 he with h | h
    · exact hx.zero e h
    · exact hy.zero e h

/-! ## One batch -/

theorem number_cons_sequenced (seq : UInt64) {p : Wire.Payload} (ps : List Wire.Payload) (hp : p.isSequenced = true) :
    number seq (p :: ps) = (⟨seq + 1, p⟩ :: (number (seq + 1) ps).1, (number (seq + 1) ps).2) := by
  rw [number, if_pos hp]

theorem number_cons_unsequenced (seq : UInt64) {p : Wire.Payload} (ps : List Wire.Payload)
    (hp : p.isSequenced = false) :
    number seq (p :: ps) = (.unsequenced p :: (number seq ps).1, (number seq ps).2) := by
  rw [number, if_neg (by simp [hp])]

theorem number_payloads : ∀ (seq : UInt64) (ps : List Wire.Payload), (number seq ps).1.map (·.payload) = ps
  | _, [] => rfl
  | seq, p :: ps => by
    cases hp : p.isSequenced with
    | true => rw [number_cons_sequenced seq ps hp, List.map_cons, number_payloads (seq + 1) ps]
    | false =>
      rw [number_cons_unsequenced seq ps hp, List.map_cons, number_payloads seq ps]
      rfl

theorem numbered_dispatch (n : Nat) {p : Wire.Payload} (hp : p.isSequenced = true) :
    Numbered n [⟨UInt64.ofNat n + 1, p⟩] := by
  refine ⟨by simp [dispatches, hp], fun e he hu => ?_⟩
  rw [List.mem_singleton.1 he] at hu
  rw [hp] at hu; cases hu

theorem numbered_unsequenced (n : Nat) {p : Wire.Payload} (hp : p.isSequenced = false) :
    Numbered n [.unsequenced p] := by
  refine ⟨by simp [dispatches, Envelope.unsequenced, hp], fun e he _ => ?_⟩
  rw [List.mem_singleton.1 he]; rfl

theorem number_numbered : ∀ (n : Nat) (ps : List Wire.Payload), Numbered n (number (UInt64.ofNat n) ps).1 ∧
    (number (UInt64.ofNat n) ps).2 = UInt64.ofNat (n + (dispatches (number (UInt64.ofNat n) ps).1).length)
  | n, [] => ⟨numbered_nil n, rfl⟩
  | n, p :: ps => by
    cases hp : p.isSequenced with
    | true =>
      obtain ⟨hrest, hlast⟩ := number_numbered (n + 1) ps
      rw [UInt64.ofNat_add] at hrest hlast
      have hone : (dispatches [⟨UInt64.ofNat n + 1, p⟩]).length = 1 := by simp [dispatches, hp]
      rw [number_cons_sequenced _ ps hp, ← List.singleton_append]
      refine ⟨(numbered_dispatch n hp).append (hone ▸ hrest), hlast.trans ?_⟩
      rw [dispatches_append, List.length_append, hone, Nat.add_assoc]
      rfl
    | false =>
      obtain ⟨hrest, hlast⟩ := number_numbered n ps
      have hnone : (dispatches [Envelope.unsequenced p]).length = 0 := by
        simp [dispatches, Envelope.unsequenced, hp]
      rw [number_cons_unsequenced _ ps hp, ← List.singleton_append]
      refine ⟨(numbered_unsequenced n hp).append (hnone ▸ hrest), hlast.trans ?_⟩
      rw [dispatches_append, List.length_append, hnone, Nat.zero_add]

/-! ## One operation, and a run of them -/

/-- **Only what is handed to the writer moves the counter**: a push that evicts, a push that closes the session, and an
empty batch leave it alone. -/
theorem apply_numbered (op : Op) (n : Nat) (s : Session) (h : s.sequence = UInt64.ofNat n) :
    Numbered n (s.apply op).1 ∧ (s.apply op).2.sequence = UInt64.ofNat (n + (dispatches (s.apply op).1).length) := by
  cases op with
  | push now p => exact ⟨numbered_nil n, h⟩
  | close code => exact ⟨numbered_nil n, h⟩
  | shutdown => exact ⟨numbered_nil n, h⟩
  | drain =>
    unfold apply nextOutgoing
    rcases hd : s.queue.drain with ⟨_ | b, q⟩
    · exact ⟨numbered_nil n, h⟩
    · dsimp only
      unfold stamp
      split
      · exact ⟨numbered_nil n, h⟩
      · rw [h]
        exact number_numbered n (announced b)

theorem run_numbered : ∀ (ops : List Op) (n : Nat) (s : Session), s.sequence = UInt64.ofNat n →
    Numbered n (s.run ops).1 ∧ (s.run ops).2.sequence = UInt64.ofNat (n + (dispatches (s.run ops).1).length)
  | [], n, s, h => ⟨numbered_nil n, h⟩
  | op :: ops, n, s, h => by
    obtain ⟨h1, h1'⟩ := apply_numbered op n s h
    obtain ⟨h2, h2'⟩ := run_numbered ops _ (s.apply op).2 h1'
    refine ⟨h1.append h2, ?_⟩
    rw [run, h2', dispatches_append, List.length_append, Nat.add_assoc]

/-- **The dispatches of a session carry 1, 2, 3 and so on, in the order in which they are handed to the writer**, and
the counter stands at the number of them, at every point of every run. -/
theorem run_dispatches_numbered (now : Moment) (id : SessionId) (connection : Connection) (identity : Identity)
    (capabilities : Wire.Capabilities) (config : QueueConfig) (ops : List Op) :
    let sent := ((new now id connection identity capabilities config).run ops).1
    let s := ((new now id connection identity capabilities config).run ops).2
    (dispatches sent).length < UInt64.size →
      (dispatches sent).map (·.seq.toNat) = List.range' 1 (dispatches sent).length ∧
        (∀ e ∈ sent, e.payload.isSequenced = false → e.seq = 0) ∧ s.sequence.toNat = (dispatches sent).length := by
  intro sent s few
  obtain ⟨h, hlast⟩ := run_numbered ops 0 (new now id connection identity capabilities config) rfl
  refine ⟨?_, h.zero, ?_⟩
  · show (dispatches sent).map (UInt64.toNat ∘ (·.seq)) = _
    rw [← List.map_map, h.seqs, List.map_map]
    refine (List.map_congr_left fun k hk => ?_).trans (List.map_id _)
    have hk : k < 0 + 1 + (dispatches sent).length := (List.mem_range'_1.1 hk).2
    exact UInt64.toNat_ofNat_of_lt' (show k < UInt64.size by omega)
  · rw [show s.sequence = _ from hlast, Nat.zero_add]
    exact UInt64.toNat_ofNat_of_lt' few

/-- A queue with room for one dispatch: the first one gives way, a notice takes the first number, and the reply between
them takes none. -/
theorem run_dispatches_numbered_evicting :
    let start := new ⟨0, 0⟩ ⟨1⟩ ⟨0, .json, ⟨2, 0⟩⟩ ⟨⟨7⟩, "agent"⟩ .all ⟨1, 1, .dropOldest 9 1000⟩
    let sent := (start.run [.push 0 (.messageDeleted 1 1), .push 0 (.heartbeatAck 0), .push 0 (.messageDeleted 1 2),
      .drain, .drain, .close .timeout, .push 0 (.messageDeleted 1 3), .drain, .shutdown, .drain]).1
    (dispatches sent).length < UInt64.size ∧ (dispatches sent).map (·.seq.toNat) = [1, 2] := by
  intro start sent
  have few : (dispatches sent).length < UInt64.size := by decide
  exact ⟨few, (run_dispatches_numbered _ _ _ _ _ _ _ few).1.trans (by decide)⟩

end EventGateway.Session
