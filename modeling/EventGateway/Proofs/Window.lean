import EventGateway.Proofs.Closing
/-!
# Window — the overflows that count against a session

A queue keeps the ticks at which it overflowed, and drops from the front the ones that are past the window.  Since the
clock does not run backwards, the ones that are left are the overflows of the whole run that lie within the window
(`Remembers.recent`), so a session is closed exactly when there are enough of them (`overflow_closes_iff`).
-/
namespace EventGateway.Queue

open Session (Op)

variable {threshold window : Nat} {ticks : List Nat} {q : Queue}

/-! ## Overflows -/

/-- Whether there are as many dispatches queued as there is room for. -/
def isFull (q : Queue) : Bool := q.config.capacity ≤ q.items.countP (·.isSequenced)

/-- The reading of the clock at an operation that overflows the queue: a dispatch finds it open and full. -/
def overflowTicks (q : Queue) : Op → List Nat
  | .push now p => if !q.isClosing && p.isSequenced && q.isFull then [now] else []
  | .close _ | .shutdown | .drain => []

/-- In order of time, the ticks past the window come first. -/
theorem dropWhile_eq_filter (now window : Nat) : ∀ {ticks : List Nat}, ticks.Pairwise (· ≤ ·) →
    ticks.dropWhile (fun t => window < now - t) = ticks.filter (fun t => now - t ≤ window)
  | [], _ => rfl
  | t :: ticks, hsorted => by
    rw [List.pairwise_cons] at hsorted
    by_cases hpast : window < now - t
    · rw [List.dropWhile_cons_of_pos (by simpa using hpast), List.filter_cons_of_neg (by simp; omega)]
      exact dropWhile_eq_filter now window hsorted.2
    · have hall : ∀ s ∈ ticks, now - s ≤ window := fun s hs => by
        have hle := hsorted.1 s hs
        omega
      rw [List.dropWhile_cons_of_neg (by simpa using hpast), List.filter_cons_of_pos (by simpa using hpast),
        List.filter_eq_self.2 fun s hs => by simpa using hall s hs]

/-! ## What the queue keeps of them -/

/-- **The ticks of a queue are the overflows so far, but for some that are past the window**, now and ever after. -/
structure Remembers (threshold window : Nat) (ticks : List Nat) (q : Queue) : Prop where
  policy : q.config.overflow = .dropOldest threshold window
  /-- Without room for any dispatch the queue is always full, and its count means nothing. -/
  counts : q.config.capacity = 0 ∨ q.Tidy
  pruned : ∀ now, (ticks ++ [now]).Pairwise (· ≤ ·) →
    ∃ past, ticks = past ++ q.overflows ∧ ∀ t ∈ past, window < now - t
  few : q.isClosing = false → q.overflows.length < max threshold 1

theorem isFull_iff (hcounts : q.config.capacity = 0 ∨ q.Tidy) : q.isFull = true ↔ q.config.capacity ≤ q.dispatches := by
  rw [isFull, decide_eq_true_iff]
  rcases hcounts with hzero | htidy
  · omega
  · rw [htidy.dispatches_eq]

/-- **What is left of the ticks at an overflow**: those of the run that lie within the window. -/
theorem Remembers.recent (h : Remembers threshold window ticks q) {now : Nat}
    (hclock : (ticks ++ [now]).Pairwise (· ≤ ·)) :
    recentOverflows now window q.overflows = (ticks ++ [now]).filter (fun t => now - t ≤ window) := by
  obtain ⟨past, rfl, hpast⟩ := h.pruned now hclock
  have hsorted : q.overflows.Pairwise (· ≤ ·) :=
    (List.pairwise_append.1 (List.pairwise_append.1 hclock).1).2.1
  have hnone : past.filter (fun t => now - t ≤ window) = [] :=
    List.filter_eq_nil_iff.2 fun t ht => by have := hpast t ht; simp; omega
  rw [recentOverflows, dropWhile_eq_filter now window hsorted, List.filter_append, List.filter_append, hnone]
  simp

/-- A tick is appended, and what the queue drops is past the window. -/
theorem Remembers.prune (h : Remembers threshold window ticks q) (tick now : Nat)
    (hclock : (ticks ++ [tick] ++ [now]).Pairwise (· ≤ ·)) :
    ∃ past, ticks ++ [tick] = past ++ recentOverflows tick window q.overflows ∧ ∀ t ∈ past, window < now - t := by
  obtain ⟨hsorted, -, hle⟩ := List.pairwise_append.1 hclock
  have htick : tick ≤ now := hle tick (by simp) now (by simp)
  obtain ⟨past, hticks, hpast⟩ := h.pruned tick hsorted
  refine ⟨past ++ q.overflows.takeWhile (fun t => window < tick - t), ?_, fun t ht => ?_⟩
  · rw [recentOverflows, List.append_assoc, ← List.append_assoc (List.takeWhile _ _), List.takeWhile_append_dropWhile,
      ← List.append_assoc, ← hticks]
  · have hold : window < tick - t := by
      rcases List.mem_append.1 ht with ht | ht
      · exact hpast t ht
      · exact of_decide_eq_true (List.all_eq_true.1 List.all_takeWhile t ht)
    omega

/-! ## One operation -/

/-- A dispatch that finds an open queue full. -/
theorem push_full (policy : q.config.overflow = .dropOldest threshold window) (hopen : q.isClosing = false)
    {p : Wire.Payload} (hp : p.isSequenced = true) (hfull : q.config.capacity ≤ q.dispatches) (now : Nat) :
    (q.push now p).2.overflows = recentOverflows now window q.overflows ∧
    ((threshold ≤ (recentOverflows now window q.overflows).length ∧ (q.push now p).1 = .overflowed ∧
        (q.push now p).2.close = some .backpressureOverflow) ∨
      ((recentOverflows now window q.overflows).length < threshold ∧ (q.push now p).1 = .queuedAfterDrop ∧
        (q.push now p).2.isClosing = false)) := by
  generalize hr : q.push now p = r
  have hpushed : Pushed now p q r := hr ▸ pushed now p q
  cases hpushed with
  | closing hclosing => rw [hopen] at hclosing; cases hclosing
  | control _ hcontrol | controlRefused _ hcontrol => rw [hp] at hcontrol; cases hcontrol
  | dispatch _ _ room => exact absurd room (Nat.not_lt.2 hfull)
  | evicting threshold' window' _ _ _ policy' few =>
    obtain ⟨rfl, rfl⟩ : threshold = threshold' ∧ window = window' := by simpa [policy] using policy'
    exact ⟨rfl, .inr ⟨few, rfl, hopen⟩⟩
  | dispatchRefused overflows _ _ _ hpolicy =>
    rcases hpolicy with ⟨policy', -⟩ | ⟨threshold', window', policy', hoverflows, hmany⟩
    · rw [policy] at policy'
      cases policy'
    · obtain ⟨rfl, rfl⟩ : threshold = threshold' ∧ window = window' := by simpa [policy] using policy'
      subst hoverflows
      exact ⟨rfl, .inl ⟨hmany, rfl, rfl⟩⟩

/-- **What an operation does to the ticks**: an overflow drops what is past the window and adds its own, and leaves the
queue open only if there are too few; anything else leaves them alone. -/
theorem step_ticks (policy : q.config.overflow = .dropOldest threshold window)
    (hcounts : q.config.capacity = 0 ∨ q.Tidy) (op : Op) :
    (q.overflowTicks op = [] ∧ (q.step op).overflows = q.overflows) ∨
    ∃ now, q.overflowTicks op = [now] ∧ (q.step op).overflows = recentOverflows now window q.overflows ∧
      ((q.step op).isClosing = false → (q.step op).overflows.length < threshold) := by
  cases op with
  | close code => exact .inl ⟨rfl, (q.closeWith_same code).2.2.2⟩
  | shutdown => exact .inl ⟨rfl, rfl⟩
  | drain => exact .inl ⟨rfl, q.drain_overflows⟩
  | push now p =>
    rw [overflowTicks, step]
    split
    · rename_i h
      simp only [Bool.and_eq_true, Bool.not_eq_true'] at h
      obtain ⟨⟨hopen, hp⟩, hfull⟩ := h
      obtain ⟨hrecent, hpush⟩ := push_full policy hopen hp ((isFull_iff hcounts).1 hfull) now
      refine .inr ⟨now, rfl, hrecent, fun hopen' => ?_⟩
      rcases hpush with ⟨-, -, hclose⟩ | ⟨hfew, -, -⟩
      · rw [isClosing_of_close hclose] at hopen'
        cases hopen'
      · rw [hrecent]
        exact hfew
    · rename_i h
      refine .inl ⟨rfl, ?_⟩
      generalize hr : q.push now p = r
      have hpushed : Pushed now p q r := hr ▸ pushed now p q
      cases hpushed with
      | closing | control | controlRefused | dispatch => rfl
      | evicting _ _ hopen hp full | dispatchRefused _ hopen hp full =>
        exact absurd (by simp [hopen, hp, (isFull_iff hcounts).2 full]) h

theorem Remembers.step (h : Remembers threshold window ticks q) (op : Op) :
    Remembers threshold window (ticks ++ q.overflowTicks op) (q.step op) := by
  have hpolicy : (q.step op).config.overflow = .dropOldest threshold window := q.config_step op ▸ h.policy
  have hcounts : (q.step op).config.capacity = 0 ∨ (q.step op).Tidy :=
    h.counts.imp (fun hzero => (q.config_step op).symm ▸ hzero) (fun htidy => htidy.step op)
  rcases step_ticks h.policy h.counts op with ⟨hnone, hsame⟩ | ⟨tick, htick, hrecent, hfew⟩
  · rw [hnone, List.append_nil]
    refine ⟨hpolicy, hcounts, hsame.symm ▸ h.pruned, fun hopen => ?_⟩
    rw [hsame]
    exact h.few (Bool.eq_false_iff.2 fun hclosing => by rw [isClosing_step hclosing] at hopen; cases hopen)
  · rw [htick]
    refine ⟨hpolicy, hcounts, hrecent.symm ▸ h.prune tick, fun hopen => ?_⟩
    exact Nat.lt_of_lt_of_le (hfew hopen) (Nat.le_max_left _ _)

/-- **What every operation keeps, a run keeps.** -/
theorem remembers_run (config : QueueConfig) (policy : config.overflow = .dropOldest threshold window) (ops : List Op) :
    Remembers threshold window (along overflowTicks (new config) ops) ((new config).run ops) := by
  refine along_invariant ops [] (fun op _ ticks q h => Remembers.step h op) ⟨policy, ?_, ?_, ?_⟩
  · exact (Nat.eq_zero_or_pos config.capacity).imp id (tidy_new config)
  · exact fun now _ => ⟨[], rfl, fun t ht => absurd ht List.not_mem_nil⟩
  · exact fun _ => Nat.lt_of_lt_of_le Nat.one_pos (Nat.le_max_right _ _)

/-- **A session is closed for its overflows exactly when enough of them lie within the window.**  Take any operations on
a queue whose oldest dispatch gives way, and let the clock not run backwards between the overflows.  A dispatch that
finds the queue open and full at `now` closes it if and only if at least `threshold` overflows of the whole run lie
within the window, this one included, whatever was drained in between and with `window` itself as the last distance
that counts; otherwise it is queued, and the queue stays open.  An open queue keeps fewer than `threshold` ticks, or
none. -/
theorem overflow_closes_iff (config : QueueConfig) (threshold window : Nat)
    (policy : config.overflow = .dropOldest threshold window) (ops : List Op) :
    let q := (new config).run ops
    let ticks := along overflowTicks (new config) ops
    (q.isClosing = false → q.overflows.length < max threshold 1) ∧
    ∀ now p, q.isClosing = false → p.isSequenced = true → q.isFull = true → (ticks ++ [now]).Pairwise (· ≤ ·) →
      let recent := (ticks ++ [now]).filter fun t => now - t ≤ window
      (q.push now p).2.overflows = recent ∧
      ((q.push now p).1 = .overflowed ∧ (q.push now p).2.close = some .backpressureOverflow ↔
        threshold ≤ recent.length) ∧
      ((q.push now p).1 = .queuedAfterDrop ∧ (q.push now p).2.isClosing = false ↔ recent.length < threshold) := by
  intro q ticks
  have h : Remembers threshold window ticks q := remembers_run config policy ops
  refine ⟨h.few, fun now p hopen hp hfull hclock => ?_⟩
  obtain ⟨hoverflows, hpush⟩ := push_full h.policy hopen hp ((isFull_iff h.counts).1 hfull) now
  rw [h.recent hclock] at hoverflows hpush
  refine ⟨hoverflows, ?_⟩
  rcases hpush with ⟨hmany, houtcome, hclose⟩ | ⟨hfew, houtcome, hstays⟩
  · refine ⟨⟨fun _ => hmany, fun _ => ⟨houtcome, hclose⟩⟩, fun h => ?_, fun h => absurd hmany (Nat.not_le.2 h)⟩
    rw [houtcome] at h
    cases h.1
  · refine ⟨⟨fun h => ?_, fun h => absurd hfew (Nat.not_lt.2 h)⟩, fun _ => hfew, fun _ => ⟨houtcome, hstays⟩⟩
    rw [houtcome] at h
    cases h.1

/-- Room for one dispatch, and the second overflow within ten ticks closes.  The queue has overflowed at 5 and was
drained since; at 15 that one counts, at 16 it does not. -/
theorem overflow_closes_iff_boundary :
    let config : QueueConfig := ⟨1, 1, .dropOldest 2 10⟩
    let ops := [Op.push 0 (.messageDeleted 1 1), .push 5 (.messageDeleted 1 2), .drain, .push 6 (.messageDeleted 1 3)]
    let q := (new config).run ops
    let p := Wire.Payload.messageDeleted 1 4
    config.overflow = .dropOldest 2 10 ∧ q.isClosing = false ∧ p.isSequenced = true ∧ q.isFull = true ∧
      (along overflowTicks (new config) ops ++ [15]).Pairwise (· ≤ ·) ∧
      (along overflowTicks (new config) ops ++ [16]).Pairwise (· ≤ ·) ∧
      (q.push 15 p).1 = .overflowed ∧ (q.push 16 p).1 = .queuedAfterDrop := by
  intro config ops q p
  obtain ⟨-, hpush⟩ := overflow_closes_iff config 2 10 rfl ops
  have h15 := hpush 15 p rfl rfl rfl (by decide)
  have h16 := hpush 16 p rfl rfl rfl (by decide)
  exact ⟨rfl, rfl, rfl, rfl, by decide, by decide, (h15.2.1.2 (by decide)).1, (h16.2.2.2 (by decide)).1⟩

end EventGateway.Queue
