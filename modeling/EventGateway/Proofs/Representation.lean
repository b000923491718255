import EventGateway.Proofs.Batches
/-!
# Representation — what the fields of a queue say of its contents

The two counts of a queue are kept apart from what they count, and an eviction leaves them alone.  `Tidy` says that they
are right all the same; `Represents` adds what the other fields stand for, and every operation keeps it, so a session
never holds more than its two bounds (`contents_counted_and_bounded`).
-/
namespace EventGateway

/-- The reading of the clock that an operation comes with. -/
def Session.Op.readings : Session.Op → List Nat
  | .push now _ => [now]
  | .close _ | .shutdown | .drain => []

namespace Queue

open Session (Op)

variable {readings : List Nat} {q : Queue}

/-- **What the fields of a queue stand for**, after these readings of the clock. -/
structure Represents (readings : List Nat) (q : Queue) : Prop where
  tidy : q.Tidy
  overflows_sublist : q.overflows.Sublist readings
  /-- A dispatch is lost only where there is no room, and room is made only by what tells of the loss as well. -/
  full_of_missed : 0 < q.missed → q.shut = false → q.dispatches = q.config.capacity

theorem represents_new (config : QueueConfig) (h : 0 < config.capacity) : Represents [] (new config) :=
  ⟨tidy_new config h, List.Sublist.refl [], fun hmissed => absurd hmissed (Nat.lt_irrefl 0)⟩

/-! ## One operation -/

theorem recentOverflows_sublist {ticks : List Nat} (h : ticks.Sublist readings) (now window : Nat) :
    (recentOverflows now window ticks).Sublist (readings ++ [now]) :=
  ((List.dropWhile_sublist _).trans h).append (List.Sublist.refl [now])

theorem Represents.push (h : Represents readings q) (now : Nat) (p : Wire.Payload) :
    Represents (readings ++ [now]) (q.push now p).2 := by
  have htidy := h.tidy.push now p
  have hsame : q.overflows.Sublist (readings ++ [now]) := h.overflows_sublist.trans (List.sublist_append_left _ _)
  generalize hr : q.push now p = r at htidy ⊢
  have hpushed : Pushed now p q r := hr ▸ pushed now p q
  cases hpushed with
  | closing | control | controlRefused => exact ⟨htidy, hsame, h.full_of_missed⟩
  | dispatch _ _ room =>
    -- With room for one more nothing has been lost yet.
    exact ⟨htidy, hsame, fun hmissed hshut => absurd (h.full_of_missed hmissed hshut) (Nat.ne_of_lt room)⟩
  | evicting threshold window _ _ full =>
    exact ⟨htidy, recentOverflows_sublist h.overflows_sublist now window,
      fun _ _ => Nat.le_antisymm h.tidy.dispatches_le full⟩
  | dispatchRefused overflows _ _ full policy =>
    refine ⟨htidy, ?_, fun _ _ => Nat.le_antisymm h.tidy.dispatches_le full⟩
    obtain ⟨-, rfl⟩ | ⟨threshold, window, -, rfl, -⟩ := policy
    · exact hsame
    · exact recentOverflows_sublist h.overflows_sublist now window

theorem Represents.step (h : Represents readings q) (op : Op) : Represents (readings ++ op.readings) (q.step op) := by
  cases op with
  | push now p => exact h.push now p
  | close code =>
    rw [Op.readings, List.append_nil]
    rcases Bool.eq_false_or_eq_true q.isClosing with hclosing | hopen
    · rw [step_of_isClosing hclosing (by simp) (by simp)]
      exact h
    · rw [Queue.step, closeWith_of_isClosing_eq_false hopen]
      have htidy := h.tidy.closeWith code
      rw [closeWith_of_isClosing_eq_false hopen] at htidy
      exact ⟨htidy, h.overflows_sublist, h.full_of_missed⟩
  | shutdown =>
    rw [Op.readings, List.append_nil]
    exact ⟨h.tidy.shutdown, h.overflows_sublist, fun _ hshut => by cases hshut⟩
  | drain =>
    rw [Op.readings, List.append_nil]
    refine ⟨h.tidy.drain, q.drain_overflows.symm ▸ h.overflows_sublist, fun hmissed => ?_⟩
    have hnone : q.drain.2.missed = 0 := q.drain_empties.2
    rw [Queue.step, hnone] at hmissed
    exact absurd hmissed (Nat.lt_irrefl 0)

/-- **What every operation keeps, a run keeps.** -/
theorem Represents.run : ∀ (ops : List Op) {readings : List Nat} {q : Queue}, Represents readings q →
    Represents (readings ++ ops.flatMap (·.readings)) (q.run ops)
  | [], _, _, h => (List.append_nil _).symm ▸ h
  | op :: ops, _, _, h => by
    rw [List.flatMap_cons, ← List.append_assoc]
    exact Represents.run ops (h.step op)

/-! ## Losses -/

theorem missed_step_le (q : Queue) (op : Op) : (q.step op).missed ≤ q.missed + op.readings.length := by
  cases op with
  | push now p =>
    show (q.push now p).2.missed ≤ q.missed + 1
    generalize hr : q.push now p = r
    have hpushed : Pushed now p q r := hr ▸ pushed now p q
    cases hpushed with
    | evicting | dispatchRefused => exact Nat.le_refl _
    | closing | control | controlRefused | dispatch => exact Nat.le_succ _
  | close code =>
    show (q.closeWith code).2.missed ≤ _
    unfold closeWith
    split <;> exact Nat.le_refl _
  | shutdown => exact Nat.le_refl _
  | drain =>
    show q.drain.2.missed ≤ _
    rw [q.drain_empties.2]
    exact Nat.zero_le _

/-- **No more is missed than is pushed**, so a counter of 64 bits does not run over before there are as many pushes. -/
theorem missed_run_le : ∀ (ops : List Op) (q : Queue), (q.run ops).missed ≤ q.missed + (ops.flatMap (·.readings)).length
  | [], _ => Nat.le_refl _
  | op :: ops, q => by
    rw [List.flatMap_cons, List.length_append]
    have hrun := missed_run_le ops (q.step op)
    have hstep := missed_step_le q op
    show ((q.step op).run ops).missed ≤ _
    omega

/-- Every payload is of one of the two kinds, so the two counts make up the length. -/
theorem Tidy.length_items (h : q.Tidy) : q.items.length = q.dispatches + q.controls := by
  rw [h.dispatches_eq, h.controls_eq, List.length_eq_countP_add_countP (·.isSequenced)]
  simp

/-- **The fields of a queue are right about its contents, and the contents are bounded.**  Take any settings, checked or
not, and any operations on a queue that is built from them.  The two counts are those of the dispatches and of the other
payloads that are queued; each keeps to its bound, so the queue never holds more than both together.  The ticks that are
kept are readings of the clock in the order of the pushes, so they do not go down where the clock does not.  On a queue
that is not shut something can be missed only while it is full of dispatches; and a push that evicts finds a dispatch to
evict, takes the oldest and nothing else, and leaves every count right. -/
theorem contents_counted_and_bounded (s : Settings) (ops : List Op) :
    let q := (new s.queue).run ops
    q.dispatches = q.items.countP (·.isSequenced) ∧
    q.controls = q.items.countP (!·.isSequenced) ∧
    q.dispatches ≤ s.queue.capacity ∧
    q.controls ≤ s.queue.controlCapacity ∧
    q.items.length ≤ s.queue.capacity + s.queue.controlCapacity ∧
    ((ops.flatMap (·.readings)).Pairwise (· ≤ ·) → q.overflows.Pairwise (· ≤ ·)) ∧
    (0 < q.missed → q.shut = false → q.dispatches = s.queue.capacity) ∧
    ∀ now p, (q.push now p).1 = .queuedAfterDrop → ∃ before old after, q.items = before ++ old :: after ∧
      old.isSequenced = true ∧ (∀ x ∈ before, x.isSequenced = false) ∧
      (q.push now p).2.items = before ++ after ++ [p] := by
  intro q
  have h : Represents (ops.flatMap (·.readings)) q :=
    (represents_new s.queue s.queue_capacity_pos).run ops
  have hconfig : q.config = s.queue := config_run ops (new s.queue)
  have hdispatches : q.dispatches ≤ s.queue.capacity := hconfig ▸ h.tidy.dispatches_le
  have hcontrols : q.controls ≤ s.queue.controlCapacity := hconfig ▸ h.tidy.controls_le
  refine ⟨h.tidy.dispatches_eq, h.tidy.controls_eq, hdispatches, hcontrols, ?_, ?_, ?_, ?_⟩
  · rw [h.tidy.length_items]
    exact Nat.add_le_add hdispatches hcontrols
  · exact fun hclock => hclock.sublist h.overflows_sublist
  · exact fun hmissed hshut => hconfig ▸ h.full_of_missed hmissed hshut
  · exact fun now p => evicts_oldest h.tidy

/-- Settings without room for anything, and an overflow at 7: the first dispatch has given way to the second one, from
in front of the reply between them, and the next one would give way in turn. -/
theorem contents_counted_and_bounded_full :
    let s : Settings := { Settings.standard with queueCapacity := 0, controlQueueCapacity := 0 }
    let ops := [Op.push 5 (.messageDeleted 1 1), .push 6 (.heartbeatAck 0), .push 7 (.messageDeleted 1 2)]
    let q := (new s.queue).run ops
    (ops.flatMap (·.readings)).Pairwise (· ≤ ·) ∧ q.overflows = [7] ∧ q.overflows.Pairwise (· ≤ ·) ∧
      0 < q.missed ∧ q.shut = false ∧ q.dispatches = s.queue.capacity ∧
      (q.push 9 (.messageDeleted 1 3)).1 = .queuedAfterDrop ∧
      ∃ before old after, q.items = before ++ old :: after ∧ old.isSequenced = true ∧
        (∀ x ∈ before, x.isSequenced = false) ∧
        (q.push 9 (.messageDeleted 1 3)).2.items = before ++ after ++ [.messageDeleted 1 3] := by
  intro s ops q
  obtain ⟨-, -, -, -, -, hticks, hfull, hevicts⟩ := contents_counted_and_bounded s ops
  have hclock : (ops.flatMap (·.readings)).Pairwise (· ≤ ·) := by decide
  have hmissed : 0 < q.missed ∧ q.shut = false := by decide +kernel
  have hevicting : (q.push 9 (.messageDeleted 1 3)).1 = .queuedAfterDrop := by decide +kernel
  exact ⟨hclock, by decide +kernel, hticks hclock, hmissed.1, hmissed.2, hfull hmissed.1 hmissed.2, hevicting,
    hevicts 9 _ hevicting⟩

end Queue
end EventGateway
