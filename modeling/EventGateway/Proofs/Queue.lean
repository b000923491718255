import EventGateway.Config.Settings
/-!
# Queues — what a push does, and what the counts mean

`Pushed` lists everything that a push can do, with the condition of each; what holds of a push is read off it, and no
proof opens `push` again.  `Tidy` is the representation: the counts count what stands in the queue and keep to their
bounds, so the dispatch that an overflow evicts is there to be evicted (`evicted_of_full`).
-/
namespace EventGateway

namespace Wire.Payload

/-- A dispatch that stands for an event, and not for events lost. -/
def isEvent (p : Payload) : Bool := p.isSequenced && p.variant != .eventsMissed

/-- The number of lost dispatches that a payload tells of. -/
def missedCount : Payload → Nat
  | .eventsMissed n => n.toNat
  | _ => 0

theorem isCritical_of_isSequenced_eq_false {p : Payload} (h : p.isSequenced = false) : p.isCritical = true := by
  simp [isCritical, h]

theorem isSequenced_of_isEvent {p : Payload} (h : p.isEvent = true) : p.isSequenced = true := by
  simp only [isEvent, Bool.and_eq_true] at h
  exact h.1

theorem isEvent_eq_false_of_isCritical {p : Payload} (h : p.isCritical = true) : p.isEvent = false := by
  simp only [isCritical, Bool.not_eq_true'] at h
  simp [isEvent, h]

end Wire.Payload

namespace Queue

/-- **What a push does to a queue**, and what it answers. -/
inductive Pushed (now : Nat) (p : Wire.Payload) (q : Queue) : PushOutcome × Queue → Prop where
  | closing (h : q.isClosing = true) : Pushed now p q (.closed, q)
  | control (h : q.isClosing = false) (hp : p.isSequenced = false) (room : q.controls < q.config.controlCapacity) :
    Pushed now p q (.queued, { q with items := q.items ++ [p], controls := q.controls + 1 })
  /-- A control reply that finds no room closes the session. -/
  | controlRefused (h : q.isClosing = false) (hp : p.isSequenced = false)
    (full : q.config.controlCapacity ≤ q.controls) : Pushed now p q (.overflowed, q.overflowed)
  | dispatch (h : q.isClosing = false) (hp : p.isSequenced = true) (room : q.dispatches < q.config.capacity) :
    Pushed now p q (.queued, { q with items := q.items ++ [p], dispatches := q.dispatches + 1 })
  | evicting (threshold window : Nat) (h : q.isClosing = false) (hp : p.isSequenced = true)
    (full : q.config.capacity ≤ q.dispatches) (policy : q.config.overflow = .dropOldest threshold window)
    (few : (recentOverflows now window q.overflows).length < threshold) :
    Pushed now p q (.queuedAfterDrop, { q with
      items := q.items.eraseP (·.isSequenced) ++ [p]
      missed := q.missed + 1
      overflows := recentOverflows now window q.overflows })
  /-- The dispatch that closes the session is lost itself. -/
  | dispatchRefused (overflows : List Nat) (h : q.isClosing = false) (hp : p.isSequenced = true)
    (full : q.config.capacity ≤ q.dispatches)
    (policy : (q.config.overflow = .disconnect ∧ overflows = q.overflows) ∨
      ∃ threshold window, q.config.overflow = .dropOldest threshold window ∧
        overflows = recentOverflows now window q.overflows ∧ threshold ≤ overflows.length) :
    Pushed now p q (.overflowed, { q with
      missed := q.missed + 1
      overflows
      close := some .backpressureOverflow })

theorem pushFull_pushed (now : Nat) (p : Wire.Payload) (q : Queue) (h : q.isClosing = false)
    (hp : p.isSequenced = true) (full : q.config.capacity ≤ q.dispatches) : Pushed now p q (q.pushFull now p) := by
  unfold pushFull
  cases hpol : q.config.overflow with
  | disconnect => exact .dispatchRefused q.overflows h hp full (.inl ⟨hpol, rfl⟩)
  | dropOldest threshold window =>
    dsimp only
    split
    · rename_i hle
      exact .dispatchRefused _ h hp full (.inr ⟨threshold, window, hpol, rfl, hle⟩)
    · rename_i hlt
      have hq : (fun p : Wire.Payload => !p.isCritical) = (·.isSequenced) := by
        funext p; simp [Wire.Payload.isCritical]
      simp only [replaceOldest, hq]
      exact .evicting threshold window h hp full hpol (Nat.lt_of_not_le hlt)

theorem pushed (now : Nat) (p : Wire.Payload) (q : Queue) : Pushed now p q (q.push now p) := by
  unfold push
  split
  · rename_i h
    exact .closing h
  rename_i h
  have h : q.isClosing = false := by simpa using h
  split
  · rename_i hp
    have hp : p.isSequenced = false := by simpa [Wire.Payload.isCritical] using hp
    split
    · rename_i room
      exact .control h hp room
    · rename_i full
      exact .controlRefused h hp (Nat.le_of_not_lt full)
  · rename_i hp
    have hp : p.isSequenced = true := by simpa [Wire.Payload.isCritical] using hp
    split
    · rename_i room
      exact .dispatch h hp room
    · rename_i full
      exact pushFull_pushed now p q h hp (Nat.le_of_not_lt full)

/-! ## Queues that are closing -/

section Closing

variable {q : Queue}

theorem close_of_isClosing_eq_false (h : q.isClosing = false) : q.close = none := by
  simp only [isClosing, Bool.or_eq_false_iff, Option.isSome_eq_false_iff, Option.isNone_iff_eq_none] at h
  exact h.1

theorem isClosing_of_close {code : CloseCode} (h : q.close = some code) : q.isClosing = true := by
  rw [isClosing, h]
  rfl

theorem push_of_isClosing (h : q.isClosing = true) (now : Nat) (p : Wire.Payload) : q.push now p = (.closed, q) := by
  unfold push
  rw [if_pos h]

theorem closeWith_of_isClosing (h : q.isClosing = true) (code : CloseCode) : q.closeWith code = (false, q) := by
  unfold closeWith
  rw [if_pos h]

theorem closeWith_of_isClosing_eq_false (h : q.isClosing = false) (code : CloseCode) :
    q.closeWith code = (true, { q with close := some code }) := by
  unfold closeWith
  rw [if_neg (by simp [h])]

end Closing

/-- What is queued is sent before the close frame. -/
theorem closeWith_items (q : Queue) (code : CloseCode) :
    (q.closeWith code).2.items = q.items ∧ (q.closeWith code).2.shut = q.shut := by
  unfold closeWith
  split <;> exact ⟨rfl, rfl⟩

/-! ## What the counts mean -/

/-- **The counts count what stands in the queue, and keep to their bounds.** -/
structure Tidy (q : Queue) : Prop where
  dispatches_eq : q.dispatches = q.items.countP (·.isSequenced)
  controls_eq : q.controls = q.items.countP (!·.isSequenced)
  dispatches_le : q.dispatches ≤ q.config.capacity
  controls_le : q.controls ≤ q.config.controlCapacity
  capacity_pos : 0 < q.config.capacity

theorem tidy_new (config : QueueConfig) (h : 0 < config.capacity) : (new config).Tidy :=
  ⟨rfl, rfl, Nat.zero_le _, Nat.zero_le _, h⟩

/-- **A queue that is full holds a dispatch to evict.** -/
theorem evicted_of_full {q : Queue} (ht : q.Tidy) (full : q.config.capacity ≤ q.dispatches) :
    ∃ before p after, q.items = before ++ p :: after ∧ p.isSequenced = true ∧
      (∀ x ∈ before, x.isSequenced = false) ∧ q.items.eraseP (·.isSequenced) = before ++ after := by
  have hpos : 0 < q.items.countP (·.isSequenced) := by
    have := ht.dispatches_eq; have := ht.capacity_pos; omega
  obtain ⟨p, hmem, hp⟩ := List.countP_pos_iff.1 hpos
  obtain ⟨a, before, after, hbefore, ha, hitems, herase⟩ := List.exists_of_eraseP hmem hp
  exact ⟨before, a, after, hitems, ha, fun x hx => by simpa using hbefore x hx, herase⟩

theorem Tidy.push {q : Queue} (ht : q.Tidy) (now : Nat) (p : Wire.Payload) : (q.push now p).2.Tidy := by
  obtain ⟨hd, hc, hdle, hcle, hpos⟩ := ht
  generalize hr : q.push now p = r
  have hpushed : Pushed now p q r := hr ▸ pushed now p q
  cases hpushed with
  | closing => exact ⟨hd, hc, hdle, hcle, hpos⟩
  | control _ hp room => exact ⟨by simp [hd, hp], by simp [hc, hp], hdle, room, hpos⟩
  | controlRefused => exact ⟨hd, hc, hdle, hcle, hpos⟩
  | dispatch _ hp room => exact ⟨by simp [hd, hp], by simp [hc, hp], room, hcle, hpos⟩
  | evicting threshold window _ hp full =>
    obtain ⟨before, old, after, hitems, hold, -, herase⟩ := evicted_of_full ⟨hd, hc, hdle, hcle, hpos⟩ full
    refine ⟨?_, ?_, hdle, hcle, hpos⟩
    · show q.dispatches = List.countP (·.isSequenced) (q.items.eraseP (·.isSequenced) ++ [p])
      rw [herase, hd, hitems]
      simp [hold, hp]
    · show q.controls = List.countP (!·.isSequenced) (q.items.eraseP (·.isSequenced) ++ [p])
      rw [herase, hc, hitems]
      simp [hold, hp]
  | dispatchRefused => exact ⟨hd, hc, hdle, hcle, hpos⟩

theorem Tidy.closeWith {q : Queue} (ht : q.Tidy) (code : CloseCode) : (q.closeWith code).2.Tidy := by
  unfold Queue.closeWith
  split
  · exact ht
  · exact ⟨ht.1, ht.2, ht.3, ht.4, ht.5⟩

theorem Tidy.shutdown {q : Queue} (ht : q.Tidy) : q.shutdown.Tidy :=
  ⟨rfl, rfl, Nat.zero_le _, Nat.zero_le _, ht.capacity_pos⟩

theorem Tidy.drain {q : Queue} (ht : q.Tidy) : q.drain.2.Tidy := by
  unfold Queue.drain
  split
  · exact ht
  · split
    · exact ⟨rfl, rfl, Nat.zero_le _, Nat.zero_le _, ht.capacity_pos⟩
    · exact ⟨rfl, rfl, Nat.zero_le _, Nat.zero_le _, ht.capacity_pos⟩

/-! ## Draining -/

/-- **A drain leaves nothing behind**, neither payloads nor losses to tell of. -/
theorem drain_empties (q : Queue) : q.drain.2.items = [] ∧ q.drain.2.missed = 0 := by
  unfold drain
  split
  · rename_i hw
    simp only [hasWork, Bool.not_eq_true', Bool.or_eq_false_iff, Bool.not_eq_false', decide_eq_false_iff_not,
      List.isEmpty_iff, Nat.not_lt, Nat.le_zero] at hw
    exact ⟨hw.1.1.1, hw.1.1.2⟩
  · split <;> exact ⟨rfl, rfl⟩

theorem drain_shut (q : Queue) : q.drain.2.shut = q.shut := by
  unfold drain
  split
  · rfl
  · split <;> rfl

theorem drain_close (q : Queue) : q.drain.2.close = q.close := by
  unfold drain
  split
  · rfl
  · split <;> rfl

theorem drain_config (q : Queue) : q.drain.2.config = q.config := by
  unfold drain
  split
  · rfl
  · split <;> rfl

theorem drain_overflows (q : Queue) : q.drain.2.overflows = q.overflows := by
  unfold drain
  split
  · rfl
  · split <;> rfl

theorem drain_isClosing (q : Queue) : q.drain.2.isClosing = q.isClosing := by
  unfold drain
  split
  · rfl
  · split <;> rfl

end Queue

/-- **Whatever the settings say, a queue built from them has room for a dispatch.** -/
theorem Settings.queue_capacity_pos (s : Settings) : 0 < s.queue.capacity :=
  Nat.lt_of_lt_of_le Nat.one_pos (Nat.le_max_right _ _)

end EventGateway
