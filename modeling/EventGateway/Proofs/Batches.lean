import EventGateway.Proofs.Closing
/-!
# Batches — what a queue hands over, told by the pushes since the last batch

A batch has all control replies that were accepted since the one before it, and of the dispatches the `newest`, as many
as there is room for; the rest are counted as missed (`drained_batch`).  `Logged` ties a queue to the answers of the
pushes, and every push keeps it.
-/
namespace EventGateway

open Wire (Payload)

/-! ## The newest dispatches -/

def dispatchesOf (ps : List Payload) : List Payload := ps.filter (·.isSequenced)

def repliesOf (ps : List Payload) : List Payload := ps.filter (!·.isSequenced)

/-- **All but the dispatches that `k` others or more come after.** -/
def newest (k : Nat) : List Payload → List Payload
  | [] => []
  | p :: ps => if p.isSequenced && k ≤ (dispatchesOf ps).length then newest k ps else p :: newest k ps

section Newest

variable {k : Nat} {p : Payload} {ps : List Payload}

theorem dispatchesOf_cons_of_dispatch (hp : p.isSequenced = true) : dispatchesOf (p :: ps) = p :: dispatchesOf ps :=
  List.filter_cons_of_pos hp

theorem dispatchesOf_cons_of_control (hp : p.isSequenced = false) : dispatchesOf (p :: ps) = dispatchesOf ps :=
  List.filter_cons_of_neg (by simp [hp])

theorem length_dispatchesOf_concat (ps : List Payload) (p : Payload) :
    (dispatchesOf (ps ++ [p])).length = (dispatchesOf ps).length + p.isSequenced.toNat := by
  rw [dispatchesOf, List.filter_append, List.length_append]
  cases hp : p.isSequenced <;> simp [dispatchesOf, hp]

theorem repliesOf_cons_of_control (hp : p.isSequenced = false) : repliesOf (p :: ps) = p :: repliesOf ps :=
  List.filter_cons_of_pos (by simp [hp])

theorem repliesOf_cons_of_dispatch (hp : p.isSequenced = true) : repliesOf (p :: ps) = repliesOf ps :=
  List.filter_cons_of_neg (by simp [hp])

theorem repliesOf_append (ps qs : List Payload) : repliesOf (ps ++ qs) = repliesOf ps ++ repliesOf qs :=
  List.filter_append ..

/-- **What gives way is no reply.** -/
theorem repliesOf_eraseP : ∀ ps : List Payload, repliesOf (ps.eraseP (·.isSequenced)) = repliesOf ps
  | [] => rfl
  | p :: ps => by
    cases hp : p.isSequenced with
    | true => rw [List.eraseP_cons_of_pos hp, repliesOf_cons_of_dispatch hp]
    | false =>
      rw [List.eraseP_cons_of_neg (by simp [hp]), repliesOf_cons_of_control hp, repliesOf_cons_of_control hp,
        repliesOf_eraseP ps]

theorem newest_of_control (hp : p.isSequenced = false) : newest k (p :: ps) = p :: newest k ps := by
  rw [newest, hp]
  rfl

theorem newest_of_late (hp : p.isSequenced = true) (h : k ≤ (dispatchesOf ps).length) :
    newest k (p :: ps) = newest k ps := by
  rw [newest, hp, if_pos (by simpa using h)]

theorem newest_of_few (h : (dispatchesOf ps).length < k) : newest k (p :: ps) = p :: newest k ps := by
  rw [newest, if_neg (by simp; omega)]

/-- A control reply gives way to nothing, and nothing to it. -/
theorem newest_concat_of_control (hp : p.isSequenced = false) : ∀ ps : List Payload,
    newest k (ps ++ [p]) = newest k ps ++ [p]
  | [] => newest_of_control hp
  | x :: ps => by
    have hcount := length_dispatchesOf_concat ps p
    rw [hp, Bool.toNat_false, Nat.add_zero] at hcount
    rw [List.cons_append, newest, newest, hcount, newest_concat_of_control hp ps]
    split <;> rfl

/-- **Where there is no room for one more dispatch, the first of the newest gives way to it.** -/
theorem newest_concat_of_dispatch (hk : 0 < k) (hp : p.isSequenced = true) : ∀ ps : List Payload,
    newest k (ps ++ [p]) =
      (if (dispatchesOf ps).length < k then newest k ps else (newest k ps).eraseP (·.isSequenced)) ++ [p]
  | [] => by
    rw [if_pos (show (dispatchesOf []).length < k from hk)]
    exact newest_of_few hk
  | x :: ps => by
    have ih := newest_concat_of_dispatch hk hp ps
    have hcount := length_dispatchesOf_concat ps p
    rw [hp, Bool.toNat_true] at hcount
    rw [List.cons_append]
    cases hx : x.isSequenced with
    | false =>
      rw [newest_of_control hx, newest_of_control hx, ih, dispatchesOf_cons_of_control hx,
        List.eraseP_cons_of_neg (by simp [hx])]
      split <;> rfl
    | true =>
      rw [dispatchesOf_cons_of_dispatch hx, List.length_cons]
      rcases Nat.lt_trichotomy ((dispatchesOf ps).length + 1) k with h | h | h
      · rw [newest_of_few (by omega), newest_of_few (by omega), ih, if_pos (by omega), if_pos h]
        rfl
      · rw [newest_of_late hx (by omega), newest_of_few (by omega), ih, if_pos (by omega), if_neg (by omega),
          List.eraseP_cons_of_pos hx]
      · rw [newest_of_late hx (by omega), newest_of_late hx (by omega), ih, if_neg (by omega), if_neg (by omega)]

/-- The newest dispatches are the last ones. -/
theorem dispatchesOf_newest : ∀ ps : List Payload, dispatchesOf (newest k ps) =
    (dispatchesOf ps).drop ((dispatchesOf ps).length - min k (dispatchesOf ps).length)
  | [] => by simp [newest, dispatchesOf]
  | x :: ps => by
    have ih := dispatchesOf_newest ps
    cases hx : x.isSequenced with
    | false => rw [newest_of_control hx, dispatchesOf_cons_of_control hx, dispatchesOf_cons_of_control hx, ih]
    | true =>
      rw [dispatchesOf_cons_of_dispatch hx, List.length_cons]
      by_cases h : k ≤ (dispatchesOf ps).length
      · have hone : (dispatchesOf ps).length + 1 - min k ((dispatchesOf ps).length + 1) =
            (dispatchesOf ps).length - min k (dispatchesOf ps).length + 1 := by omega
        rw [newest_of_late hx h, ih, hone, List.drop_succ_cons]
      · have hall : (dispatchesOf ps).length - min k (dispatchesOf ps).length = 0 := by omega
        have hall' : (dispatchesOf ps).length + 1 - min k ((dispatchesOf ps).length + 1) = 0 := by omega
        rw [newest_of_few (by omega), dispatchesOf_cons_of_dispatch hx, ih, hall, hall', List.drop_zero,
          List.drop_zero]

theorem length_dispatchesOf_newest (ps : List Payload) :
    (dispatchesOf (newest k ps)).length = min k (dispatchesOf ps).length := by
  rw [dispatchesOf_newest, List.length_drop]
  omega

theorem repliesOf_newest : ∀ ps : List Payload, repliesOf (newest k ps) = repliesOf ps
  | [] => rfl
  | x :: ps => by
    have ih := repliesOf_newest ps
    cases hx : x.isSequenced with
    | false => rw [newest_of_control hx, repliesOf_cons_of_control hx, repliesOf_cons_of_control hx, ih]
    | true =>
      rw [repliesOf_cons_of_dispatch hx, ← ih]
      by_cases h : k ≤ (dispatchesOf ps).length
      · rw [newest_of_late hx h]
      · rw [newest_of_few (by omega), repliesOf_cons_of_dispatch hx]

theorem newest_sublist : ∀ ps : List Payload, (newest k ps).Sublist ps
  | [] => .slnil
  | x :: ps => by
    rw [newest]
    split
    · exact .cons x (newest_sublist ps)
    · exact .cons_cons x (newest_sublist ps)

theorem newest_eq_nil (hk : 0 < k) : ∀ {ps : List Payload}, newest k ps = [] → ps = []
  | [], _ => rfl
  | x :: ps, h => by
    rw [newest] at h
    split at h
    · -- Nothing comes after the last dispatch, so that one stays.
      rename_i hlate
      rw [newest_eq_nil hk h] at hlate
      simp [dispatchesOf] at hlate
      omega
    · cases h

end Newest

namespace Queue

open Session (Op)

/-! ## The log of the pushes -/

/-- What is pushed, and how it is answered. -/
def answered (q : Queue) : Op → List (Payload × PushOutcome)
  | .push now p => [(p, (q.push now p).1)]
  | _ => []

def accepted (log : List (Payload × PushOutcome)) : List Payload := (log.filter (·.2.isQueued)).map Prod.fst

/-- Whether a dispatch has overflowed the queue, and so is lost itself. -/
def losesDispatch (log : List (Payload × PushOutcome)) : Bool := log.any fun x => x.1.isSequenced && x.2 == .overflowed

theorem accepted_concat (log : List (Payload × PushOutcome)) (p : Payload) (outcome : PushOutcome) :
    accepted (log ++ [(p, outcome)]) = accepted log ++ if outcome.isQueued then [p] else [] := by
  rw [accepted, List.filter_append, List.map_append]
  cases outcome <;> rfl

theorem losesDispatch_concat (log : List (Payload × PushOutcome)) (p : Payload) (outcome : PushOutcome) :
    losesDispatch (log ++ [(p, outcome)]) = (losesDispatch log || (p.isSequenced && outcome == .overflowed)) := by
  simp [losesDispatch]

/-- **What the pushes since the last batch tell of a queue.** -/
structure Logged (config : QueueConfig) (log : List (Payload × PushOutcome)) (q : Queue) : Prop where
  config_eq : q.config = config
  tidy : q.Tidy
  live : q.shut = false
  items_eq : q.items = newest config.capacity (accepted log)
  missed_eq : q.missed = (dispatchesOf (accepted log)).length -
    min config.capacity (dispatchesOf (accepted log)).length + (losesDispatch log).toNat
  taken : q.closeTaken = true → q.close.isSome = true
  /-- The push that overflows closes the queue, and the writer has not heard of it. -/
  overflown : (∃ x ∈ log, x.2 = .overflowed) → q.close.isSome = true ∧ q.closeTaken = false

section Logged

variable {config : QueueConfig} {log : List (Payload × PushOutcome)} {q : Queue}

/-- No push has overflowed a queue that is still open. -/
theorem Logged.not_overflown (h : Logged config log q) (hopen : q.isClosing = false) :
    q.closeTaken = false ∧ losesDispatch log = false ∧ ∀ x ∈ log, x.2 ≠ .overflowed := by
  have hclose := close_of_isClosing_eq_false hopen
  have hnone : ∀ x ∈ log, x.2 ≠ .overflowed := fun x hx he => by
    have hsome := (h.overflown ⟨x, hx, he⟩).1
    rw [hclose] at hsome
    cases hsome
  refine ⟨Bool.eq_false_iff.2 fun htaken => ?_, List.any_eq_false.2 fun x hx => ?_, hnone⟩
  · have hsome := h.taken htaken
    rw [hclose] at hsome
    cases hsome
  · simp [hnone x hx]

/-- A queue counts its dispatches as the log does. -/
theorem Logged.dispatches_eq (h : Logged config log q) :
    q.dispatches = min config.capacity (dispatchesOf (accepted log)).length := by
  rw [h.tidy.dispatches_eq, h.items_eq, List.countP_eq_length_filter]
  exact length_dispatchesOf_newest _

/-- A push that is refused and closes nothing changes nothing. -/
theorem Logged.closed (h : Logged config log q) (p : Payload) : Logged config (log ++ [(p, .closed)]) q := by
  obtain ⟨hconfig, htidy, hlive, hitems, hmissed, htaken, hover⟩ := h
  have haccepted : accepted (log ++ [(p, .closed)]) = accepted log :=
    (accepted_concat log p .closed).trans (List.append_nil _)
  have hloses : losesDispatch (log ++ [(p, .closed)]) = losesDispatch log := by
    rw [losesDispatch_concat]
    simp
  refine ⟨hconfig, htidy, hlive, ?_, ?_, htaken, ?_⟩
  · rw [haccepted, hitems]
  · rw [haccepted, hloses, hmissed]
  · rintro ⟨x, hx, he⟩
    rcases List.mem_append.1 hx with hx | hx
    · exact hover ⟨x, hx, he⟩
    · rw [List.mem_singleton.1 hx] at he
      cases he

/-- A push that is accepted by an open queue. -/
theorem Logged.accept (h : Logged config log q) (hopen : q.isClosing = false) {p : Payload} {outcome : PushOutcome}
    (hqueued : outcome.isQueued = true) {q' : Queue} (hconfig : q'.config = config) (htidy : q'.Tidy)
    (hlive : q'.shut = false) (htaken : q'.closeTaken = q.closeTaken)
    (hitems : q'.items = newest config.capacity (accepted log ++ [p]))
    (hmissed : q'.missed = (dispatchesOf (accepted log ++ [p])).length -
      min config.capacity (dispatchesOf (accepted log ++ [p])).length) :
    Logged config (log ++ [(p, outcome)]) q' := by
  obtain ⟨hnottaken, hloses, hnone⟩ := h.not_overflown hopen
  have hne : outcome ≠ .overflowed := fun he => by rw [he] at hqueued; cases hqueued
  have haccepted : accepted (log ++ [(p, outcome)]) = accepted log ++ [p] := by
    rw [accepted_concat, if_pos hqueued]
  have hloses' : losesDispatch (log ++ [(p, outcome)]) = false := by
    rw [losesDispatch_concat, hloses]
    simp [hne]
  refine ⟨hconfig, htidy, hlive, ?_, ?_, fun h => ?_, ?_⟩
  · rw [haccepted, hitems]
  · rw [haccepted, hloses', hmissed]
    rfl
  · rw [htaken, hnottaken] at h
    cases h
  · rintro ⟨x, hx, he⟩
    rcases List.mem_append.1 hx with hx | hx
    · exact absurd he (hnone x hx)
    · rw [List.mem_singleton.1 hx] at he
      exact absurd he hne

/-- A push that overflows an open queue. -/
theorem Logged.overflow (h : Logged config log q) (hopen : q.isClosing = false) {p : Payload} (overflows : List Nat) :
    Logged config (log ++ [(p, .overflowed)])
      { q with missed := q.missed + p.isSequenced.toNat, overflows, close := some .backpressureOverflow } := by
  obtain ⟨hnottaken, hloses, -⟩ := h.not_overflown hopen
  have haccepted : accepted (log ++ [(p, .overflowed)]) = accepted log :=
    (accepted_concat log p .overflowed).trans (List.append_nil _)
  have hloses' : losesDispatch (log ++ [(p, .overflowed)]) = p.isSequenced := by
    rw [losesDispatch_concat, hloses]
    simp
  obtain ⟨hconfig, ⟨hd, hc, hdle, hcle, hpos⟩, hlive, hitems, hmissed, -, -⟩ := h
  refine ⟨hconfig, ⟨hd, hc, hdle, hcle, hpos⟩, hlive, ?_, ?_, fun _ => rfl, fun _ => ⟨rfl, hnottaken⟩⟩
  · rw [haccepted, hitems]
  · rw [haccepted, hloses', hmissed, hloses]
    rfl

theorem Logged.push (h : Logged config log q) (now : Nat) (p : Payload) :
    Logged config (log ++ [(p, (q.push now p).1)]) (q.push now p).2 := by
  have htidy := h.tidy.push now p
  have hdispatches := h.dispatches_eq
  have hcapacity := h.tidy.capacity_pos
  have hcount := length_dispatchesOf_concat (accepted log) p
  have hmissed := h.missed_eq
  rw [h.config_eq] at hcapacity
  generalize hr : q.push now p = r at htidy ⊢
  have hpushed : Pushed now p q r := hr ▸ pushed now p q
  cases hpushed with
  | closing => exact h.closed p
  | control hopen hp =>
    rw [(h.not_overflown hopen).2.1] at hmissed
    rw [hp] at hcount
    refine h.accept hopen rfl h.config_eq htidy h.live rfl ?_ ?_
    · rw [newest_concat_of_control hp, ← h.items_eq]
    · rw [hcount]
      exact hmissed
  | controlRefused hopen hp =>
    have hover := h.overflow hopen (p := p) q.overflows
    rw [hp] at hover
    exact hover
  | dispatch hopen hp room =>
    rw [(h.not_overflown hopen).2.1] at hmissed
    rw [h.config_eq] at room
    rw [hp, Bool.toNat_true] at hcount
    refine h.accept hopen rfl h.config_eq htidy h.live rfl ?_ ?_
    · rw [newest_concat_of_dispatch hcapacity hp, if_pos (by omega), ← h.items_eq]
    · show q.missed = _
      rw [hmissed, hcount, Bool.toNat_false]
      omega
  | evicting _ _ hopen hp full =>
    rw [(h.not_overflown hopen).2.1] at hmissed
    rw [h.config_eq] at full
    rw [hp, Bool.toNat_true] at hcount
    refine h.accept hopen rfl h.config_eq htidy h.live rfl ?_ ?_
    · rw [newest_concat_of_dispatch hcapacity hp, if_neg (by omega), ← h.items_eq]
    · show q.missed + 1 = _
      rw [hmissed, hcount, Bool.toNat_false]
      omega
  | dispatchRefused overflows hopen hp =>
    have hover := h.overflow hopen (p := p) overflows
    rw [hp] at hover
    exact hover

theorem Logged.closeWith (h : Logged config log q) (code : CloseCode) : Logged config log (q.closeWith code).2 := by
  rcases Bool.eq_false_or_eq_true q.isClosing with hclosing | hopen
  · rw [closeWith_of_isClosing hclosing]
    exact h
  · obtain ⟨hnottaken, -, hnone⟩ := h.not_overflown hopen
    rw [closeWith_of_isClosing_eq_false hopen]
    obtain ⟨hconfig, ⟨hd, hc, hdle, hcle, hpos⟩, hlive, hitems, hmissed, -, -⟩ := h
    exact ⟨hconfig, ⟨hd, hc, hdle, hcle, hpos⟩, hlive, hitems, hmissed, fun _ => rfl,
      fun ⟨x, hx, he⟩ => absurd he (hnone x hx)⟩

theorem Logged.step (h : Logged config log q) {op : Op} (hop : op ≠ .shutdown) (hdrain : op ≠ .drain) :
    Logged config (log ++ q.answered op) (q.step op) := by
  cases op with
  | push now p => exact h.push now p
  | close code =>
    show Logged config (log ++ []) (q.closeWith code).2
    rw [List.append_nil]
    exact h.closeWith code
  | shutdown => exact absurd rfl hop
  | drain => exact absurd rfl hdrain

/-- A queue that has just been drained. -/
theorem logged_drained (config : QueueConfig) (hcapacity : 0 < config.capacity) {history : List Op}
    (hhistory : .shutdown ∉ history) : Logged config [] ((new config).run history).drain.2 := by
  have hops : .shutdown ∉ history ++ [.drain] := by simpa using hhistory
  have hshut := (recordings_eq_close config hops).1
  have htaken := (told_run config hops).taken
  have htidy := (tidy_new config hcapacity).run (history ++ [.drain])
  have hconfig := config_run (history ++ [.drain]) (new config)
  have hlast : (new config).run (history ++ [.drain]) = ((new config).run history).drain.2 := run_append _ _ _
  rw [hlast] at hshut htaken htidy hconfig
  obtain ⟨hitems, hmissed⟩ := drain_empties ((new config).run history)
  refine ⟨hconfig, htidy, hshut, hitems, hmissed.trans ?_, fun h => (htaken h).1,
    fun ⟨x, hx, _⟩ => absurd hx List.not_mem_nil⟩
  simp [accepted, dispatchesOf, losesDispatch]

theorem logged_run (config : QueueConfig) (hcapacity : 0 < config.capacity) {history interval : List Op}
    (hhistory : .shutdown ∉ history) (hinterval : .shutdown ∉ interval) (hdrain : .drain ∉ interval) :
    let start := ((new config).run history).drain.2
    Logged config (along answered start interval) (start.run interval) :=
  along_invariant interval [] (fun _ hop _ _ h => h.step (fun he => hinterval (he ▸ hop)) (fun he => hdrain (he ▸ hop)))
    (logged_drained config hcapacity hhistory)

/-! ## The batch -/

/-- A queue has nothing to hand over exactly if the log says so. -/
theorem Logged.drain_none_iff (h : Logged config log q) : q.drain.1 = none ↔
    accepted log = [] ∧ (∀ x ∈ log, x.2 ≠ .overflowed) ∧ (q.close.isSome = true → q.closeTaken = true) := by
  constructor
  · intro hnone
    cases hwork : q.hasWork with
    | true =>
      rw [drain_of_live h.live hwork] at hnone
      cases hnone
    | false =>
      simp only [hasWork, Bool.or_eq_false_iff, Bool.not_eq_false', List.isEmpty_iff] at hwork
      have hpending : q.close.isSome = true → q.closeTaken = true := by simpa using hwork.1.2
      refine ⟨newest_eq_nil (h.config_eq ▸ h.tidy.capacity_pos) (h.items_eq.symm.trans hwork.1.1.1), ?_, hpending⟩
      intro x hx he
      obtain ⟨hsome, htaken⟩ := h.overflown ⟨x, hx, he⟩
      rw [hpending hsome] at htaken
      cases htaken
  · rintro ⟨hnil, hnone, hpending⟩
    have hloses : losesDispatch log = false := List.any_eq_false.2 fun x hx => by simp [hnone x hx]
    have hitems := h.items_eq
    have hmissed := h.missed_eq
    rw [hnil] at hitems hmissed
    rw [hloses] at hmissed
    have hwork : q.hasWork = false := by
      have hitems : q.items = [] := hitems
      have hmissed : q.missed = 0 := hmissed.trans (by simp [dispatchesOf])
      rw [hasWork, hitems, hmissed, h.live]
      cases hsome : q.close.isSome with
      | false => rfl
      | true => rw [hpending hsome]; rfl
    rw [drain_of_idle hwork]

/-- A batch says what the log says. -/
theorem Logged.batch (h : Logged config log q) {b : Batch} (hb : q.drain.1 = some b) : b.finished = false ∧
    b.items = newest config.capacity (accepted log) ∧
    b.missed = (dispatchesOf (accepted log)).length - min config.capacity (dispatchesOf (accepted log)).length +
      (losesDispatch log).toNat := by
  cases hwork : q.hasWork with
  | false =>
    rw [drain_of_idle hwork] at hb
    cases hb
  | true =>
    rw [drain_of_live h.live hwork] at hb
    obtain rfl := Option.some.inj hb
    exact ⟨rfl, h.items_eq, h.missed_eq⟩

end Logged

/-! ## Evictions -/

/-- **Only the oldest dispatch is ever evicted.** -/
theorem evicts_oldest {q : Queue} (ht : q.Tidy) {now : Nat} {p : Payload} (h : (q.push now p).1 = .queuedAfterDrop) :
    ∃ before old after, q.items = before ++ old :: after ∧ old.isSequenced = true ∧
      (∀ x ∈ before, x.isSequenced = false) ∧ (q.push now p).2.items = before ++ after ++ [p] := by
  generalize hr : q.push now p = r at h ⊢
  have hpushed : Pushed now p q r := hr ▸ pushed now p q
  cases hpushed with
  | evicting _ _ _ _ full =>
    obtain ⟨before, old, after, hitems, hold, hbefore, herase⟩ := evicted_of_full ht full
    exact ⟨before, old, after, hitems, hold, hbefore, by rw [herase]⟩
  | _ => cases h

/-- **The control replies that are queued stay so.** -/
theorem repliesOf_push (q : Queue) (now : Nat) (p : Payload) : repliesOf (q.push now p).2.items =
    repliesOf q.items ++ if (q.push now p).1.isQueued && !p.isSequenced then [p] else [] := by
  generalize hr : q.push now p = r
  have hpushed : Pushed now p q r := hr ▸ pushed now p q
  cases hpushed with
  | closing | controlRefused | dispatchRefused => exact (List.append_nil _).symm
  | control _ hp | dispatch _ hp =>
    show repliesOf (q.items ++ [p]) = _
    simp [repliesOf, PushOutcome.isQueued, hp]
  | evicting _ _ _ hp =>
    show repliesOf (q.items.eraseP (·.isSequenced) ++ [p]) = _
    rw [repliesOf_append, repliesOf_eraseP]
    simp [repliesOf, PushOutcome.isQueued, hp]

/-- **A batch is what the log since the last one says.**  Take any history, a drain, and then any pushes and closes.
The next drain has nothing exactly if no push was accepted, none overflowed, and the writer knows of the close if there
is one.  What it has is all control replies that were accepted and the newest dispatches, in the order of the pushes;
the others are counted as missed, and so is a dispatch that overflowed.  An eviction takes the oldest dispatch that is
queued, and no push takes a control reply away. -/
theorem drained_batch (config : QueueConfig) (hcapacity : 0 < config.capacity) (history interval : List Op)
    (hhistory : .shutdown ∉ history) (hinterval : .shutdown ∉ interval) (hdrain : .drain ∉ interval) :
    let start := ((new config).run history).drain.2
    let q := start.run interval
    let log := along answered start interval
    let kept := min config.capacity (dispatchesOf (accepted log)).length
    let lost := (dispatchesOf (accepted log)).length - kept
    (q.drain.1 = none ↔
      accepted log = [] ∧ (∀ x ∈ log, x.2 ≠ .overflowed) ∧ (q.close.isSome = true → q.closeTaken = true)) ∧
    (∀ b, q.drain.1 = some b → b.finished = false ∧
      b.items = newest config.capacity (accepted log) ∧
      b.items.Sublist (accepted log) ∧
      repliesOf b.items = repliesOf (accepted log) ∧
      dispatchesOf b.items = (dispatchesOf (accepted log)).drop lost ∧
      b.missed = lost + (losesDispatch log).toNat) ∧
    (∀ now p, (q.push now p).1 = .queuedAfterDrop → ∃ before old after, q.items = before ++ old :: after ∧
      old.isSequenced = true ∧ (∀ x ∈ before, x.isSequenced = false) ∧
      (q.push now p).2.items = before ++ after ++ [p]) ∧
    (∀ now p, repliesOf (q.push now p).2.items =
      repliesOf q.items ++ if (q.push now p).1.isQueued && !p.isSequenced then [p] else []) := by
  intro start q log kept lost
  have hlogged : Logged config log q := logged_run config hcapacity hhistory hinterval hdrain
  refine ⟨hlogged.drain_none_iff, fun b hb => ?_, fun now p => evicts_oldest hlogged.tidy,
    fun now p => q.repliesOf_push now p⟩
  obtain ⟨hfinished, hitems, hmissed⟩ := hlogged.batch hb
  refine ⟨hfinished, hitems, hitems ▸ newest_sublist _, ?_, ?_, hmissed⟩
  · rw [hitems, repliesOf_newest]
  · rw [hitems, dispatchesOf_newest]

/-- Room for two dispatches and three overflows in a second.  The first drain leaves nothing; of what is pushed then,
the first dispatch gives way to the third one, from behind the control reply that came before it. -/
theorem drained_batch_evicted :
    let config : QueueConfig := ⟨2, 1, .dropOldest 3 1000⟩
    let history := [Op.push 0 (.messageDeleted 1 1)]
    let interval := [Op.push 10 (.heartbeatAck 0), .push 11 (.messageDeleted 1 2), .push 12 (.messageDeleted 1 3),
      .push 13 (.messageDeleted 1 4)]
    let q := ((new config).run history).drain.2.run interval
    0 < config.capacity ∧ .shutdown ∉ history ∧ .shutdown ∉ interval ∧ .drain ∉ interval ∧
      ∃ b, q.drain.1 = some b ∧ b.missed = 1 ∧
        b.items = [.heartbeatAck 0, .messageDeleted 1 3, .messageDeleted 1 4] := by
  intro config history interval q
  have hhistory : .shutdown ∉ history := by simp [history]
  have hinterval : .shutdown ∉ interval := by simp [interval]
  have hdrain : .drain ∉ interval := by simp [interval]
  obtain ⟨hnone, hsome, -, -⟩ := drained_batch config (by decide) history interval hhistory hinterval hdrain
  refine ⟨by decide, hhistory, hinterval, hdrain, ?_⟩
  cases hb : q.drain.1 with
  | none => exact absurd (hnone.1 hb).1 (by decide)
  | some b =>
    obtain ⟨-, hitems, -, -, -, hmissed⟩ := hsome b hb
    exact ⟨b, rfl, hmissed.trans (by decide), hitems.trans (by decide)⟩

end Queue
end EventGateway
