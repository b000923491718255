import EventGateway.Proofs.Numbering
/-!
# Closing — the first code stands, and is handed over once

A queue records a code when it is asked to close, or when a push overflows it.  The first one stays
(`recordings_eq_close`); it goes out with everything that is queued by then, and nothing goes out after it
(`first_code_told_once`).  A queue that is shut down tells no code, and is left out.
-/
namespace EventGateway

/-- Whether an operation pushes a dispatch. -/
def Session.Op.isDispatch : Session.Op → Bool
  | .push _ p => p.isSequenced
  | _ => false

namespace Queue

open Session (Op)

/-! ## Runs -/

/-- What an operation on a session does to its queue. -/
def step (q : Queue) : Op → Queue
  | .push now p => (q.push now p).2
  | .close code => (q.closeWith code).2
  | .shutdown => q.shutdown
  | .drain => q.drain.2

def run (q : Queue) (ops : List Op) : Queue := ops.foldl step q

theorem run_append (q : Queue) (xs ys : List Op) : q.run (xs ++ ys) = (q.run xs).run ys := List.foldl_append

section Along

variable {α : Type} {f : Queue → Op → List α}

/-- What is seen along a run, one operation after the other. -/
def along (f : Queue → Op → List α) (q : Queue) : List Op → List α
  | [] => []
  | op :: ops => f q op ++ along f (q.step op) ops

/-- **What every operation keeps of the queue and of what is seen so far, a run keeps.** -/
theorem along_invariant {P : List α → Queue → Prop} : ∀ (ops : List Op) (xs : List α) {q : Queue},
    (∀ op ∈ ops, ∀ xs q, P xs q → P (xs ++ f q op) (q.step op)) → P xs q → P (xs ++ along f q ops) (q.run ops)
  | [], xs, _, _, h => (List.append_nil xs).symm ▸ h
  | op :: ops, xs, q, hstep, h => by
    have hrest := along_invariant ops (xs ++ f q op) (fun op' hop => hstep op' (List.mem_cons_of_mem _ hop))
      (hstep op List.mem_cons_self xs q h)
    rw [List.append_assoc] at hrest
    exact hrest

end Along

/-! ## What is recorded, and what is told -/

/-- The code that an operation records, going by its answer. -/
def recorded (q : Queue) : Op → List CloseCode
  | .push now p => if (q.push now p).1 = .overflowed then [.backpressureOverflow] else []
  | .close code => if (q.closeWith code).1 then [code] else []
  | .shutdown | .drain => []

/-- The code that an operation hands to the writer. -/
def told (q : Queue) : Op → List CloseCode
  | .drain => (q.drain.1.bind (·.close)).toList
  | _ => []

/-! ## One operation -/

section Steps

variable {q : Queue} {op : Op}

/-- A push changes neither the bounds nor what is known of the writer. -/
theorem push_same (now : Nat) (p : Wire.Payload) (q : Queue) : (q.push now p).2.config = q.config ∧
    (q.push now p).2.closeTaken = q.closeTaken ∧ (q.push now p).2.shut = q.shut := by
  generalize hr : q.push now p = r
  have hpushed : Pushed now p q r := hr ▸ pushed now p q
  cases hpushed <;> exact ⟨rfl, rfl, rfl⟩

theorem closeWith_same (code : CloseCode) (q : Queue) : (q.closeWith code).2.config = q.config ∧
    (q.closeWith code).2.closeTaken = q.closeTaken ∧ (q.closeWith code).2.shut = q.shut ∧
    (q.closeWith code).2.overflows = q.overflows := by
  unfold closeWith
  split <;> exact ⟨rfl, rfl, rfl, rfl⟩

theorem shut_step (hop : op ≠ .shutdown) : (q.step op).shut = q.shut := by
  cases op with
  | push now p => exact (q.push_same now p).2.2
  | close code => exact (q.closeWith_same code).2.2.1
  | shutdown => exact absurd rfl hop
  | drain => exact q.drain_shut

theorem closeTaken_step (hop : op ≠ .drain) : (q.step op).closeTaken = q.closeTaken := by
  cases op with
  | push now p => exact (q.push_same now p).2.1
  | close code => exact (q.closeWith_same code).2.1
  | shutdown => rfl
  | drain => exact absurd rfl hop

theorem config_step (q : Queue) (op : Op) : (q.step op).config = q.config := by
  cases op with
  | push now p => exact (q.push_same now p).1
  | close code => exact (q.closeWith_same code).1
  | shutdown => rfl
  | drain => exact q.drain_config

theorem Tidy.step (h : q.Tidy) (op : Op) : (q.step op).Tidy := by
  cases op with
  | push now p => exact h.push now p
  | close code => exact h.closeWith code
  | shutdown => exact h.shutdown
  | drain => exact h.drain

theorem Tidy.run : ∀ (ops : List Op) {q : Queue}, q.Tidy → (q.run ops).Tidy
  | [], _, h => h
  | op :: ops, _, h => Tidy.run ops (h.step op)

theorem config_run : ∀ (ops : List Op) (q : Queue), (q.run ops).config = q.config
  | [], _ => rfl
  | op :: ops, q => (config_run ops (q.step op)).trans (q.config_step op)

/-- A queue that is closing is changed by nothing but the writer. -/
theorem step_of_isClosing (h : q.isClosing = true) (hop : op ≠ .shutdown) (hdrain : op ≠ .drain) : q.step op = q := by
  cases op with
  | push now p => rw [step, push_of_isClosing h]
  | close code => rw [step, closeWith_of_isClosing h]
  | shutdown => exact absurd rfl hop
  | drain => exact absurd rfl hdrain

/-- Nothing opens a queue that is closing. -/
theorem isClosing_step (hclosing : q.isClosing = true) (op : Op) : (q.step op).isClosing = true := by
  cases op with
  | push now p => rw [step, push_of_isClosing hclosing, hclosing]
  | close code => rw [step, closeWith_of_isClosing hclosing, hclosing]
  | shutdown => simp [step, shutdown, isClosing]
  | drain => rw [step, drain_isClosing, hclosing]

theorem run_of_isClosing (h : q.isClosing = true) : ∀ {ops : List Op}, .shutdown ∉ ops → .drain ∉ ops → q.run ops = q
  | [], _, _ => rfl
  | op :: ops, hops, hdrains => by
    rw [List.mem_cons, not_or] at hops hdrains
    rw [run, List.foldl_cons, step_of_isClosing h (Ne.symm hops.1) (Ne.symm hdrains.1)]
    exact run_of_isClosing h hops.2 hdrains.2

/-- **What an operation records, and what it does then**: all that is queued stays so, and nothing is lost but the
dispatch that overflows. -/
theorem step_records (q : Queue) (op : Op) :
    (q.recorded op = [] ∧ (q.step op).close = q.close) ∨
    ∃ code overflows, q.isClosing = false ∧ q.recorded op = [code] ∧
      q.step op = { q with missed := q.missed + op.isDispatch.toNat, overflows, close := some code } := by
  cases op with
  | push now p =>
    suffices h : ∀ r, Pushed now p q r →
        ((if r.1 = .overflowed then [CloseCode.backpressureOverflow] else []) = [] ∧ r.2.close = q.close) ∨
        ∃ code overflows, q.isClosing = false ∧
          (if r.1 = .overflowed then [CloseCode.backpressureOverflow] else []) = [code] ∧
          r.2 = { q with missed := q.missed + p.isSequenced.toNat, overflows, close := some code } from
      h _ (pushed now p q)
    intro r hpushed
    cases hpushed with
    | closing | control | dispatch | evicting => exact .inl ⟨rfl, rfl⟩
    | controlRefused hopen hp => exact .inr ⟨.backpressureOverflow, q.overflows, hopen, rfl, by rw [hp]; rfl⟩
    | dispatchRefused overflows hopen hp =>
      exact .inr ⟨.backpressureOverflow, overflows, hopen, rfl, by rw [hp]; rfl⟩
  | close code =>
    rw [recorded, step]
    rcases Bool.eq_false_or_eq_true q.isClosing with hclosing | hopen
    · rw [closeWith_of_isClosing hclosing]
      exact .inl ⟨rfl, rfl⟩
    · rw [closeWith_of_isClosing_eq_false hopen]
      exact .inr ⟨code, q.overflows, hopen, rfl, rfl⟩
  | shutdown => exact .inl ⟨rfl, rfl⟩
  | drain => exact .inl ⟨rfl, q.drain_close⟩

end Steps

/-- **A queue holds the code that was recorded**, and none is recorded after it. -/
theorem recordings_eq_close (config : QueueConfig) {ops : List Op} (hops : .shutdown ∉ ops) :
    ((new config).run ops).shut = false ∧ along recorded (new config) ops = ((new config).run ops).close.toList := by
  refine along_invariant (P := fun codes q => q.shut = false ∧ codes = q.close.toList) ops [] ?_ ⟨rfl, rfl⟩
  rintro op hop codes q ⟨hshut, rfl⟩
  refine ⟨(shut_step fun h => hops (h ▸ hop)).trans hshut, ?_⟩
  rcases q.step_records op with ⟨hnone, hclose⟩ | ⟨code, overflows, hopen, hcode, hstep⟩
  · rw [hnone, hclose, List.append_nil]
  · rw [hcode, hstep, close_of_isClosing_eq_false hopen]
    rfl

/-! ## Handing over -/

/-- **What tells of a code that was handed over**: it is the one recorded, and nothing is left to send. -/
structure Told (codes : List CloseCode) (q : Queue) : Prop where
  codes_eq : codes = if q.closeTaken then q.close.toList else []
  taken : q.closeTaken = true → q.close.isSome = true ∧ q.items = [] ∧ q.missed = 0

theorem told_new (config : QueueConfig) : Told [] (new config) := ⟨rfl, fun h => by cases h⟩

theorem drain_of_live {q : Queue} (hshut : q.shut = false) (hwork : q.hasWork = true) : q.drain =
    (some ⟨q.missed, q.items, if q.closeTaken then none else q.close, false⟩,
      { q with
        items := [], dispatches := 0, controls := 0, missed := 0, closeTaken := q.closeTaken || q.close.isSome }) := by
  unfold drain
  rw [hwork, hshut]
  rfl

/-- A queue without work is drained of nothing. -/
theorem drain_of_idle {q : Queue} (hwork : q.hasWork = false) : q.drain = (none, q) := by
  unfold drain
  rw [hwork]
  rfl

theorem Told.drain {codes : List CloseCode} {q : Queue} (h : Told codes q) (hshut : q.shut = false) :
    Told (codes ++ q.told .drain) q.drain.2 := by
  obtain ⟨rfl, htaken⟩ := h
  cases hwork : q.hasWork with
  | false =>
    have hdrain := drain_of_idle hwork
    rw [told, hdrain]
    exact ⟨List.append_nil _, htaken⟩
  | true =>
    have hdrain := drain_of_live hshut hwork
    rw [told, hdrain]
    refine ⟨?_, fun h => ⟨?_, rfl, rfl⟩⟩
    · show (if q.closeTaken then q.close.toList else []) ++ (if q.closeTaken then none else q.close).toList =
        if q.closeTaken || q.close.isSome then q.close.toList else []
      cases q.closeTaken <;> cases q.close <;> rfl
    · have h : (q.closeTaken || q.close.isSome) = true := h
      rcases Bool.or_eq_true_iff.1 h with h | h
      · exact (htaken h).1
      · exact h

theorem Told.step {codes : List CloseCode} {q : Queue} (h : Told codes q) (hshut : q.shut = false) {op : Op}
    (hop : op ≠ .shutdown) : Told (codes ++ q.told op) (q.step op) := by
  by_cases hdrain : op = .drain
  · subst hdrain
    exact h.drain hshut
  have htold : q.told op = [] := by
    cases op with
    | drain => exact absurd rfl hdrain
    | _ => rfl
  rw [htold, List.append_nil]
  cases htaken : q.closeTaken with
  | true =>
    have hclosing : q.isClosing = true := by
      rw [isClosing, (h.taken htaken).1]
      rfl
    rw [step_of_isClosing hclosing hop hdrain]
    exact h
  | false =>
    obtain ⟨rfl, -⟩ := h
    refine ⟨?_, fun h => ?_⟩
    · rw [closeTaken_step hdrain, htaken]
      rfl
    · rw [closeTaken_step hdrain, htaken] at h
      cases h

/-- **What a run without shutdown tells of codes.** -/
theorem told_run (config : QueueConfig) {ops : List Op} (hops : .shutdown ∉ ops) :
    Told (along told (new config) ops) ((new config).run ops) := by
  refine (along_invariant (P := fun codes q => q.shut = false ∧ Told codes q) ops [] ?_
    ⟨rfl, told_new config⟩).2
  rintro op hop codes q ⟨hshut, h⟩
  have hlive : op ≠ .shutdown := fun h => hops (h ▸ hop)
  exact ⟨(shut_step hlive).trans hshut, h.step hshut hlive⟩

/-- No code is told twice. -/
theorem Told.once {codes : List CloseCode} {q : Queue} (h : Told codes q) :
    codes = [] ∨ ∃ code, codes = [code] ∧ q.close = some code := by
  cases htaken : q.closeTaken with
  | false => exact .inl (by rw [h.codes_eq, htaken]; rfl)
  | true =>
    obtain ⟨code, hclose⟩ := Option.isSome_iff_exists.1 (h.taken htaken).1
    refine .inr ⟨code, ?_, hclose⟩
    rw [h.codes_eq, htaken, hclose]
    rfl

/-- After a code has been told there is nothing more to say. -/
theorem Told.last {codes : List CloseCode} {q : Queue} (h : Told codes q) (hshut : q.shut = false)
    (hcodes : codes ≠ []) : q.drain = (none, q) := by
  have htaken : q.closeTaken = true := by
    cases htaken : q.closeTaken with
    | true => rfl
    | false => exact absurd (by rw [h.codes_eq, htaken]; rfl) hcodes
  obtain ⟨hclose, hitems, hmissed⟩ := h.taken htaken
  refine drain_of_idle ?_
  rw [hasWork, hitems, hmissed, hclose, htaken, hshut]
  rfl

/-- **The batch after a code is recorded** has it, and all that was queued and lost by then. -/
theorem told_next (config : QueueConfig) {before between : List Op} {op : Op} {code : CloseCode}
    (hops : .shutdown ∉ before ++ op :: between) (hcode : ((new config).run before).recorded op = [code])
    (hdrain : .drain ∉ between) : along recorded (new config) before = [] ∧
      ((new config).run (before ++ op :: between)).drain.1 =
        some ⟨((new config).run before).missed + op.isDispatch.toNat, ((new config).run before).items, some code,
          false⟩ := by
  rw [List.mem_append, List.mem_cons, not_or, not_or] at hops
  obtain ⟨hbefore, -, hbetween⟩ := hops
  obtain ⟨hshut, hrecordings⟩ := recordings_eq_close config hbefore
  have htold := told_run config hbefore
  rw [run_append, run, List.foldl_cons, ← run]
  generalize (new config).run before = q at hshut hrecordings htold hcode ⊢
  rcases q.step_records op with ⟨hnone, -⟩ | ⟨code', overflows, hopen, hcode', hstep⟩
  · rw [hnone] at hcode
    cases hcode
  · obtain rfl : code' = code := by
      rw [hcode'] at hcode
      exact List.head_eq_of_cons_eq hcode
    have hclose := close_of_isClosing_eq_false hopen
    have htaken : q.closeTaken = false := by
      cases htaken : q.closeTaken with
      | false => rfl
      | true =>
        have hsome := (htold.taken htaken).1
        rw [hclose] at hsome
        cases hsome
    refine ⟨by rw [hrecordings, hclose]; rfl, ?_⟩
    generalize q.step op = q' at hstep ⊢
    have hclose' : q'.close = some code' := by rw [hstep]
    have htaken' : q'.closeTaken = false := by rw [hstep]; exact htaken
    have hshut' : q'.shut = false := by rw [hstep]; exact hshut
    have hwork : q'.hasWork = true := by simp [hasWork, hclose', htaken']
    rw [run_of_isClosing (isClosing_of_close hclose') hbetween hdrain, drain_of_live hshut' hwork, hstep, htaken]
    rfl

/-- **The first close wins, and is delivered once and last.**  A queue that is never shut down takes a code if and only
if none was recorded before, by a close or by an overflow.  From then on every push is refused and changes nothing; the
next batch has all that was queued and lost by then, and the code; no other batch of the run has one, and there is no
batch after it. -/
theorem first_code_told_once (config : QueueConfig) (ops : List Op) (hops : .shutdown ∉ ops) :
    let q := (new config).run ops
    let recordings := along recorded (new config) ops
    let tellings := along told (new config) ops
    (∀ code, (q.closeWith code).1 = true ↔ recordings = []) ∧
    (tellings = [] ∨ ∃ code, tellings = [code] ∧ recordings.head? = some code) ∧
    (∀ before op between code, ops = before ++ op :: between → ((new config).run before).recorded op = [code] →
      .drain ∉ between → along recorded (new config) before = [] ∧
        q.drain.1 = some ⟨((new config).run before).missed + op.isDispatch.toNat, ((new config).run before).items,
          some code, false⟩) ∧
    (recordings ≠ [] → ∀ now p, q.push now p = (.closed, q)) ∧
    (tellings ≠ [] → q.drain = (none, q)) := by
  intro q recordings tellings
  obtain ⟨hshut, hrecordings⟩ := recordings_eq_close config hops
  have hshut : q.shut = false := hshut
  have hrecordings : recordings = q.close.toList := hrecordings
  have htold : Told tellings q := told_run config hops
  rw [hrecordings]
  refine ⟨fun code => ?_, ?_, ?_, fun hne now p => ?_, htold.last hshut⟩
  · cases hclose : q.close with
    | none =>
      have hopen : q.isClosing = false := by rw [isClosing, hclose, hshut]; rfl
      simp [closeWith_of_isClosing_eq_false hopen]
    | some code' => simp [closeWith_of_isClosing (isClosing_of_close hclose)]
  · rcases htold.once with hnone | ⟨code, hcode, hclose⟩
    · exact .inl hnone
    · exact .inr ⟨code, hcode, by rw [hclose]; rfl⟩
  · rintro before op between code rfl hcode hdrain
    exact told_next config hops hcode hdrain
  · cases hclose : q.close with
    | none => exact absurd (by rw [hclose]; rfl) hne
    | some code => exact push_of_isClosing (isClosing_of_close hclose) now p

/-- Room for one dispatch: the second one closes the session, so the close that follows is refused; the first one goes
out with the code of the overflow and a count of one lost, and nothing goes out after it. -/
theorem first_code_told_once_overflowed :
    let ops := [Op.push 0 (.messageDeleted 1 1), .push 0 (.messageDeleted 1 2), .close .timeout,
      .push 0 (.heartbeatAck 0)]
    let q := (new ⟨1, 1, .dropOldest 1 1000⟩).run ops
    .shutdown ∉ ops ∧ .shutdown ∉ ops ++ [.drain] ∧ (q.closeWith .timeout).1 = false ∧
      q.drain.1 = some ⟨1, [.messageDeleted 1 1], some .backpressureOverflow, false⟩ ∧
      q.drain.2.drain = (none, q.drain.2) := by
  intro ops q
  have hops : .shutdown ∉ ops := by simp [ops]
  have hdrained : .shutdown ∉ ops ++ [.drain] := by simp [ops]
  obtain ⟨hclose, -, hnext, -, -⟩ := first_code_told_once ⟨1, 1, .dropOldest 1 1000⟩ ops hops
  obtain ⟨-, -, -, -, hlast⟩ := first_code_told_once ⟨1, 1, .dropOldest 1 1000⟩ (ops ++ [.drain]) hdrained
  refine ⟨hops, hdrained, ?_, ?_, hlast (by decide)⟩
  · exact Bool.eq_false_iff.2 fun h => absurd ((hclose .timeout).1 h) (by decide)
  · exact (hnext [.push 0 (.messageDeleted 1 1)] (.push 0 (.messageDeleted 1 2))
      [.close .timeout, .push 0 (.heartbeatAck 0)] .backpressureOverflow rfl rfl (by simp)).2

end Queue
end EventGateway
