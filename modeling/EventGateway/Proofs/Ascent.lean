import EventGateway.Proofs.Issuing
/-!
# Ascent — the ids of a generator go up, whatever the clock does

Each id is one step further than the one before, or further if the clock has moved on; so the generator runs ahead of
the clock by no more steps than it has issued ids (`steps_moments_le`).  As long as its time fits into a positive id,
an id can be taken apart into time, worker and sequence number again (`age_current`, `worker_current`), and the order
of the moments is the order of the ids.
-/
namespace EventGateway

namespace Snowflake

/-- Forty-one bits of milliseconds, as many as a positive id has room for. -/
def ages : Nat := 2199023255552

end Snowflake

namespace Generator

/-! ## Taking an id apart -/

/-- A positive id has room for the generator's moment. -/
structure Fitting (g : Generator) : Prop where
  time : g.time < Snowflake.ages
  worker : g.worker.toNat < Snowflake.workers
  sequence : g.sequence < Snowflake.sequences

namespace Fitting

variable {g g' : Generator}

theorem bits_current (h : g.Fitting) : g.current.bits.toInt =
    ((g.time * Snowflake.workers + g.worker.toNat) * Snowflake.sequences + g.sequence : Nat) := by
  refine Int64.toInt_ofNat_of_lt ?_
  obtain ⟨htime, hworker, hsequence⟩ := h
  simp only [Snowflake.ages, Snowflake.workers, Snowflake.sequences] at *
  omega

theorem age_current (h : g.Fitting) : g.current.age = g.time := by
  rw [Snowflake.age, h.bits_current]
  obtain ⟨-, hworker, hsequence⟩ := h
  simp only [Snowflake.workers, Snowflake.sequences] at *
  omega

theorem worker_current (h : g.Fitting) : g.current.worker = g.worker.toNat := by
  rw [Snowflake.worker, h.bits_current]
  obtain ⟨-, hworker, hsequence⟩ := h
  simp only [Snowflake.workers, Snowflake.sequences] at *
  omega

/-- Only the very first moment, which is never issued, could have an id that is zero. -/
theorem isPositive_current (h : g.Fitting) {g₀ : Generator} (hbefore : g₀.Before g) :
    g.current.isPositive = true := by
  refine decide_eq_true (Int64.lt_iff_toInt_lt.2 ?_)
  rw [h.bits_current, Int64.toInt_zero]
  unfold Before at hbefore
  simp only [Snowflake.workers, Snowflake.sequences]
  omega

/-- **A later moment has a greater id.** -/
theorem current_lt (h : g.Fitting) (h' : g'.Fitting) (hworker : g.worker = g'.worker) (hbefore : g.Before g') :
    g.current.bits < g'.current.bits := by
  refine Int64.lt_iff_toInt_lt.2 ?_
  rw [h.bits_current, h'.bits_current, hworker]
  have hsequence := h.sequence
  unfold Before at hbefore
  simp only [Snowflake.workers, Snowflake.sequences] at *
  omega

end Fitting

/-! ## The moments of a run -/

/-- The moments for which ids are issued. -/
def moments : List Int → Generator → List Generator
  | [], _ => []
  | now :: rest, g => g.advance now :: moments rest (g.advance now)

theorem issue_eq_moments : ∀ (clock : List Int) (g : Generator), (issue clock g).1 = (moments clock g).map current
  | [], _ => rfl
  | now :: rest, g => congrArg ((g.advance now).current :: ·) (issue_eq_moments rest (g.advance now))

theorem length_moments : ∀ (clock : List Int) (g : Generator), (moments clock g).length = clock.length
  | [], _ => rfl
  | now :: rest, g => congrArg (· + 1) (length_moments rest (g.advance now))

theorem of_mem_moments : ∀ {clock : List Int} {g g' : Generator}, g' ∈ moments clock g →
    g.Before g' ∧ g'.worker = g.worker ∧ g'.sequence < Snowflake.sequences
  | [], _, _, h => nomatch h
  | now :: rest, g, g', h => by
    rcases List.mem_cons.1 h with rfl | h
    · exact ⟨advance_before now g, worker_advance now g, sequence_advance_lt now g⟩
    · obtain ⟨hbefore, hworker, hsequence⟩ := of_mem_moments h
      exact ⟨(advance_before now g).trans hbefore, hworker.trans (worker_advance now g), hsequence⟩

/-- **The moments of a run follow each other.** -/
theorem pairwise_moments : ∀ (clock : List Int) (g : Generator), (moments clock g).Pairwise Before
  | [], _ => .nil
  | now :: rest, g => .cons (fun _ h => (of_mem_moments h).1) (pairwise_moments rest (g.advance now))

/-! ## How far ahead of the clock -/

/-- The highest reading of the clock, from some reading on. -/
def peakFrom (low : Int) (clock : List Int) : Int := clock.foldl max low

/-- The highest reading of the clock, and no reading before the epoch. -/
def peak (clock : List Int) : Int := peakFrom 0 clock

theorem peakFrom_take_succ (low now : Int) (rest : List Int) (k : Nat) :
    peakFrom low ((now :: rest).take (k + 1)) = peakFrom (max low now) (rest.take k) := rfl

theorem le_peakFrom : ∀ (low : Int) (clock : List Int), low ≤ peakFrom low clock
  | _, [] => Int.le_refl _
  | low, now :: rest => Int.le_trans (Int.le_max_left low now) (le_peakFrom (max low now) rest)

theorem peak_take_le (clock : List Int) (k : Nat) : peak (clock.take k) ≤ peak clock := by
  have happend : peak clock = peakFrom (peak (clock.take k)) (clock.drop k) := by
    rw [peak, peakFrom, ← List.take_append_drop k clock, List.foldl_append, List.take_append_drop]
    rfl
  rw [happend]
  exact le_peakFrom _ _

/-- The generator's moment, counted in sequence numbers. -/
def steps (g : Generator) : Nat := g.time * Snowflake.sequences + g.sequence

/-- The time is at least that of the clock. -/
theorem le_time_advance (now : Int) (g : Generator) : now ≤ (g.advance now).time := by
  unfold advance
  split
  · dsimp only; omega
  · split <;> dsimp only <;> omega

/-- **An id takes one step**, also into the next millisecond, unless the clock has moved on. -/
theorem steps_advance {g : Generator} (hsequence : g.sequence < Snowflake.sequences) (now : Int) :
    (g.advance now).steps = if (g.time : Int) < now then now.toNat * Snowflake.sequences else g.steps + 1 := by
  unfold advance steps
  by_cases hnow : (g.time : Int) < now
  · simp only [if_pos hnow, Nat.add_zero]
  · by_cases hroom : g.sequence + 1 < Snowflake.sequences
    · simp only [if_neg hnow, if_pos hroom, Nat.add_assoc]
    · have hlast : g.sequence + 1 = Snowflake.sequences := by omega
      simp only [if_neg hnow, if_neg hroom, Nat.add_zero]
      rw [Nat.add_assoc, hlast, Nat.add_mul, Nat.one_mul]

theorem steps_advance_le {g : Generator} {high : Int} {n : Nat} (hsequence : g.sequence < Snowflake.sequences)
    (h : (g.steps : Int) ≤ high * Snowflake.sequences + n) (now : Int) :
    ((g.advance now).steps : Int) ≤ max high now * Snowflake.sequences + (n + 1 : Nat) := by
  have hleft : high ≤ max high now := Int.le_max_left high now
  have hright : now ≤ max high now := Int.le_max_right high now
  generalize max high now = top at *
  rw [steps_advance hsequence]
  simp only [Snowflake.sequences] at *
  split <;> omega

/-- **Some ids take no more steps than there are ids**, from the highest reading of the clock so far. -/
theorem steps_moments_le (clock : List Int) {g g' : Generator} {high : Int} {n k : Nat}
    (hsequence : g.sequence < Snowflake.sequences) (hsteps : (g.steps : Int) ≤ high * Snowflake.sequences + n)
    (hk : (moments clock g)[k]? = some g') :
    (g'.steps : Int) ≤ peakFrom high (clock.take (k + 1)) * Snowflake.sequences + (n + (k + 1) : Nat) := by
  induction clock generalizing g high n k with
  | nil => cases hk
  | cons now rest ih =>
    have hnext := steps_advance_le hsequence hsteps now
    rw [peakFrom_take_succ]
    cases k with
    | zero =>
      obtain rfl : g.advance now = g' := Option.some.inj hk
      exact hnext
    | succ k =>
      rw [show n + (k + 1 + 1) = n + 1 + (k + 1) by omega]
      exact ih (sequence_advance_lt now g) hnext hk

theorem le_time_moments : ∀ (clock : List Int) {g g' : Generator} {now : Int} {k : Nat}, clock[k]? = some now →
    (moments clock g)[k]? = some g' → now ≤ g'.time
  | [], _, _, _, _, hnow, _ => by cases hnow
  | _ :: _, g, _, now, 0, hnow, hk => by
    obtain rfl := Option.some.inj hnow
    obtain rfl := Option.some.inj hk
    exact le_time_advance _ g
  | _ :: rest, _, _, _, _ + 1, hnow, hk => le_time_moments rest hnow hk

/-! ## All ids of a run -/

/-- The time of the `k`-th id is at most `k / 4096` ms ahead of the clock. -/
theorem time_moments_le {clock : List Int} {worker : UInt16} {g : Generator} {k : Nat}
    (hk : (moments clock ⟨worker, 0, 0⟩)[k]? = some g) :
    (g.time : Int) ≤ peak (clock.take (k + 1)) + ((k + 1) / Snowflake.sequences : Nat) := by
  have hstart : ((⟨worker, 0, 0⟩ : Generator).steps : Int) ≤ 0 * Snowflake.sequences + (0 : Nat) := by
    simp [steps]
  have hsteps := steps_moments_le clock (Nat.zero_lt_succ _) hstart hk
  rw [Nat.zero_add] at hsteps
  have hpeak : peakFrom 0 (clock.take (k + 1)) = peak (clock.take (k + 1)) := rfl
  rw [hpeak] at hsteps
  unfold steps at hsteps
  simp only [Snowflake.sequences] at *
  omega

/-- **The ids of a generator go up, whatever the clock does.**  The clock may stand still, go back, or be set before the
epoch: as long as there is room in an id for its highest reading and the steps ahead of it, the ids are positive and
each is greater than the ones before; each names its worker; and the time in an id is that of the clock, or ahead of the
highest reading so far by a millisecond for each 4096 ids. -/
theorem issued_in_order (worker : UInt16) (hworker : worker.toNat ≤ Snowflake.maxWorker) (clock : List Int)
    (hfits : peak clock + (clock.length / Snowflake.sequences : Nat) < Snowflake.ages) :
    ∃ g, new worker = .ok g ∧
      let ids := (issue clock g).1
      ids.length = clock.length ∧ ids.Pairwise (·.bits < ·.bits) ∧ ids.Nodup ∧
        (∀ id ∈ ids, id.isPositive = true ∧ id.isZero = false ∧ id.worker = worker.toNat) ∧
        ∀ k now id, clock[k]? = some now → ids[k]? = some id → now ≤ id.timestamp - Snowflake.epoch ∧
          id.timestamp - Snowflake.epoch ≤ peak (clock.take (k + 1)) + ((k + 1) / Snowflake.sequences : Nat) := by
  refine ⟨⟨worker, 0, 0⟩, if_pos hworker, ?_⟩
  have hfitting : ∀ g ∈ moments clock ⟨worker, 0, 0⟩, g.Fitting := by
    intro g hg
    obtain ⟨-, hsame, hsequence⟩ := of_mem_moments hg
    obtain ⟨k, hk, hget⟩ := List.mem_iff_getElem.1 hg
    rw [length_moments] at hk
    have htime := time_moments_le ((List.getElem?_eq_getElem _).trans (congrArg some hget))
    have hpeak := peak_take_le clock (k + 1)
    have hcount : (k + 1) / Snowflake.sequences ≤ clock.length / Snowflake.sequences := Nat.div_le_div_right hk
    refine ⟨by omega, ?_, hsequence⟩
    rw [hsame]
    exact Nat.lt_of_le_of_lt hworker (by decide)
  have hascending : ((issue clock ⟨worker, 0, 0⟩).1).Pairwise (·.bits < ·.bits) := by
    rw [issue_eq_moments, List.pairwise_map]
    refine (pairwise_moments clock _).imp_of_mem fun hg hg' hbefore => ?_
    have hsame := (of_mem_moments hg).2.1.trans (of_mem_moments hg').2.1.symm
    exact (hfitting _ hg).current_lt (hfitting _ hg') hsame hbefore
  refine ⟨by rw [issue_eq_moments, List.length_map, length_moments], hascending, ?_, fun id hid => ?_, ?_⟩
  · refine hascending.imp fun hlt he => ?_
    rw [he] at hlt
    exact Int64.lt_irrefl hlt
  · rw [issue_eq_moments] at hid
    obtain ⟨g, hg, rfl⟩ := List.mem_map.1 hid
    obtain ⟨hbefore, hsame, -⟩ := of_mem_moments hg
    have hpositive := (hfitting g hg).isPositive_current hbefore
    refine ⟨hpositive, ?_, by rw [(hfitting g hg).worker_current, hsame]⟩
    refine beq_eq_false_iff_ne.2 fun hzero => ?_
    rw [Snowflake.isPositive, hzero] at hpositive
    cases hpositive
  · intro k now id hnow hid
    rw [issue_eq_moments, List.getElem?_map] at hid
    obtain ⟨g, hg, rfl⟩ := Option.map_eq_some_iff.1 hid
    rw [Snowflake.timestamp, (hfitting g (List.mem_of_getElem? hg)).age_current, Int.add_sub_cancel]
    exact ⟨le_time_moments clock hnow hg, time_moments_le hg⟩

/-- A clock that stands still, goes back before the epoch, and catches up. -/
theorem issued_in_order_backwards :
    (1023 : UInt16).toNat ≤ Snowflake.maxWorker ∧
      peak [5, 5, -40, 5, 6] + (([5, 5, -40, 5, 6] : List Int).length / Snowflake.sequences : Nat) < Snowflake.ages ∧
      ∃ g, new 1023 = .ok g ∧ (issue [5, 5, -40, 5, 6] g).1.Nodup ∧
        (issue [5, 5, -40, 5, 6] g).1.map (fun id => (id.age, id.worker, id.sequence)) =
          [(5, 1023, 0), (5, 1023, 1), (5, 1023, 2), (5, 1023, 3), (6, 1023, 0)] := by
  refine ⟨by decide +kernel, by decide +kernel, ?_⟩
  obtain ⟨g, hg, -, -, hnodup, -⟩ := issued_in_order 1023 (by decide +kernel) [5, 5, -40, 5, 6] (by decide +kernel)
  obtain rfl : ⟨1023, 0, 0⟩ = g := Except.ok.inj hg
  exact ⟨_, rfl, hnodup, by decide +kernel⟩

end Generator
end EventGateway
