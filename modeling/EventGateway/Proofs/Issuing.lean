import EventGateway.Snowflake.Generator
/-!
# Issuing — a generator never issues an id twice

The moments of a generator only go forward, whatever the clock does (`advance_before`), and two moments that an id has
room for have different ids (`current_injective`).  So an id is never issued again until the clock of the generator has
outgrown the bits that an id has for it.
-/
namespace EventGateway.Generator

/-- An earlier moment of the same generator. -/
def Before (g g' : Generator) : Prop := g.time < g'.time ∨ g.time = g'.time ∧ g.sequence < g'.sequence

/-- The time fits into the bits that an id has for it. -/
def Fits (g : Generator) : Prop := g.time * (Snowflake.workers * Snowflake.sequences) < UInt64.size

theorem Before.trans {g g' g'' : Generator} (h : g.Before g') (h' : g'.Before g'') : g.Before g'' := by
  unfold Before at *; omega

/-- **The clock may stand still or go back; the generator goes forward.** -/
theorem advance_before (now : Int) (g : Generator) : g.Before (g.advance now) := by
  unfold advance Before
  split
  · dsimp only; omega
  · split <;> dsimp only <;> omega

theorem worker_advance (now : Int) (g : Generator) : (g.advance now).worker = g.worker := by
  unfold advance
  split
  · rfl
  · split <;> rfl

theorem sequence_advance_lt (now : Int) (g : Generator) : (g.advance now).sequence < Snowflake.sequences := by
  have hpos : 0 < Snowflake.sequences := by decide
  unfold advance
  split
  · exact hpos
  · split
    · assumption
    · exact hpos

theorem Fits.mono {g g' : Generator} (h : g'.Fits) (hle : g.time ≤ g'.time) : g.Fits :=
  Nat.lt_of_le_of_lt (Nat.mul_le_mul_right _ hle) h

/-- **Different moments of one generator have different ids**, as long as they fit into an id. -/
theorem current_injective {g g' : Generator} (hworker : g.worker = g'.worker) (hfits : g.Fits) (hfits' : g'.Fits)
    (hsequence : g.sequence < Snowflake.sequences) (hsequence' : g'.sequence < Snowflake.sequences)
    (h : g.current = g'.current) : g.time = g'.time ∧ g.sequence = g'.sequence := by
  have hbits := congrArg (fun s : Snowflake => s.bits.toUInt64.toNat) h
  simp only [current, Snowflake.ofNat, Int64.toUInt64_ofNat', UInt64.toNat_ofNat', hworker] at hbits
  have hworkers := g'.worker.toNat_lt
  simp only [Fits, Snowflake.workers, Snowflake.sequences, UInt64.size] at *
  omega

/-! ## What has been issued -/

/-- An id of the generator's moment, or of an earlier one. -/
def HasIssued (g : Generator) (id : Snowflake) : Prop :=
  ∃ g₀ : Generator, g₀.worker = g.worker ∧ g₀.sequence < Snowflake.sequences ∧ (g₀ = g ∨ g₀.Before g) ∧
    g₀.current = id

theorem hasIssued_next (now : Int) (g : Generator) : (g.next now).2.HasIssued (g.next now).1 :=
  ⟨g.advance now, rfl, sequence_advance_lt now g, .inl rfl, rfl⟩

theorem HasIssued.next {g : Generator} {id : Snowflake} (h : g.HasIssued id) (now : Int) :
    (g.next now).2.HasIssued id := by
  obtain ⟨g₀, hworker, hsequence, hbefore, hid⟩ := h
  refine ⟨g₀, hworker.trans (worker_advance now g).symm, hsequence, .inr ?_, hid⟩
  rcases hbefore with rfl | hbefore
  · exact advance_before now g₀
  · exact hbefore.trans (advance_before now g)

theorem time_le_next (now : Int) (g : Generator) : g.time ≤ (g.next now).2.time := by
  have h : g.Before (g.next now).2 := advance_before now g
  unfold Before at h
  omega

/-- **What has been issued is not issued again.** -/
theorem HasIssued.ne_next {g : Generator} {id : Snowflake} (h : g.HasIssued id) {now : Int}
    (hfits : (g.next now).2.Fits) : id ≠ (g.next now).1 := by
  obtain ⟨g₀, hworker, hsequence, hbefore, rfl⟩ := h
  have hlater : g₀.Before (g.advance now) := by
    rcases hbefore with rfl | hbefore
    · exact advance_before now g₀
    · exact hbefore.trans (advance_before now g)
  have hle : g₀.time ≤ (g.advance now).time := by
    unfold Before at hlater; omega
  intro he
  obtain ⟨htime, hsame⟩ := current_injective (hworker.trans (worker_advance now g).symm) (hfits.mono hle) hfits
    hsequence (sequence_advance_lt now g) he
  unfold Before at hlater
  omega

end EventGateway.Generator
