import EventGateway.Wire.Varint
/-!
# Varints, read and written

A reader takes a run of bytes off the front that spells a number by itself, whatever comes behind (`read_eq_some`).  What
is written is such a run (`read_write`).
-/
namespace EventGateway.Wire.Varint

/-! ## Spellings -/

/-- A run of bytes that is read as a number, to its end.  A number has several, since superfluous bytes are let pass. -/
structure Spelling (n : Nat) where
  bytes : List UInt8
  reads : read bytes = some (n, [])

theorem readFrom_append : ∀ (bytes more : List UInt8) {i m n : Nat} {rest : List UInt8},
    readFrom i m bytes = some (n, rest) → readFrom i m (bytes ++ more) = some (n, rest ++ more)
  | [], _, _, _, _, _, h => by simp [readFrom] at h
  | b :: bytes, more, i, m, n, rest, h => by
    simp only [List.cons_append, readFrom] at h ⊢
    by_cases hlast : i + 1 = maxLength ∧ 1 < b
    · simp [hlast] at h
    · rw [if_neg hlast] at h ⊢
      by_cases hb : b < 128
      · rw [if_pos hb] at h ⊢
        obtain ⟨rfl, rfl⟩ : _ ∧ _ := by simpa using h
        rfl
      · rw [if_neg hb] at h ⊢
        exact readFrom_append bytes more h

theorem readFrom_split : ∀ {bytes : List UInt8} {i m n : Nat} {rest : List UInt8},
    readFrom i m bytes = some (n, rest) → ∃ b pre, bytes = b :: pre ++ rest ∧ readFrom i m (b :: pre) = some (n, [])
  | [], _, _, _, _, h => by simp [readFrom] at h
  | b :: bytes, i, m, n, rest, h => by
    simp only [readFrom] at h
    by_cases hlast : i + 1 = maxLength ∧ 1 < b
    · simp [hlast] at h
    · rw [if_neg hlast] at h
      by_cases hb : b < 128
      · rw [if_pos hb] at h
        obtain ⟨rfl, rfl⟩ : _ ∧ _ := by simpa using h
        exact ⟨b, [], rfl, by rw [readFrom, if_neg hlast, if_pos hb]⟩
      · rw [if_neg hb] at h
        obtain ⟨c, pre, rfl, hpre⟩ := readFrom_split h
        exact ⟨b, c :: pre, rfl, by rw [readFrom, if_neg hlast, if_neg hb, hpre]⟩

namespace Spelling

variable {n : Nat}

theorem read_append (s : Spelling n) (rest : List UInt8) : read (s.bytes ++ rest) = some (n, rest) :=
  readFrom_append s.bytes rest s.reads

theorem bytes_ne_nil (s : Spelling n) : s.bytes ≠ [] := by
  intro h
  have hreads := s.reads
  simp [h, read, readFrom] at hreads

end Spelling

/-- **What is read is a spelling**, and the bytes behind it stay. -/
theorem read_eq_some {bytes rest : List UInt8} {n : Nat} :
    read bytes = some (n, rest) ↔ ∃ s : Spelling n, bytes = s.bytes ++ rest := by
  constructor
  · intro h
    obtain ⟨b, pre, hbytes, hpre⟩ := readFrom_split h
    exact ⟨⟨b :: pre, hpre⟩, hbytes⟩
  · rintro ⟨s, rfl⟩
    exact s.read_append rest

/-! ## Writing -/

theorem toNat_ofNat_of_lt {n : Nat} (h : n < 256) : (UInt8.ofNat n).toNat = n := by
  rw [UInt8.toNat_ofNat']
  exact Nat.mod_eq_of_lt h

/-- The lowest group of seven bits and the others make up the number. -/
theorem shiftLeft_groups (n i : Nat) : (n % 128) <<< (7 * i) + (n / 128) <<< (7 * (i + 1)) = n <<< (7 * i) := by
  rw [Nat.shiftLeft_eq, Nat.shiftLeft_eq, Nat.shiftLeft_eq, Nat.mul_succ, Nat.pow_add, Nat.mul_comm (2 ^ (7 * i)),
    ← Nat.mul_assoc, ← Nat.add_mul]
  exact congrArg (· * 2 ^ (7 * i)) (Nat.mod_add_div' n 128)

/-- Induction on the room that is left: the reader stands at the byte that uses it up. -/
theorem readFrom_writeWithin : ∀ (room : Nat) {i m n : Nat}, i + room + 1 = maxLength → n < 2 <<< (7 * room) →
    readFrom i m (writeWithin room n) = some (m + n <<< (7 * i), [])
  | 0, i, m, n, _, hn => by
    have hn : n < 2 := by simpa using hn
    have hbyte : (UInt8.ofNat n).toNat = n := toNat_ofNat_of_lt (by omega)
    have hlast : ¬(i + 1 = maxLength ∧ 1 < UInt8.ofNat n) := by
      rw [UInt8.lt_iff_toNat_lt, hbyte]
      simp
      omega
    have hend : UInt8.ofNat n < 128 := by
      rw [UInt8.lt_iff_toNat_lt, hbyte]
      simp
      omega
    rw [writeWithin, readFrom, if_neg hlast, if_pos hend, hbyte]
  | room + 1, i, m, n, hi, hn => by
    have hlast (b : UInt8) : ¬(i + 1 = maxLength ∧ 1 < b) := by omega
    by_cases hsmall : n < 128
    · have hbyte : (UInt8.ofNat n).toNat = n := toNat_ofNat_of_lt (by omega)
      have hend : UInt8.ofNat n < 128 := by
        rw [UInt8.lt_iff_toNat_lt, hbyte]
        exact hsmall
      rw [writeWithin, if_pos hsmall, readFrom, if_neg (hlast _), if_pos hend, hbyte]
    · have hbyte : (UInt8.ofNat (n % 128 + 128)).toNat = n % 128 + 128 := toNat_ofNat_of_lt (by omega)
      have hmore : ¬UInt8.ofNat (n % 128 + 128) < 128 := by
        rw [UInt8.lt_iff_toNat_lt, hbyte]
        simp
      have hrest : n / 128 < 2 <<< (7 * room) := by
        rw [Nat.mul_succ, Nat.shiftLeft_add] at hn
        rw [Nat.div_lt_iff_lt_mul (by decide)]
        simpa [Nat.shiftLeft_eq] using hn
      rw [writeWithin, if_neg hsmall, readFrom, if_neg (hlast _), if_neg hmore,
        readFrom_writeWithin room (by omega) hrest, hbyte, Nat.add_mod_right, Nat.mod_mod, Nat.add_assoc,
        shiftLeft_groups]

theorem read_write (n : UInt64) (rest : List UInt8) : read (write n ++ rest) = some (n.toNat, rest) := by
  have hn : n.toNat < 2 <<< (7 * 9) := n.toNat_lt
  have h := readFrom_writeWithin 9 (i := 0) (m := 0) rfl hn
  rw [Nat.zero_add, Nat.mul_zero, Nat.shiftLeft_zero] at h
  exact readFrom_append _ rest h

theorem write_ne_nil (n : UInt64) : write n ≠ [] := by
  intro h
  have hread := read_write n []
  simp [h, read, readFrom] at hread

/-- **What is written is a spelling**, of every number that has 64 bits. -/
def spellingOf (n : Nat) (h : n < UInt64.size) : Spelling n where
  bytes := write (UInt64.ofNat n)
  reads := by
    have hreads := read_write (UInt64.ofNat n) []
    rw [List.append_nil, UInt64.toNat_ofNat', Nat.mod_eq_of_lt h] at hreads
    exact hreads

end EventGateway.Wire.Varint
