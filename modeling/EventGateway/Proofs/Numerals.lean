import EventGateway.Proofs.Decimals
/-!
# Numerals — which texts are read as a number

A number is read from an optional sign and at least one digit, and from nothing else; superfluous zeros and a plus sign
are allowed, a minus sign only where there are numbers below zero (`Spelled`).  What is read is the number that the
digits come to, as long as it stands between the bounds (`read_eq_ok_iff`).
-/
namespace EventGateway.Text

namespace Decimal

/-- At least one digit, coming to `n`. -/
structure Digits (cs : List Char) (n : Nat) : Prop where
  ne_nil : cs ≠ []
  digits : ∀ c ∈ cs, isDigit c = true
  value : Decimal.value cs = n

/-- **A number in text**, with or without a sign. -/
inductive Spelled (signed : Bool) : List Char → Int → Prop
  | plain {cs : List Char} {n : Nat} (h : Digits cs n) : Spelled signed cs n
  | plus {cs : List Char} {n : Nat} (h : Digits cs n) : Spelled signed ('+' :: cs) n
  | minus {cs : List Char} {n : Nat} (hsigned : signed = true) (h : Digits cs n) : Spelled signed ('-' :: cs) (-n)

theorem digits_write (n : Nat) : Digits (write n) n :=
  ⟨write_ne_nil n, fun _ h => isDigit_of_mem_write h, value_write n⟩

/-! ## Reading on -/

theorem digits_of_climb : ∀ (cs : List Char) {high n : Int} {m : Nat}, (m : Int) ≤ high → climb high m cs = .ok n →
    (∀ c ∈ cs, isDigit c = true) ∧ n = (cs.foldl (fun n c => n * 10 + digitValue c) m : Nat) ∧ n ≤ high
  | [], _, _, _, hm, h => by
    obtain rfl := Except.ok.inj h
    exact ⟨fun _ hc => (nomatch hc), rfl, hm⟩
  | c :: cs, high, n, m, _, h => by
    rw [climb] at h
    split at h
    · cases h
    · next hdigit =>
      split at h
      · cases h
      · next hhigh =>
        have hnext : (m : Int) * 10 + digitValue c = (m * 10 + digitValue c : Nat) := by omega
        rw [hnext] at h hhigh
        obtain ⟨hrest, hvalue, hle⟩ := digits_of_climb cs (Int.not_lt.1 hhigh) h
        exact ⟨List.forall_mem_cons.2 ⟨by simpa using hdigit, hrest⟩, hvalue, hle⟩

theorem digits_of_descend : ∀ (cs : List Char) {low n : Int} {m : Nat}, low ≤ -m → descend low (-m) cs = .ok n →
    (∀ c ∈ cs, isDigit c = true) ∧ n = -(cs.foldl (fun n c => n * 10 + digitValue c) m : Nat) ∧ low ≤ n
  | [], _, _, _, hm, h => by
    obtain rfl := Except.ok.inj h
    exact ⟨fun _ hc => (nomatch hc), rfl, hm⟩
  | c :: cs, low, n, m, _, h => by
    rw [descend] at h
    split at h
    · cases h
    · next hdigit =>
      split at h
      · cases h
      · next hlow =>
        have hnext : (-m : Int) * 10 - digitValue c = -(m * 10 + digitValue c : Nat) := by omega
        rw [hnext] at h hlow
        obtain ⟨hrest, hvalue, hle⟩ := digits_of_descend cs (Int.not_lt.1 hlow) h
        exact ⟨List.forall_mem_cons.2 ⟨by simpa using hdigit, hrest⟩, hvalue, hle⟩

theorem climb_eq_ok_iff {low high n : Int} (hlow : low ≤ 0) (hhigh : 0 ≤ high) {cs : List Char} (hne : cs ≠ []) :
    climb high 0 cs = .ok n ↔ (∃ m : Nat, Digits cs m ∧ n = m) ∧ low ≤ n ∧ n ≤ high := by
  constructor
  · intro h
    obtain ⟨hdigits, hvalue, hle⟩ := digits_of_climb cs (m := 0) hhigh h
    exact ⟨⟨_, ⟨hne, hdigits, rfl⟩, hvalue⟩, by omega, hle⟩
  · rintro ⟨⟨m, ⟨-, hdigits, rfl⟩, rfl⟩, -, hle⟩
    exact climb_of_digits cs (m := 0) hdigits hle

theorem descend_eq_ok_iff {low high n : Int} (hlow : low ≤ 0) (hhigh : 0 ≤ high) {cs : List Char} (hne : cs ≠ []) :
    descend low 0 cs = .ok n ↔ (∃ m : Nat, Digits cs m ∧ n = -m) ∧ low ≤ n ∧ n ≤ high := by
  constructor
  · intro h
    obtain ⟨hdigits, hvalue, hle⟩ := digits_of_descend cs (m := 0) hlow h
    exact ⟨⟨_, ⟨hne, hdigits, rfl⟩, hvalue⟩, hle, by omega⟩
  · rintro ⟨⟨m, ⟨-, hdigits, rfl⟩, rfl⟩, hle, -⟩
    exact descend_of_digits cs low 0 hdigits hle

/-! ## Signs -/

theorem not_digits_nil {n : Nat} : ¬Digits [] n := fun h => h.ne_nil rfl

theorem not_digits_cons {c : Char} (hc : isDigit c = false) {cs : List Char} {n : Nat} : ¬Digits (c :: cs) n := by
  intro h
  have hdigit := h.digits c List.mem_cons_self
  rw [hc] at hdigit
  cases hdigit

theorem spelled_plus_iff {signed : Bool} {cs : List Char} {n : Int} :
    Spelled signed ('+' :: cs) n ↔ ∃ m : Nat, Digits cs m ∧ n = m := by
  constructor
  · intro h
    cases h with
    | plain h => exact absurd h (not_digits_cons rfl)
    | plus h => exact ⟨_, h, rfl⟩
  · rintro ⟨m, h, rfl⟩
    exact .plus h

theorem spelled_minus_iff {signed : Bool} {cs : List Char} {n : Int} :
    Spelled signed ('-' :: cs) n ↔ signed = true ∧ ∃ m : Nat, Digits cs m ∧ n = -m := by
  constructor
  · intro h
    cases h with
    | plain h => exact absurd h (not_digits_cons rfl)
    | minus hsigned h => exact ⟨hsigned, _, h, rfl⟩
  · rintro ⟨hsigned, m, h, rfl⟩
    exact .minus hsigned h

theorem spelled_unsigned_iff {signed : Bool} {c : Char} (hplus : c ≠ '+') (hminus : c ≠ '-') {cs : List Char}
    {n : Int} : Spelled signed (c :: cs) n ↔ ∃ m : Nat, Digits (c :: cs) m ∧ n = m := by
  constructor
  · intro h
    cases h with
    | plain h => exact ⟨_, h, rfl⟩
    | plus => exact absurd rfl hplus
    | minus => exact absurd rfl hminus
  · rintro ⟨m, h, rfl⟩
    exact .plain h

theorem not_spelled_nil {signed : Bool} {n : Int} : ¬Spelled signed [] n := by
  intro h
  cases h with
  | plain h => exact not_digits_nil h

/-- Without numbers below zero there are digits only, and at most a plus sign. -/
theorem Spelled.of_unsigned {cs : List Char} {n : Int} (h : Spelled false cs n) :
    cs ≠ [] ∧ ∀ c ∈ cs, c = '+' ∨ isDigit c = true := by
  cases h with
  | plain h => exact ⟨h.ne_nil, fun c hc => .inr (h.digits c hc)⟩
  | plus h => exact ⟨List.cons_ne_nil _ _, fun c hc => (List.mem_cons.1 hc).imp_right (h.digits c)⟩
  | minus hsigned => cases hsigned

/-- **A number is read from what spells it, if it stands between the bounds, and from nothing else.** -/
theorem read_eq_ok_iff {low high n : Int} (hlow : low ≤ 0) (hhigh : 0 ≤ high) (cs : List Char) :
    read low high cs = .ok n ↔ Spelled (decide (low < 0)) cs n ∧ low ≤ n ∧ n ≤ high := by
  unfold read
  split
  · simp [not_spelled_nil]
  · simp [spelled_plus_iff, not_digits_nil]
  · simp [spelled_minus_iff, not_digits_nil]
  · next cs hne => rw [climb_eq_ok_iff hlow hhigh hne, spelled_plus_iff]
  · next cs hne =>
    by_cases hsigned : low < 0
    · rw [if_pos hsigned, descend_eq_ok_iff hlow hhigh hne, spelled_minus_iff]
      simp [hsigned]
    · rw [if_neg hsigned, spelled_minus_iff]
      simp [hsigned]
  · next hne _ _ hplus hminus =>
    obtain ⟨c, cs, rfl⟩ := List.exists_cons_of_ne_nil hne
    rw [climb_eq_ok_iff hlow hhigh hne,
      spelled_unsigned_iff (fun h => hplus cs (h ▸ rfl)) fun h => hminus cs (h ▸ rfl)]

/-- **A number of a type is read from what spells it**, where the bounds are those of the type. -/
theorem map_read_eq_ok_iff {α : Type} {f : Int → α} {g : α → Int} {low high : Int} (hlow : low ≤ 0)
    (hhigh : 0 ≤ high) (hfits : ∀ n, low ≤ n → n ≤ high → g (f n) = n) (hfg : ∀ a, f (g a) = a)
    (hbounds : ∀ a, low ≤ g a ∧ g a ≤ high) {cs : List Char} {a : α} :
    (read low high cs).map f = .ok a ↔ Spelled (decide (low < 0)) cs (g a) := by
  constructor
  · intro h
    cases hn : read low high cs with
    | error e =>
      rw [hn] at h
      cases h
    | ok n =>
      rw [hn] at h
      obtain rfl : f n = a := Except.ok.inj h
      obtain ⟨hspelled, hle, hge⟩ := (read_eq_ok_iff hlow hhigh cs).1 hn
      rwa [hfits n hle hge]
  · intro h
    rw [(read_eq_ok_iff hlow hhigh cs).2 ⟨h, hbounds a⟩]
    exact congrArg Except.ok (hfg a)

/-- The same for a type without a sign, of which there are `size` numbers. -/
theorem map_read_unsigned_eq_ok_iff {α : Type} {ofNat : Nat → α} {toNat : α → Nat} {size : Nat}
    (hlt : ∀ a, toNat a < size) (hof : ∀ n, n < size → toNat (ofNat n) = n) (hto : ∀ a, ofNat (toNat a) = a)
    {cs : List Char} {a : α} :
    (read 0 (size - 1 : Nat) cs).map (ofNat ·.toNat) = .ok a ↔ Spelled false cs (toNat a) := by
  have hpos := hlt a
  refine map_read_eq_ok_iff (g := fun a => (toNat a : Int)) (Int.le_refl 0) (Int.natCast_nonneg _)
    (fun n hlow hhigh => ?_) (fun a => ?_) fun a => ?_
  · rw [hof _ (by omega), Int.toNat_of_nonneg hlow]
  · rw [Int.toNat_natCast, hto]
  · have := hlt a
    omega

end Decimal

/-- **A number of 16 bits is read from what spells it.** -/
theorem readUInt16_eq_ok_iff {s : String} {n : UInt16} :
    Decimal.readUInt16 s = .ok n ↔ Decimal.Spelled false s.toList n.toNat :=
  Decimal.map_read_unsigned_eq_ok_iff UInt16.toNat_lt (fun _ => UInt16.toNat_ofNat_of_lt') fun _ => UInt16.ofNat_toNat

/-- **A number of 32 bits is read from what spells it.** -/
theorem readUInt32_eq_ok_iff {s : String} {n : UInt32} :
    Decimal.readUInt32 s = .ok n ↔ Decimal.Spelled false s.toList n.toNat :=
  Decimal.map_read_unsigned_eq_ok_iff UInt32.toNat_lt (fun _ => UInt32.toNat_ofNat_of_lt') fun _ => UInt32.ofNat_toNat

/-- **A number of 64 bits is read from what spells it.** -/
theorem readUInt64_eq_ok_iff {s : String} {n : UInt64} :
    Decimal.readUInt64 s = .ok n ↔ Decimal.Spelled false s.toList n.toNat :=
  Decimal.map_read_unsigned_eq_ok_iff UInt64.toNat_lt (fun _ => UInt64.toNat_ofNat_of_lt') fun _ => UInt64.ofNat_toNat

/-- **A number of 64 bits with a sign is read from what spells it.** -/
theorem readInt64_eq_ok_iff {s : String} {n : Int64} :
    Decimal.readInt64 s = .ok n ↔ Decimal.Spelled true s.toList n.toInt := by
  refine Decimal.map_read_eq_ok_iff (by decide) (by decide) (fun n hlow hhigh => ?_) Int64.ofInt_toInt
    fun n => ⟨n.minValue_le_toInt, n.toInt_le⟩
  exact Int64.toInt_ofInt_of_le hlow (Int.lt_of_le_of_lt hhigh (by decide))

end EventGateway.Text
