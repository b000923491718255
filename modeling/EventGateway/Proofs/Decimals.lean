import EventGateway.Text.Blank
import EventGateway.Text.Decimal
/-!
# Decimal integers, written and read

What is written is a run of digits without a superfluous zero, and its value is the number.  Between the bounds of its
type a number is read back from what is written (`readUInt64_ofNat`, `readInt64_ofInt`).
-/
namespace EventGateway.Text

namespace Decimal

/-! ## What is written -/

theorem write_ne_nil (n : Nat) : write n ≠ [] := Nat.toDigits_ne_nil

theorem isDigit_of_mem_write {n : Nat} {c : Char} (h : c ∈ write n) : isDigit c = true :=
  Nat.isDigit_of_mem_toDigits (by decide) (by decide) h

theorem value_write (n : Nat) : value (write n) = n := by
  have hfold : ∀ (cs : List Char) (m : Nat), cs.foldl (fun n c => n * 10 + digitValue c) m = Nat.ofDigitChars 10 cs m := by
    intro cs
    induction cs with
    | nil => intro m; rfl
    | cons c cs ih =>
      intro m
      rw [List.foldl_cons, ih, Nat.mul_comm]
      rfl
  rw [value, hfold]
  exact Nat.ofDigitChars_ten_toDigits

/-- **No superfluous zero stands in front.** -/
theorem write_eq_zero_cons {n : Nat} {cs : List Char} (h : write n = '0' :: cs) : cs = [] := by
  induction n using Nat.strongRecOn generalizing cs with
  | ind n ih =>
    by_cases hn : n < 10
    · rw [write, Nat.toDigits_of_lt_base hn] at h
      exact (List.cons.inj h).2.symm
    · have hstep : write n = write (n / 10) ++ [(n % 10).digitChar] :=
        Nat.toDigits_of_base_le (by decide) (by omega)
      obtain ⟨d, ds, hd⟩ := List.exists_cons_of_ne_nil (write_ne_nil (n / 10))
      have hzero : d = '0' := by
        rw [hstep, hd] at h
        exact (List.cons.inj h).1
      have hds : ds = [] := ih (n / 10) (by omega) (by rw [hd, hzero])
      -- the digits before the last are a number of their own, so they are not just a zero
      have hvalue := value_write (n / 10)
      rw [hd, hds, hzero] at hvalue
      have : n / 10 = 0 := hvalue.symm
      omega

theorem digitChar_digitValue {c : Char} (h : isDigit c = true) : (digitValue c).digitChar = c ∧ digitValue c < 10 := by
  have hall : ∀ n < 10, (digitValue (Char.ofNat (48 + n))).digitChar = Char.ofNat (48 + n) ∧
      digitValue (Char.ofNat (48 + n)) < 10 := by decide
  simp only [isDigit, Bool.and_eq_true, decide_eq_true_eq, Char.le_def, UInt32.le_iff_toNat_le] at h
  have hlow : 48 ≤ c.toNat := h.1
  have hhigh : c.toNat ≤ 57 := h.2
  have hc := hall (c.toNat - 48) (by omega)
  rwa [show 48 + (c.toNat - 48) = c.toNat by omega, Char.ofNat_toNat] at hc

/-- **A number has one run of digits only**, if none of them is superfluous. -/
theorem write_value {ds : List Char} (hne : ds ≠ []) (hdigits : ∀ c ∈ ds, isDigit c = true)
    (hzero : ∀ cs, ds = '0' :: cs → cs = []) : write (value ds) = ds := by
  -- The induction takes digits away at the end, where the last one is written.
  rw [← List.reverse_reverse ds] at hne hdigits hzero ⊢
  generalize ds.reverse = rs at hne hdigits hzero ⊢
  induction rs with
  | nil => exact absurd rfl hne
  | cons d rs ih =>
    rw [List.reverse_cons] at hne hdigits hzero ⊢
    generalize rs.reverse = init at ih hne hdigits hzero ⊢
    obtain ⟨hchar, hlt⟩ := digitChar_digitValue (hdigits d (by simp))
    have hvalue : value (init ++ [d]) = value init * 10 + digitValue d := by
      rw [value, List.foldl_append]
      rfl
    by_cases hinit : init = []
    · rw [hvalue, hinit, write]
      simp only [value, List.foldl_nil, Nat.zero_mul, Nat.zero_add, List.nil_append]
      rw [Nat.toDigits_of_lt_base hlt, hchar]
    · have hwrite := ih hinit (fun c hc => hdigits c (by simp [hc])) fun cs hcs =>
        absurd (hzero (cs ++ [d]) (by rw [hcs]; rfl)) (by simp)
      -- If the digits before the last came to nothing, they would be a zero in front.
      have hpos : 0 < value init := by
        refine Nat.pos_of_ne_zero fun h => ?_
        rw [h] at hwrite
        exact absurd (hzero [d] (by rw [← hwrite]; rfl)) (by simp)
      rw [hvalue, write, Nat.toDigits_of_base_le (by decide) (by omega),
        show (value init * 10 + digitValue d) / 10 = value init by omega,
        show (value init * 10 + digitValue d) % 10 = digitValue d by omega, hchar]
      exact congrArg (· ++ [d]) hwrite

/-! ## Reading back -/

theorem le_foldl_digits : ∀ (cs : List Char) (m : Nat), m ≤ cs.foldl (fun n c => n * 10 + digitValue c) m
  | [], m => Nat.le_refl m
  | c :: cs, m => by
    rw [List.foldl_cons]
    have hrest := le_foldl_digits cs (m * 10 + digitValue c)
    omega

theorem climb_of_digits : ∀ (cs : List Char) {high : Int} {m : Nat}, (∀ c ∈ cs, isDigit c = true) →
    (cs.foldl (fun n c => n * 10 + digitValue c) m : Nat) ≤ high →
      climb high m cs = .ok (cs.foldl (fun n c => n * 10 + digitValue c) m : Nat)
  | [], _, _, _, _ => rfl
  | c :: cs, high, m, hdigits, hhigh => by
    rw [List.foldl_cons] at hhigh ⊢
    have hc : isDigit c = true := hdigits c List.mem_cons_self
    have hle : (m * 10 + digitValue c : Nat) ≤ high := by
      have := le_foldl_digits cs (m * 10 + digitValue c)
      omega
    have hlow : ¬high < (m : Int) * 10 + digitValue c := by
      rw [Int.natCast_add, Int.natCast_mul] at hle
      exact Int.not_lt.2 hle
    have hrest := climb_of_digits cs (m := m * 10 + digitValue c) (fun d hd => hdigits d (List.mem_cons_of_mem _ hd)) hhigh
    rw [climb, hc, if_neg (by simp), if_neg hlow]
    rw [Int.natCast_add, Int.natCast_mul] at hrest
    exact hrest

theorem read_write (low : Int) {high : Int} {n : Nat} (h : (n : Int) ≤ high) : read low high (write n) = .ok n := by
  obtain ⟨c, cs, hcs⟩ := List.exists_cons_of_ne_nil (write_ne_nil n)
  have hc : isDigit c = true := isDigit_of_mem_write (n := n) (by simp [hcs])
  have hplus : c ≠ '+' := by rintro rfl; cases hc
  have hminus : c ≠ '-' := by rintro rfl; cases hc
  have hread : read low high (write n) = climb high 0 (write n) := by
    rw [hcs]
    unfold read
    split <;> simp_all
  rw [hread]
  have hvalue : (write n).foldl (fun n c => n * 10 + digitValue c) 0 = n := value_write n
  have hle : ((write n).foldl (fun n c => n * 10 + digitValue c) 0 : Nat) ≤ high := by
    rw [hvalue]
    exact h
  have hclimb := climb_of_digits (write n) (m := 0) (fun d hd => isDigit_of_mem_write hd) hle
  rw [hvalue] at hclimb
  exact hclimb

theorem descend_of_digits : ∀ (cs : List Char) (low : Int) (m : Nat), (∀ c ∈ cs, isDigit c = true) →
    low ≤ -(cs.foldl (fun n c => n * 10 + digitValue c) m : Nat) →
      descend low (-m) cs = .ok (-(cs.foldl (fun n c => n * 10 + digitValue c) m : Nat))
  | [], _, _, _, _ => rfl
  | c :: cs, low, m, hdigits, hlow => by
    rw [List.foldl_cons] at hlow ⊢
    have hc : isDigit c = true := hdigits c List.mem_cons_self
    have hnext : (-m : Int) * 10 - digitValue c = -(m * 10 + digitValue c : Nat) := by omega
    have hle : ¬-(m * 10 + digitValue c : Nat) < low := by
      have := le_foldl_digits cs (m * 10 + digitValue c)
      omega
    rw [descend, hc, if_neg (by simp), hnext, if_neg hle]
    exact descend_of_digits cs low _ (fun d hd => hdigits d (List.mem_cons_of_mem _ hd)) hlow

/-- **A number between the bounds is read back**, whatever its sign. -/
theorem read_writeInt {low high n : Int} (hlow : low ≤ n) (hhigh : n ≤ high) :
    read low high (writeInt n) = .ok n := by
  cases n with
  | ofNat n => exact read_write low hhigh
  | negSucc n =>
    have hvalue : (write (n + 1)).foldl (fun n c => n * 10 + digitValue c) 0 = n + 1 := value_write (n + 1)
    have hdescend := descend_of_digits (write (n + 1)) low 0 (fun c hc => isDigit_of_mem_write hc)
      (by rw [hvalue]; omega)
    rw [hvalue] at hdescend
    obtain ⟨c, cs, hcs⟩ := List.exists_cons_of_ne_nil (write_ne_nil (n + 1))
    have hread : read low high (writeInt (.negSucc n)) = descend low 0 (write (n + 1)) := by
      rw [writeInt, hcs]
      exact if_pos (by omega)
    rw [hread]
    exact hdescend

/-- A minus sign and digits are all that a number is written with. -/
theorem mem_writeInt {n : Int} {c : Char} (h : c ∈ writeInt n) : c = '-' ∨ isDigit c = true := by
  cases n with
  | ofNat n => exact .inr (isDigit_of_mem_write h)
  | negSucc n => exact (List.mem_cons.1 h).imp_right isDigit_of_mem_write

theorem isBlank_eq_false_of_isDigit {c : Char} (h : isDigit c = true) : isBlank c = false := by
  simp only [isDigit, Bool.and_eq_true, decide_eq_true_eq, Char.le_def, UInt32.le_iff_toNat_le] at h
  have hlow : 48 ≤ c.toNat := h.1
  have hhigh : c.toNat ≤ 57 := h.2
  simp only [isBlank, Bool.or_eq_false_iff, Bool.and_eq_false_iff, decide_eq_false_iff_not, beq_eq_false_iff_ne]
  omega

end Decimal

theorem readUInt64_ofNat (n : UInt64) : Decimal.readUInt64 (ofNat n.toNat) = .ok n := by
  have hlt : (n.toNat : Int) ≤ (UInt64.size - 1 : Nat) := by
    have := n.toNat_lt
    simp only [UInt64.size]
    omega
  rw [Decimal.readUInt64, ofNat, String.toList_ofList, Decimal.read_write 0 hlt]
  simp [Except.map]

theorem readInt64_ofInt (n : Int64) : Decimal.readInt64 (ofInt n.toInt) = .ok n := by
  rw [Decimal.readInt64, ofInt, String.toList_ofList, Decimal.read_writeInt n.minValue_le_toInt n.toInt_le]
  exact congrArg Except.ok n.ofInt_toInt

theorem isBlank_eq_false_of_mem_ofInt {n : Int} {c : Char} (h : c ∈ (ofInt n).toList) : isBlank c = false := by
  rw [ofInt, String.toList_ofList] at h
  rcases Decimal.mem_writeInt h with rfl | h
  · rfl
  · exact Decimal.isBlank_eq_false_of_isDigit h

end EventGateway.Text
