import EventGateway.Proofs.JsonText
import EventGateway.Proofs.Numerals
import EventGateway.Proofs.ScopeText
import EventGateway.Proofs.TextFrames
/-!
# The two forms of an id — a number, and a text of the same digits

An id may be written as a number or as a text.  In a payload the two always mean the same (`asId_number`,
`asId_ofInt`).  A snowflake is read alike from both as long as it is no number past the signed ones
(`asSnowflake_number`, `asSnowflake_ofInt`): such a number is taken for the bits of a negative id, of which a text of
the same digits knows nothing (`forms_alike_but_past_signed`).
-/
namespace EventGateway

/-! ## Integers as they are written -/

namespace Text.Decimal

theorem digits_write_iff {n k : Nat} : Digits (write n) k ↔ k = n :=
  ⟨fun h => h.value.symm.trans (value_write n), fun h => h ▸ digits_write n⟩

theorem write_ne_cons {n : Nat} {c : Char} (hc : isDigit c = false) {cs : List Char} : write n ≠ c :: cs := by
  intro h
  have hmem : c ∈ write n := h ▸ List.mem_cons_self
  rw [isDigit_of_mem_write hmem] at hc
  cases hc

/-- **What is written spells the integer that it was written for**, and it spells one below zero only where there are
such. -/
theorem spelled_writeInt_iff {signed : Bool} {m n : Int} :
    Spelled signed (writeInt n) m ↔ m = n ∧ (signed = false → 0 ≤ n) := by
  cases n with
  | ofNat n =>
    obtain ⟨c, cs, hcs⟩ := List.exists_cons_of_ne_nil (write_ne_nil n)
    have hplus : c ≠ '+' := fun h => write_ne_cons (c := '+') rfl (h ▸ hcs)
    have hminus : c ≠ '-' := fun h => write_ne_cons (c := '-') rfl (h ▸ hcs)
    rw [writeInt, hcs, spelled_unsigned_iff hplus hminus, ← hcs]
    simp [digits_write_iff]
  | negSucc n =>
    rw [writeInt, spelled_minus_iff]
    simp only [digits_write_iff, exists_eq_left]
    have hneg : -((n + 1 : Nat) : Int) = Int.negSucc n := (Int.negSucc_eq n).symm
    rw [hneg]
    cases signed <;> simp [Int.negSucc_not_nonneg]

end Text.Decimal

namespace Json

open Text

/-- An integer that a document does not have is written as a number too. -/
theorem exists_number (n : Int) : ∃ v, Number v (Decimal.writeInt n) := by
  cases n with
  | ofNat n => exact ⟨_, number_iff.2 ⟨_, written_digits false n, rfl⟩⟩
  | negSucc n => exact ⟨_, number_iff.2 ⟨_, written_digits true (n + 1), rfl⟩⟩

theorem document_number {v : Json} {n : Int} (h : Number v (Decimal.writeInt n)) : Document v (ofInt n).toList := by
  refine ⟨[], Decimal.writeInt n, [], ?_, space_nil, .number h, space_nil⟩
  rw [List.nil_append, List.append_nil, ofInt, String.toList_ofList]

theorem document_unique {v w : Json} {s : String} (hv : Document v s.toList) (hw : Document w s.toList) : v = w := by
  have hread : readText .ok s = .ok v := readText_of_document hv
  exact Except.ok.inj (hread.symm.trans (readText_of_document hw))

/-- What an integer is written as is the integer, if a document has it, and otherwise a number that is none. -/
theorem number_writeInt {v : Json} {n : Int} (h : Number v (Decimal.writeInt n)) :
    (isInteger n = true ∧ v = .integer n) ∨ (isInteger n = false ∧ ∃ r, v = .real r) := by
  cases hn : isInteger n with
  | true => exact .inl ⟨rfl, document_unique (document_number h) (document_number (.integer hn))⟩
  | false =>
    refine .inr ⟨rfl, ?_⟩
    generalize hcs : Decimal.writeInt n = cs at h
    cases h with
    | integer hm =>
      rw [Decimal.writeInt_injective hcs, hm] at hn
      cases hn
    | real => exact ⟨_, rfl⟩

/-! ## Snowflakes -/

theorem isInteger_iff {n : Int} : isInteger n = true ↔ Int64.minValue.toInt ≤ n ∧ n < UInt64.size := by
  simp [isInteger]

/-- Past the signed numbers, bits are those of a number below zero. -/
theorem toInt_ofInt_past {n : Int} (hlow : Int64.maxValue.toInt < n) (hhigh : n < UInt64.size) :
    (Int64.ofInt n).toInt = n - UInt64.size := by
  have hmax : Int64.maxValue.toInt = 9223372036854775807 := rfl
  rw [Int64.toInt_ofInt]
  simp only [UInt64.size, Int64.size, Int.bmod_def] at *
  omega

/-- **The number of a snowflake** is its own, or that of its bits. -/
theorem asSnowflake_number {v : Json} {n : Int} (h : Number v (Decimal.writeInt n)) {s : Snowflake} :
    v.asSnowflake = .ok s ↔
      s.bits.toInt = n ∨ (Int64.maxValue.toInt < n ∧ n < UInt64.size ∧ s.bits.toInt = n - UInt64.size) := by
  obtain ⟨bits⟩ := s
  dsimp only
  have hlow := bits.minValue_le_toInt
  have hhigh := bits.toInt_le
  have hmax : Int64.maxValue.toInt = 9223372036854775807 := rfl
  rcases number_writeInt h with ⟨hn, rfl⟩ | ⟨hn, r, rfl⟩
  · have hread : asSnowflake (.integer n) = .ok ⟨bits⟩ ↔ bits.toInt = (Int64.ofInt n).toInt := by
      rw [asSnowflake, if_pos (isInteger_iff.1 hn), Except.ok.injEq, Snowflake.mk.injEq, Int64.toInt_inj, eq_comm]
    obtain ⟨hnlow, hnhigh⟩ := isInteger_iff.1 hn
    rw [hread]
    by_cases hpast : Int64.maxValue.toInt < n
    · rw [toInt_ofInt_past hpast hnhigh]
      omega
    · rw [Int64.toInt_ofInt_of_le hnlow (by omega)]
      omega
  · rw [← Bool.not_eq_true, isInteger_iff] at hn
    simp only [UInt64.size] at *
    simp only [asSnowflake, reduceCtorEq, false_iff]
    omega

/-- **The text of a snowflake** is that of its number. -/
theorem asSnowflake_ofInt {n : Int} {s : Snowflake} : (text (ofInt n)).asSnowflake = .ok s ↔ s.bits.toInt = n := by
  have hparse : Snowflake.parse (ofInt n) = .ok s ↔ Decimal.readInt64 (ofInt n) = .ok s.bits := by
    obtain ⟨bits⟩ := s
    rw [Snowflake.parse]
    cases Decimal.readInt64 (ofInt n) <;> simp
  rw [asSnowflake, mapError_eq_ok_iff, hparse, readInt64_eq_ok_iff, ofInt, String.toList_ofList,
    Decimal.spelled_writeInt_iff]
  simp

/-! ## Ids of payloads -/

theorem asId_number {v : Json} {n : Int} (h : Number v (Decimal.writeInt n)) {id : UInt64} :
    v.asId = .ok id ↔ (id.toNat : Int) = n := by
  rw [asId_eq_ok_iff]
  rcases number_writeInt h with ⟨-, rfl⟩ | ⟨hn, r, rfl⟩
  · simp [nat, eq_comm]
  · have hid := id.toNat_lt
    have hmin : Int64.minValue.toInt = -9223372036854775808 := rfl
    rw [← Bool.not_eq_true, isInteger_iff] at hn
    simp only [UInt64.size] at *
    simp only [nat, reduceCtorEq, false_and, exists_false, or_self, false_iff]
    omega

theorem asId_ofInt {n : Int} {id : UInt64} : (text (ofInt n)).asId = .ok id ↔ (id.toNat : Int) = n := by
  rw [asId, mapError_eq_ok_iff, readUInt64_eq_ok_iff, ofInt, String.toList_ofList, Decimal.spelled_writeInt_iff]
  constructor
  · exact fun h => h.1
  · rintro rfl
    exact ⟨rfl, fun _ => Int.natCast_nonneg _⟩

/-! ## Values that are read alike -/

theorem toOption_eq_iff {ε α : Type} {x y : Except ε α} : x.toOption = y.toOption ↔ ∀ a, x = .ok a ↔ y = .ok a := by
  cases x with
  | error e => cases y <;> simp [Except.toOption]
  | ok a =>
    cases y with
    | error e => simp [Except.toOption]
    | ok b => simp [Except.toOption]

/-- What goes on alike from what is alike is alike. -/
theorem toOption_bind_congr {ε α β : Type} {x y : Except ε α} {f g : α → Except ε β} (hxy : x.toOption = y.toOption)
    (hfg : ∀ a, (f a).toOption = (g a).toOption) : (x >>= f).toOption = (y >>= g).toOption := by
  cases x with
  | error e =>
    cases y with
    | error e' => rfl
    | ok b => cases hxy
  | ok a =>
    cases y with
    | error e => cases hxy
    | ok b =>
      obtain rfl := Option.some.inj hxy
      exact hfg a

namespace RecordFormat

variable {σ : Type} {f : RecordFormat σ} {name : String} {v w : Json}

theorem toOption_member (hpart : ∀ s, (f.part s name v).toOption = (f.part s name w).toOption)
    (hwhole : v.whole = w.whole) (p : Progress σ) :
    (f.member p (some name, v)).toOption = (f.member p (some name, w)).toOption := by
  rw [member, member, pass, pass, hwhole]
  split
  · split
    · rfl
    · exact toOption_bind_congr (hpart p.state) fun _ => rfl
  · rfl

theorem toOption_positional (hpart : ∀ s, (f.part s name v).toOption = (f.part s name w).toOption) (after : List Json) :
    ∀ (before : List Json) {names : List String} (p : Progress σ), names[before.length]? = some name →
      (f.positional names (before ++ v :: after) p).toOption = (f.positional names (before ++ w :: after) p).toOption
  | _, [], _, h => by cases h
  | [], first :: names, p, h => by
    obtain rfl : first = name := Option.some.inj h
    exact toOption_bind_congr (hpart p.state) fun _ => rfl
  | x :: before, first :: names, p, h =>
    toOption_bind_congr rfl fun s => toOption_positional hpart after before ⟨s, first :: p.seen⟩ h

/-- **A record with one of its values at its place**: as a member, or in an array where the part has its turn. -/
inductive Place (names : List String) (name : String) : (Json → Json) → Prop where
  | member (before after : List (Option String × Json)) :
    Place names name fun v => .object (before ++ (some name, v) :: after)
  | item (before after : List Json) (h : names[before.length]? = some name) :
    Place names name fun v => .array (before ++ v :: after)

/-- **Records that differ in two values that are read alike are read alike.** -/
theorem toOption_read {record : Json → Json} (hplace : Place f.names name record)
    (hpart : ∀ s, (f.part s name v).toOption = (f.part s name w).toOption) (hwhole : v.whole = w.whole) (start : σ) :
    (f.read start (record v)).toOption = (f.read start (record w)).toOption := by
  cases hplace with
  | member before after =>
    rw [read, read, List.foldlM_append, List.foldlM_append]
    refine toOption_bind_congr rfl fun p => ?_
    rw [List.foldlM_cons, List.foldlM_cons]
    exact toOption_bind_congr (toOption_member hpart hwhole p) fun _ => rfl
  | item before after h => exact toOption_positional hpart after before _ h

end RecordFormat

end Json

/-! ## The two forms -/

namespace Wire

open Json (Number RecordFormat.Place)

theorem toOption_member_id {v : Variant} {f : Field} (hf : f ∈ v.fields) (hkind : f.kind = .id) {n : Int} {value : Json}
    (h : Number value (Text.Decimal.writeInt n)) (b : Body) :
    (Body.member v b f.name value).toOption = (Body.member v b f.name (.text (Text.ofInt n))).toOption := by
  have hread : (FieldKind.id.ofJson value).toOption = (FieldKind.id.ofJson (.text (Text.ofInt n))).toOption := by
    simp only [Json.toOption_eq_iff, FieldKind.ofJson, Json.map_eq_ok_iff, Json.asId_number h, Json.asId_ofInt,
      implies_true]
  obtain ⟨i, hi⟩ := List.getElem?_of_mem hf
  rw [Body.member, Body.member, (find_name hi).1, (find_name hi).2]
  simp only [hkind]
  exact Json.toOption_bind_congr hread fun _ => rfl

/-- **A payload with an id in it is read alike from both forms**, wherever the id stands in the record. -/
theorem toOption_ofJson_id {v : Variant} {f : Field} (hf : f ∈ v.fields) (hkind : f.kind = .id) {n : Int} {value : Json}
    (h : Number value (Text.Decimal.writeInt n)) {record : Json → Json}
    (hplace : RecordFormat.Place (v.fields.map (·.name)) f.name record) :
    (v.ofJson (record value)).toOption = (v.ofJson (record (.text (Text.ofInt n)))).toOption := by
  have hwhole : value.whole = true := by
    rcases Json.number_writeInt h with ⟨-, rfl⟩ | ⟨-, r, rfl⟩ <;> rfl
  refine Json.toOption_bind_congr ?_ fun _ => rfl
  exact Json.RecordFormat.toOption_read hplace (toOption_member_id hf hkind h) hwhole []

end Wire

namespace Json

open Text Wire

theorem asSnowflake_alike_iff {v : Json} {n : Int} (h : Number v (Decimal.writeInt n)) :
    v.asSnowflake.toOption = (text (ofInt n)).asSnowflake.toOption ↔
      ¬(Int64.maxValue.toInt < n ∧ n < UInt64.size) := by
  simp only [toOption_eq_iff, asSnowflake_number h, asSnowflake_ofInt]
  constructor
  · rintro halike ⟨hlow, hhigh⟩
    have hbits := toInt_ofInt_past hlow hhigh
    have hself : (Int64.ofInt n).toInt = n := (halike ⟨Int64.ofInt n⟩).1 (.inr ⟨hlow, hhigh, hbits⟩)
    have hsize : (0 : Int) < UInt64.size := by decide
    omega
  · exact fun hsigned s => or_iff_left fun hpast => hsigned ⟨hpast.1, hpast.2.1⟩

/-- **The two forms of an id mean the same, but for a snowflake past the signed numbers.**  For every integer, its
digits in quotes are the snowflake of this number, or none if there is none.  The digits alone are the same, except that
from the first number past the signed ones to the last one of 64 bits they are the negative id with these bits, while
the text is refused.  An id of a payload is read alike from both, on its own and wherever it stands in a record. -/
theorem forms_alike_but_past_signed (n : Int) :
    let number := ofInt n
    let quoted := (str (ofInt n)).render
    (∀ s : Snowflake,
      (readText asSnowflake quoted = .ok s ↔ s.bits.toInt = n) ∧
        (readText asSnowflake number = .ok s ↔
          s.bits.toInt = n ∨ (Int64.maxValue.toInt < n ∧ n < UInt64.size ∧ s.bits.toInt = n - UInt64.size))) ∧
      ((readText asSnowflake number).toOption = (readText asSnowflake quoted).toOption ↔
        ¬(Int64.maxValue.toInt < n ∧ n < UInt64.size)) ∧
      (∀ id : UInt64, (readText asId quoted = .ok id ↔ (id.toNat : Int) = n) ∧
        (readText asId number = .ok id ↔ (id.toNat : Int) = n)) ∧
      ∃ value : Json, readText .ok number = .ok value ∧ readText .ok quoted = .ok (.text (ofInt n)) ∧
        ∀ (v : Variant), ∀ f ∈ v.fields, f.kind = .id →
          ∀ record, RecordFormat.Place (v.fields.map (·.name)) f.name record →
            (v.ofJson (record value)).toOption = (v.ofJson (record (.text (ofInt n)))).toOption := by
  intro number quoted
  obtain ⟨value, hvalue⟩ := exists_number n
  have hnumber : ∀ {α : Type} (read : Json → Except Refusal α), readText read number = read value := fun read =>
    readText_of_document (document_number hvalue)
  have hquoted : ∀ {α : Type} (read : Json → Except Refusal α), readText read quoted = read (.text (ofInt n)) :=
    fun read => readText_render read rfl
  simp only [hnumber, hquoted]
  exact ⟨fun s => ⟨asSnowflake_ofInt, asSnowflake_number hvalue⟩, asSnowflake_alike_iff hvalue,
    fun id => ⟨asId_ofInt, asId_number hvalue⟩, value, rfl, trivial,
    fun v f hf hkind record hplace => toOption_ofJson_id hf hkind hvalue hplace⟩

/-- The first number past the signed ones is taken for the lowest snowflake, and its text is refused. -/
theorem past_signed_taken_for_bits :
    readText asSnowflake "9223372036854775808" = .ok ⟨Int64.minValue⟩ ∧
      readText asSnowflake "\"9223372036854775808\"" = .error (.badSnowflake .invalidFormat) := by
  decide +kernel

end Json
end EventGateway
