import EventGateway.Proofs.Decimals
import EventGateway.Proofs.Trimming
import EventGateway.Scope.Basic
/-!
# Texts of scopes — no two scopes have one text, and a scope that is read is read from its own

A scope is written as its kind and a decimal id; both can be told from the text, so a reply that names a scope by its
text names one scope.  What is read from any text is read again from the text that it is written with (`parse_text`).
-/
namespace EventGateway

namespace Text

theorem Decimal.write_injective {m n : Nat} (h : write m = write n) : m = n := by
  have hread : Nat.ofDigitChars 10 (write m) 0 = Nat.ofDigitChars 10 (write n) 0 := by rw [h]
  rwa [write, write, Nat.ofDigitChars_ten_toDigits, Nat.ofDigitChars_ten_toDigits] at hread

theorem Decimal.minus_not_mem_write (n : Nat) : '-' ∉ write n := fun h => by
  have := Nat.isDigit_of_mem_toDigits (by decide) (by decide) h
  cases this

theorem Decimal.writeInt_injective {m n : Int} (h : writeInt m = writeInt n) : m = n := by
  have hsign : ∀ {j k : Nat}, write j ≠ '-' :: write k := fun {j k} hjk =>
    minus_not_mem_write j (by rw [hjk]; exact List.mem_cons_self)
  cases m with
  | ofNat m =>
    cases n with
    | ofNat n => rw [write_injective h]
    | negSucc n => exact absurd h hsign
  | negSucc m =>
    cases n with
    | ofNat n => exact absurd h.symm hsign
    | negSucc n => rw [Nat.succ.inj (write_injective (List.cons.inj h).2)]

theorem ofInt_injective {m n : Int} (h : ofInt m = ofInt n) : m = n :=
  Decimal.writeInt_injective (String.ofList_injective h)

end Text

theorem Snowflake.text_injective {a b : Snowflake} (h : a.text = b.text) : a = b := by
  obtain ⟨m⟩ := a
  obtain ⟨n⟩ := b
  exact congrArg Snowflake.mk (Int64.toInt_inj.1 (Text.ofInt_injective h))

/-- **A scope can be told from its text**: the kind from the first letter, and the id from what follows the kind. -/
theorem Scope.text_injective {a b : Scope} (h : a.text = b.text) : a = b := by
  have hid : ∀ {kind : String} {m n : Snowflake}, kind ++ ":" ++ m.text = kind ++ ":" ++ n.text → m = n := by
    intro kind m n hmn
    have hlist := congrArg String.toList hmn
    simp only [String.toList_append] at hlist
    exact Snowflake.text_injective (String.toList_inj.1 (List.append_cancel_left hlist))
  have hhead : a.text.toList.head? = b.text.toList.head? := by rw [h]
  cases a with
  | channel m =>
    cases b with
    | channel n => rw [hid h]
    | user n => simp [text, id?, kind] at hhead
    | presence => simp [text, id?, kind] at hhead
  | user m =>
    cases b with
    | channel n => simp [text, id?, kind] at hhead
    | user n => rw [hid h]
    | presence => simp [text, id?, kind] at hhead
  | presence =>
    cases b with
    | channel n => simp [text, id?, kind] at hhead
    | user n => simp [text, id?, kind] at hhead
    | presence => rfl

/-! ## Reading back -/

/-- **An id is read back from its text**, also a negative one. -/
theorem Snowflake.parse_text (s : Snowflake) : parse s.text = .ok s := by
  rw [parse, text, Text.readInt64_ofInt]

theorem Snowflake.trim_text (s : Snowflake) : Text.trim s.text = s.text :=
  Text.trim_eq_self fun _ hc => Text.isBlank_eq_false_of_mem_ofInt hc

namespace Scope

/-- The id, if the scope has one, is positive. -/
def isProper (s : Scope) : Bool := s.id?.all (·.isPositive)

theorem parseId_text {id : Snowflake} (h : id.isPositive = true) : parseId id.text = some id := by
  rw [parseId, Snowflake.trim_text, Snowflake.parse_text]
  exact if_pos h

/-- A text of a kind and an id is read by its parts. -/
theorem parse_parts (kind : String) {id : Snowflake}
    (hplain : kind.toList.all (fun c => c != ':' && !Text.isBlank c) = true) (hid : id.isPositive = true) :
    parse (kind ++ ":" ++ id.text) =
      if kind == "channel" then .ok (.channel id)
      else if kind == "user" then .ok (.user id)
      else .error (.unknownKind kind) := by
  have hkind : ∀ c ∈ kind.toList, c ≠ ':' ∧ Text.isBlank c = false := by simpa using hplain
  have hcut : Text.cutAt ':' (kind ++ ":" ++ id.text) = some (kind, id.text) :=
    Text.cutAt_append fun h => (hkind ':' h).1 rfl
  have hblank : ∀ c ∈ (kind ++ ":" ++ id.text).toList, Text.isBlank c = false := by
    intro c hc
    simp only [String.toList_append, List.mem_append] at hc
    rcases hc with (hc | hc) | hc
    · exact (hkind c hc).2
    · rw [List.mem_singleton.1 (show c ∈ [':'] from hc)]
      rfl
    · exact Text.isBlank_eq_false_of_mem_ofInt hc
  have hpresence : ¬((kind ++ ":" ++ id.text) == "presence") = true := by
    intro h
    have hcolon : ':' ∈ (kind ++ ":" ++ id.text).toList := by simp
    rw [beq_iff_eq.1 h] at hcolon
    exact absurd hcolon (by decide)
  rw [parse, Text.trim_eq_self hblank, if_neg hpresence, hcut]
  simp only [parseId_text hid, Text.trim_eq_self fun c hc => (hkind c hc).2]

/-- **A scope is read back from its text.** -/
theorem parse_text {scope : Scope} (h : scope.isProper = true) : parse scope.text = .ok scope := by
  cases scope with
  | channel id => exact (parse_parts "channel" (by decide) h).trans (if_pos rfl)
  | user id => exact (parse_parts "user" (by decide) h).trans ((if_neg (by decide)).trans (if_pos rfl))
  | presence => rfl

theorem isPositive_of_parseId {raw : String} {id : Snowflake} (h : parseId raw = some id) : id.isPositive = true := by
  unfold parseId at h
  split at h
  · split at h
    · rename_i hpositive
      rwa [← Option.some.inj h]
    · cases h
  · cases h

/-- **Whatever is read is proper.** -/
theorem isProper_of_parse {s : String} {scope : Scope} (h : parse s = .ok scope) : scope.isProper = true := by
  unfold parse at h
  split at h
  · cases h
    rfl
  split at h
  · cases h
  split at h
  · cases h
  · rename_i id hid
    have hpositive := isPositive_of_parseId hid
    split at h
    · cases h
      exact hpositive
    split at h
    · cases h
      exact hpositive
    · cases h

end Scope

end EventGateway
