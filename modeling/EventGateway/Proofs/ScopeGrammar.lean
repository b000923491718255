import EventGateway.Proofs.Numerals
import EventGateway.Proofs.ScopeText
/-!
# The grammar of scopes — which texts are read as a scope, and as which

A scope is read from the word presence, or from a kind and an id on the two sides of the first colon, with any white
space around each of them; every other text is refused for the first thing that is wrong with it (`parse_eq_iff`).  The
text that a scope is written with is one of those that are read as this scope, unless its id is not positive
(`text_read_and_written`).
-/
namespace EventGateway

open Text (Padded)

namespace Scope

/-! ## Ids -/

/-- The text of an id: a decimal number that is positive. -/
def SpellsId (raw : String) (id : Snowflake) : Prop :=
  ∃ number : String, Padded number raw ∧ Text.Decimal.Spelled true number.toList id.bits.toInt ∧ 0 < id.bits.toInt

theorem isPositive_iff {id : Snowflake} : id.isPositive = true ↔ 0 < id.bits.toInt := by
  rw [Snowflake.isPositive, decide_eq_true_eq, Int64.lt_iff_toInt_lt]
  rfl

theorem isBlank_eq_false_of_spelled {signed : Bool} {cs : List Char} {n : Int} (h : Text.Decimal.Spelled signed cs n) :
    ∀ c ∈ cs, Text.isBlank c = false := by
  have hdigits : ∀ {cs : List Char} {n : Nat}, Text.Decimal.Digits cs n → ∀ c ∈ cs, Text.isBlank c = false :=
    fun h c hc => Text.Decimal.isBlank_eq_false_of_isDigit (h.digits c hc)
  cases h with
  | plain h => exact hdigits h
  | plus h => exact List.forall_mem_cons.2 ⟨by decide, hdigits h⟩
  | minus _ h => exact List.forall_mem_cons.2 ⟨by decide, hdigits h⟩

/-- **An id is read from a positive number with white space around it**, and from nothing else. -/
theorem parseId_eq_some_iff {raw : String} {id : Snowflake} : parseId raw = some id ↔ SpellsId raw id := by
  have hparse : parseId raw = some id ↔
      Text.Decimal.Spelled true (Text.trim raw).toList id.bits.toInt ∧ 0 < id.bits.toInt := by
    rw [← Text.readInt64_eq_ok_iff, ← isPositive_iff, parseId, Snowflake.parse]
    obtain ⟨bits⟩ := id
    cases Text.Decimal.readInt64 (Text.trim raw) with
    | error e => simp
    | ok n =>
      have hsome : (if (Snowflake.mk n).isPositive then some (Snowflake.mk n) else none) = some ⟨bits⟩ ↔
          n = bits ∧ (Snowflake.mk bits).isPositive = true := by
        rw [Option.ite_none_right_eq_some, Option.some.injEq, Snowflake.mk.injEq]
        exact ⟨fun h => ⟨h.2, h.2 ▸ h.1⟩, fun h => ⟨h.1 ▸ h.2, h.1⟩⟩
      rw [Except.ok.injEq]
      exact hsome
  rw [hparse]
  constructor
  · intro h
    exact ⟨_, Text.padded_trim raw, h⟩
  · rintro ⟨number, hpadded, hspelled, hpositive⟩
    have hself := Text.trim_eq_self (isBlank_eq_false_of_spelled hspelled)
    rw [(Text.trim_eq_iff hself).2 hpadded]
    exact ⟨hspelled, hpositive⟩

theorem spellsId_text_iff {id other : Snowflake} : SpellsId id.text other ↔ id = other ∧ 0 < id.bits.toInt := by
  have hparse : parseId id.text = if id.isPositive then some id else none := by
    rw [parseId, Snowflake.trim_text, Snowflake.parse_text]
  rw [← parseId_eq_some_iff, hparse, Option.ite_none_right_eq_some, Option.some.injEq, isPositive_iff, and_comm]

/-! ## Scopes -/

/-- The two sides of the first colon. -/
structure Cut (s kind raw : String) : Prop where
  eq : s = kind ++ ":" ++ raw
  first : ':' ∉ kind.toList

/-- **What becomes of a text.**  A scope is named by the word presence, or by a kind and an id on the two sides of the
first colon, with any white space around each of them.  Of what is wrong with a text, the missing colon counts first and
the kind last. -/
inductive Reading (s : String) : Except ParseError Scope → Prop where
  | presence (h : Padded "presence" s) : Reading s (.ok .presence)
  | uncut (hpresence : ¬Padded "presence" s) (hcolon : ':' ∉ s.toList) : Reading s (.error (.missingSeparator s))
  | badId {kind raw : String} (h : Cut s kind raw) (hid : ∀ id, ¬SpellsId raw id) : Reading s (.error (.invalidId raw))
  | channel {kind raw : String} {id : Snowflake} (h : Cut s kind raw) (hid : SpellsId raw id)
    (hkind : Padded "channel" kind) : Reading s (.ok (.channel id))
  | user {kind raw : String} {id : Snowflake} (h : Cut s kind raw) (hid : SpellsId raw id)
    (hkind : Padded "user" kind) : Reading s (.ok (.user id))
  | badKind {kind raw : String} {id : Snowflake} (h : Cut s kind raw) (hid : SpellsId raw id)
    (hchannel : ¬Padded "channel" kind) (huser : ¬Padded "user" kind) :
    Reading s (.error (.unknownKind (Text.trim kind)))

theorem cutAt_iff {s kind raw : String} : Text.cutAt ':' s = some (kind, raw) ↔ Cut s kind raw := by
  rw [Text.cutAt_eq_some_iff]
  exact ⟨fun h => ⟨h.1, h.2⟩, fun h => ⟨h.eq, h.first⟩⟩

theorem trim_beq_iff {word s : String} (hword : Text.trim word = word) :
    (Text.trim s == word) = true ↔ Padded word s := by
  rw [beq_iff_eq, Text.trim_eq_iff hword]

/-- There is no colon in the word presence, and none in white space. -/
theorem Cut.not_presence {s kind raw : String} (h : Cut s kind raw) : ¬Padded "presence" s := by
  rintro ⟨before, after, hbefore, hafter, rfl⟩
  have hblank : ∀ {t : String}, Text.isAllBlank t = true → ':' ∉ t.toList := fun ht hc => by
    cases List.all_eq_true.1 ht _ hc
  have hword : ':' ∉ "presence".toList := by decide
  have hcolon : ':' ∈ (before ++ "presence" ++ after).toList := by simp [h.eq]
  simp only [String.toList_append, List.mem_append] at hcolon
  exact hcolon.elim (fun h => h.elim (hblank hbefore) hword) (hblank hafter)

/-- **What stands behind the colon decides first.** -/
theorem parse_of_badId {s kind raw : String} (h : Cut s kind raw) (hid : ∀ id, ¬SpellsId raw id) :
    parse s = .error (.invalidId raw) := by
  have hnone : parseId raw = none := Option.eq_none_iff_forall_ne_some.2 fun id => mt parseId_eq_some_iff.1 (hid id)
  rw [parse, if_neg (mt (trim_beq_iff (by decide)).1 h.not_presence), cutAt_iff.2 h]
  simp only [hnone]

/-- Then it is for the kind. -/
theorem parse_of_spellsId {s kind raw : String} (h : Cut s kind raw) {id : Snowflake} (hid : SpellsId raw id) :
    parse s = if Text.trim kind == "channel" then .ok (.channel id)
      else if Text.trim kind == "user" then .ok (.user id)
      else .error (.unknownKind (Text.trim kind)) := by
  rw [parse, if_neg (mt (trim_beq_iff (by decide)).1 h.not_presence), cutAt_iff.2 h]
  simp only [parseId_eq_some_iff.2 hid]

theorem parse_of_reading {s : String} {answer : Except ParseError Scope} (h : Reading s answer) : parse s = answer := by
  cases h with
  | presence h => rw [parse, if_pos ((trim_beq_iff (by decide)).2 h)]
  | uncut hpresence hcolon =>
    rw [parse, if_neg (mt (trim_beq_iff (by decide)).1 hpresence), Text.cutAt_eq_none_iff.2 hcolon]
  | badId h hid => exact parse_of_badId h hid
  | channel h hid hkind => rw [parse_of_spellsId h hid, if_pos ((trim_beq_iff (by decide)).2 hkind)]
  | user h hid hkind =>
    have htrim := (Text.trim_eq_iff (by decide)).2 hkind
    rw [parse_of_spellsId h hid, htrim, if_neg (by decide), if_pos (by decide)]
  | badKind h hid hchannel huser =>
    rw [parse_of_spellsId h hid, if_neg (mt (trim_beq_iff (by decide)).1 hchannel),
      if_neg (mt (trim_beq_iff (by decide)).1 huser)]

theorem exists_reading (s : String) : ∃ answer, Reading s answer := by
  by_cases hpresence : Padded "presence" s
  · exact ⟨_, .presence hpresence⟩
  cases hcut : Text.cutAt ':' s with
  | none => exact ⟨_, .uncut hpresence (Text.cutAt_eq_none_iff.1 hcut)⟩
  | some parts =>
    have h : Cut s parts.1 parts.2 := cutAt_iff.1 hcut
    by_cases hid : ∃ id, SpellsId parts.2 id
    · obtain ⟨id, hid⟩ := hid
      by_cases hchannel : Padded "channel" parts.1
      · exact ⟨_, .channel h hid hchannel⟩
      by_cases huser : Padded "user" parts.1
      · exact ⟨_, .user h hid huser⟩
      · exact ⟨_, .badKind h hid hchannel huser⟩
    · exact ⟨_, .badId h fun id hspells => hid ⟨id, hspells⟩⟩

/-- **A text is read as the grammar says**, and refused as it says. -/
theorem parse_eq_iff {s : String} {answer : Except ParseError Scope} : parse s = answer ↔ Reading s answer := by
  refine ⟨fun h => ?_, parse_of_reading⟩
  obtain ⟨answer', hanswer⟩ := exists_reading s
  rwa [← h, parse_of_reading hanswer]

example : parse " user :\t+007\n" = .ok (.user ⟨7⟩) ∧ parse "guild:-1:2" = .error (.invalidId "-1:2") := ⟨rfl, rfl⟩

/-! ## Written texts -/

theorem isProper_iff {scope : Scope} :
    scope.isProper = true ↔ scope = .presence ∨ ∃ id, scope.id? = some id ∧ 0 < id.bits.toInt := by
  cases scope with
  | channel id => simp [isProper, id?, isPositive_iff]
  | user id => simp [isProper, id?, isPositive_iff]
  | presence => simp [isProper, id?]

theorem cut_text {scope : Scope} {id : Snowflake} (h : scope.id? = some id) : Cut scope.text scope.kind id.text := by
  have hkind : ∀ kind ∈ ["channel", "user", "presence"], ':' ∉ kind.toList := by decide
  exact ⟨by rw [text, h], hkind _ (by cases scope <;> simp [kind])⟩

/-- A scope that is read from its text at all is proper: the id is read back, and has to be positive. -/
theorem isProper_of_parse_text {scope read : Scope} (h : parse scope.text = .ok read) : scope.isProper = true := by
  cases hid : scope.id? with
  | none => rw [isProper, hid]; rfl
  | some id =>
    by_cases hpositive : 0 < id.bits.toInt
    · exact isProper_iff.2 (.inr ⟨id, hid, hpositive⟩)
    · have hbad : ∀ other, ¬SpellsId id.text other := fun other hother => hpositive (spellsId_text_iff.1 hother).2
      rw [parse_of_badId (cut_text hid) hbad] at h
      cases h

/-- **Texts are read exactly, and scopes are written in a form of their own.**  What becomes of a text is what the
grammar says; what is read from any text is read again from the text that it is written with; no two scopes are written
alike; and of all scopes, those that are read from their text at all, and then as themselves, are presence and those
with a positive id. -/
theorem text_read_and_written :
    (∀ (s : String) (answer : Except ParseError Scope), parse s = answer ↔ Reading s answer) ∧
      (∀ (s : String) (scope : Scope), parse s = .ok scope → parse scope.text = .ok scope) ∧
      (∀ a b : Scope, a.text = b.text → a = b) ∧
      ∀ scope : Scope,
        ((∃ read, parse scope.text = .ok read) ↔ scope = .presence ∨ ∃ id, scope.id? = some id ∧ 0 < id.bits.toInt) ∧
          (parse scope.text = .ok scope ↔ scope = .presence ∨ ∃ id, scope.id? = some id ∧ 0 < id.bits.toInt) := by
  refine ⟨fun s answer => parse_eq_iff, fun s scope h => parse_text (isProper_of_parse h), fun a b => text_injective,
    fun scope => ?_⟩
  rw [← isProper_iff]
  refine ⟨⟨?_, fun h => ⟨scope, parse_text h⟩⟩, isProper_of_parse_text, parse_text⟩
  rintro ⟨read, h⟩
  exact isProper_of_parse_text h

end Scope
end EventGateway
