import EventGateway.Json.Render
import EventGateway.Proofs.JsonScan
/-!
# Documents, written and scanned

What the writer makes of a document that has a written form is one of its spellings (`spells_chars`), so the document is
scanned back from it.
-/
namespace EventGateway.Json

open EventGateway.Text

/-! ## Texts -/

theorem hexDigits_unit : ∀ n < 32, unit? '0' '0' (hexDigit (n / 16)) (hexDigit (n % 16)) = some n := by decide

/-- **An escape is a piece that stands for its character.** -/
theorem exists_piece (c : Char) : ∃ p : Piece, p.Allowed ∧ p.chars = escape c ∧
    ∀ {ps : List Piece} {cs : List Char}, Piece.Spell ps cs → Piece.Spell (p :: ps) (c :: cs) := by
  unfold escape
  by_cases hquote : c = '"'
  · subst hquote; exact ⟨.escape '"' '"', rfl, rfl, .escape⟩
  by_cases hslash : c = '\\'
  · subst hslash; exact ⟨.escape '\\' '\\', rfl, rfl, .escape⟩
  by_cases hb : c = '\x08'
  · subst hb; exact ⟨.escape 'b' '\x08', rfl, rfl, .escape⟩
  by_cases hf : c = '\x0c'
  · subst hf; exact ⟨.escape 'f' '\x0c', rfl, rfl, .escape⟩
  by_cases hn : c = '\n'
  · subst hn; exact ⟨.escape 'n' '\n', rfl, rfl, .escape⟩
  by_cases hr : c = '\r'
  · subst hr; exact ⟨.escape 'r' '\r', rfl, rfl, .escape⟩
  by_cases ht : c = '\t'
  · subst ht; exact ⟨.escape 't' '\t', rfl, rfl, .escape⟩
  by_cases hcontrol : c.toNat < 0x20
  · have hhigh : isHighSurrogate c.toNat = false := by simp [isHighSurrogate]; omega
    have hlow : isLowSurrogate c.toNat = false := by simp [isLowSurrogate]; omega
    refine ⟨.unit '0' '0' (hexDigit (c.toNat / 16)) (hexDigit (c.toNat % 16)) c.toNat, hexDigits_unit _ hcontrol, ?_, ?_⟩
    · simp [Piece.chars, hquote, hslash, hb, hf, hn, hr, ht, hcontrol]
    · intro ps cs h
      have hunit := Piece.Spell.unit (a := '0') (b := '0') (c := hexDigit (c.toNat / 16))
        (d := hexDigit (c.toNat % 16)) hhigh hlow h
      rwa [Char.ofNat_toNat] at hunit
  · exact ⟨.plain c, ⟨hcontrol, hquote, hslash⟩,
      by simp [Piece.chars, hquote, hslash, hb, hf, hn, hr, ht, hcontrol], .plain⟩

theorem exists_pieces : ∀ cs : List Char, ∃ ps : List Piece, (∀ p ∈ ps, p.Allowed) ∧
    ps.flatMap Piece.chars = cs.flatMap escape ∧ Piece.Spell ps cs
  | [] => ⟨[], fun _ hp => (nomatch hp), rfl, .nil⟩
  | c :: cs => by
    obtain ⟨p, hp, hchars, hspell⟩ := exists_piece c
    obtain ⟨ps, hps, hflat, hcs⟩ := exists_pieces cs
    refine ⟨p :: ps, fun q hq => ?_, ?_, hspell hcs⟩
    · rcases List.mem_cons.1 hq with rfl | hq
      · exact hp
      · exact hps q hq
    · rw [List.flatMap_cons, List.flatMap_cons, hchars, hflat]

theorem quoted_quote (s : String) : Quoted (.text s) (quote s) := by
  obtain ⟨ps, hps, hflat, hs⟩ := exists_pieces s.toList
  rw [quote, ← hflat]
  exact .text hps hs

/-! ## Documents -/

mutual

/-- Whether a document has a written form. -/
def plain : Json → Bool
  | .integer n => isInteger n
  | .real _ | .garbled _ | .cut => false
  | .array items => plainItems items
  | .object members => plainMembers members
  | _ => true

def plainItems : List Json → Bool
  | [] => true
  | v :: rest => v.plain && plainItems rest

def plainMembers : List (Option String × Json) → Bool
  | [] => true
  | (name, v) :: rest => name.isSome && v.plain && plainMembers rest

end

theorem isInteger_int64 (n : Int64) : isInteger n.toInt = true := by
  have hlow := n.minValue_le_toInt
  have hhigh := n.toInt_lt
  simp only [isInteger, Bool.and_eq_true, decide_eq_true_eq, UInt64.size]
  omega

theorem isInteger_uint64 (n : UInt64) : isInteger n.toNat = true := by
  have hlow : Int64.minValue.toInt ≤ 0 := by decide
  have hhigh := n.toNat_lt
  simp only [isInteger, Bool.and_eq_true, decide_eq_true_eq, UInt64.size]
  omega

theorem SpellsMember.tight {name : String} {v : Json} {cs : List Char} (h : Spells v cs) :
    SpellsMember (some name, v) (quote name ++ ':' :: cs) := by
  have hmember := SpellsMember.mk space_nil (quoted_quote name) space_nil space_nil h space_nil
  rwa [List.nil_append, List.nil_append, List.append_nil, List.append_nil] at hmember

mutual

/-- **The written form of a document spells it.** -/
theorem spells_chars : ∀ {v : Json}, v.plain = true → Spells v v.chars
  | .null, _ => .null
  | .bool true, _ => .yes
  | .bool false, _ => .no
  | .integer _, h => .number (.integer h)
  | .text s, _ => .text (quoted_quote s)
  | .array [], _ => .emptyArray space_nil
  | .array (v :: vs), h => .array (spells_charsOfItems (List.cons_ne_nil v vs) h)
  | .object [], _ => .emptyObject space_nil
  | .object (m :: ms), h => .object (spells_charsOfMembers (List.cons_ne_nil m ms) h)
  | .real _, h | .garbled _, h | .cut, h => by cases h

theorem spells_charsOfItems : ∀ {vs : List Json}, vs ≠ [] → plainItems vs = true → SpellsItems vs (charsOfItems vs)
  | [], h, _ => absurd rfl h
  | [v], _, h => by
    rw [plainItems, Bool.and_eq_true] at h
    have hlast := SpellsItems.last space_nil (spells_chars h.1) space_nil
    rwa [List.nil_append, List.append_nil] at hlast
  | v :: w :: vs, _, h => by
    rw [plainItems, Bool.and_eq_true] at h
    have hrest := spells_charsOfItems (List.cons_ne_nil w vs) h.2
    have hcons := SpellsItems.cons space_nil (spells_chars h.1) space_nil hrest
    rwa [List.nil_append, List.append_nil, ← charsOfItems.eq_3 _ _ (by simp)] at hcons

theorem spells_charsOfMembers : ∀ {ms : List (Option String × Json)}, ms ≠ [] → plainMembers ms = true →
    SpellsMembers ms (charsOfMembers ms)
  | [], h, _ => absurd rfl h
  | (none, _) :: _, _, h => by simp [plainMembers] at h
  | [(some name, v)], _, h => by
    rw [plainMembers, Bool.and_eq_true, Bool.and_eq_true] at h
    exact .last (.tight (spells_chars h.1.2))
  | (some name, v) :: m :: ms, _, h => by
    rw [plainMembers, Bool.and_eq_true, Bool.and_eq_true] at h
    have hrest := spells_charsOfMembers (List.cons_ne_nil m ms) h.2
    rw [charsOfMembers.eq_3 _ _ _ (by simp)]
    exact .cons (.tight (spells_chars h.1.2)) hrest

end

theorem whole_of_plain {v : Json} (h : v.plain = true) : v.whole = true := (spells_chars h).whole

theorem document_of_render {v : Json} {t : String} (hv : v.plain = true) (ht : v.render = t) : Document v t.toList := by
  subst ht
  refine ⟨[], v.chars, [], ?_, space_nil, spells_chars hv, space_nil⟩
  rw [List.nil_append, List.append_nil, render, String.toList_ofList]

/-- **A written document is read as what was written.** -/
theorem readText_render {α : Type} (read : Json → Except Refusal α) {v : Json} (hv : v.plain = true) :
    readText read v.render = read v :=
  readText_of_document (document_of_render hv rfl)

end EventGateway.Json
