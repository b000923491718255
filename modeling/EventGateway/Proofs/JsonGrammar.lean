import EventGateway.Json.Record
import EventGateway.Proofs.Decimals
/-!
# The grammar of JSON — how texts and numbers are spelled

What white space, texts and numbers look like, written down without regard to the scanner.  The scanner reads them as
what they are (`Quoted.scanned`, `Number.scanned`), and reads nothing else (`quoted_of_scanned`, `number_of_scanned`).
-/
namespace EventGateway.Json

open EventGateway.Text

/-! ## White space -/

/-- White space between the parts of a document. -/
def Space (cs : List Char) : Prop := ∀ c ∈ cs, c = ' ' ∨ c = '\t' ∨ c = '\n' ∨ c = '\r'

theorem space_nil : Space [] := fun _ h => nomatch h

theorem isSpace_iff {c : Char} : isSpace (some c) = true ↔ c = ' ' ∨ c = '\t' ∨ c = '\n' ∨ c = '\r' := by
  simp [isSpace, or_assoc]

theorem skipSpace_append {before : List Char} (h : Space before) (rest : Source) :
    skipSpace (before.map some ++ rest) = skipSpace rest := by
  refine List.dropWhile_append_of_pos fun c hc => ?_
  obtain ⟨d, hd, rfl⟩ := List.mem_map.1 hc
  exact isSpace_iff.2 (h d hd)

theorem skipSpace_cons {c : Char} (h : isSpace (some c) = false) (rest : Source) :
    skipSpace (some c :: rest) = some c :: rest := by
  simp [skipSpace, h]

/-- What is skipped is white space. -/
theorem skipSpace_map : ∀ cs : List Char, ∃ before after, cs = before ++ after ∧ Space before ∧
    skipSpace (cs.map some) = after.map some
  | [] => ⟨[], [], rfl, space_nil, rfl⟩
  | c :: cs => by
    cases hc : isSpace (some c) with
    | false => exact ⟨[], c :: cs, rfl, space_nil, skipSpace_cons hc _⟩
    | true =>
      obtain ⟨before, after, hcs, hbefore, hskip⟩ := skipSpace_map cs
      refine ⟨c :: before, after, by rw [hcs, List.cons_append], ?_, ?_⟩
      · intro d hd
        rcases List.mem_cons.1 hd with rfl | hd
        · exact isSpace_iff.1 hc
        · exact hbefore d hd
      · rw [← hskip]
        exact List.dropWhile_cons_of_pos hc

/-! ## Texts -/

/-- A piece of a text between its quotes: a character that stands for itself, a backslash and a letter for a character,
or a backslash and four hexadecimal digits for a unit of UTF-16. -/
inductive Piece where
  | plain (c : Char)
  | escape (letter c : Char)
  | unit (a b c d : Char) (u : Nat)

namespace Piece

def chars : Piece → List Char
  | plain c => [c]
  | escape letter _ => ['\\', letter]
  | unit a b c d _ => ['\\', 'u', a, b, c, d]

def Allowed : Piece → Prop
  | plain c => ¬c.toNat < 0x20 ∧ c ≠ '"' ∧ c ≠ '\\'
  | escape letter c => escaped? letter = some c
  | unit a b c d u => unit? a b c d = some u

/-- **What pieces spell.**  A high surrogate and the low one after it are one character; alone they are none. -/
inductive Spell : List Piece → List Char → Prop where
  | nil : Spell [] []
  | plain {c ps cs} (h : Spell ps cs) : Spell (plain c :: ps) (c :: cs)
  | escape {letter c ps cs} (h : Spell ps cs) : Spell (escape letter c :: ps) (c :: cs)
  | unit {a b c d u ps cs} (hhigh : isHighSurrogate u = false) (hlow : isLowSurrogate u = false) (h : Spell ps cs) :
    Spell (unit a b c d u :: ps) (Char.ofNat u :: cs)
  | pair {a b c d a' b' c' d' high low ps cs} (hhigh : isHighSurrogate high = true) (hlow : isLowSurrogate low = true)
    (h : Spell ps cs) :
    Spell (unit a b c d high :: unit a' b' c' d' low :: ps) (pairOf high low :: cs)

/-- How the scanner takes a piece in. -/
def take (seen : Spelling) : Piece → Spelling
  | plain c => seen.char (some c)
  | escape _ c => seen.char (some c)
  | unit _ _ _ _ u => seen.unit u

theorem foldl_take_of_spell {ps : List Piece} {cs : List Char} (h : Spell ps cs) (seen : List (Option Char)) :
    ps.foldl take (some (seen, none)) = some ((cs.map some).reverse ++ seen, none) := by
  induction h generalizing seen with
  | nil => rfl
  | plain _ ih => simp [take, Spelling.char, ih]
  | escape _ ih => simp [take, Spelling.char, ih]
  | unit hhigh hlow _ ih => simp [take, Spelling.unit, hhigh, hlow, ih]
  | pair hhigh hlow _ ih => simp [take, Spelling.unit, hhigh, hlow, ih]

end Piece

/-- What the scanner makes of the pieces of a text. -/
def spelled (ps : List Piece) : Json := Spelling.done (ps.foldl Piece.take (some ([], none)))

theorem mapM_id_map_some (cs : List Char) : (cs.map some).mapM id = some cs := by
  induction cs with
  | nil => rfl
  | cons c cs ih => simp [ih]

theorem spelled_of_spell {ps : List Piece} {s : String} (h : Piece.Spell ps s.toList) : spelled ps = .text s := by
  rw [spelled, Piece.foldl_take_of_spell h, List.append_nil, Spelling.done, List.reverse_reverse, mapM_id_map_some]
  show text (String.ofList s.toList) = text s
  rw [String.ofList_toList]

/-- A text in quotes. -/
inductive Quoted : Json → List Char → Prop where
  | text {ps : List Piece} {s : String} (h : ∀ p ∈ ps, p.Allowed) (hs : Piece.Spell ps s.toList) :
    Quoted (.text s) ('"' :: ps.flatMap Piece.chars ++ ['"'])
  | garbled {ps : List Piece} (h : ∀ p ∈ ps, p.Allowed) (hs : ∀ cs, ¬ Piece.Spell ps cs) :
    Quoted (spelled ps) ('"' :: ps.flatMap Piece.chars ++ ['"'])

theorem quoted_iff {v : Json} {cs : List Char} : Quoted v cs ↔
    ∃ ps : List Piece, (∀ p ∈ ps, p.Allowed) ∧ v = spelled ps ∧ cs = '"' :: ps.flatMap Piece.chars ++ ['"'] := by
  constructor
  · intro h
    cases h with
    | text h hs => exact ⟨_, h, (spelled_of_spell hs).symm, rfl⟩
    | garbled h => exact ⟨_, h, rfl, rfl⟩
  · rintro ⟨ps, h, rfl, rfl⟩
    by_cases hs : ∃ cs, Piece.Spell ps cs
    · obtain ⟨cs, hs⟩ := hs
      have hlist : Piece.Spell ps (String.ofList cs).toList := by rwa [String.toList_ofList]
      rw [spelled_of_spell hlist]
      exact .text h hlist
    · exact .garbled h fun cs hcs => hs ⟨cs, hcs⟩

/-! ### The scanner of texts -/

theorem textBody_plain {c : Char} (hcontrol : ¬c.toNat < 0x20) (hquote : c ≠ '"') (hslash : c ≠ '\\') (seen : Spelling)
    (rest : Source) : textBody seen (some c :: rest) = textBody (seen.char c) rest := by
  -- The patterns of the scanner overlap, so the plain one comes with what the others leave.
  rw [textBody.eq_def]
  split
  case h_5 d tail _ _ _ h =>
    obtain ⟨rfl, rfl⟩ : c = d ∧ rest = tail := by simpa using h
    rw [if_neg (by simp [hcontrol, hslash])]
  all_goals simp_all

theorem textBody_letter {letter c : Char} (h : escaped? letter = some c) (seen : Spelling) (rest : Source) :
    textBody seen (some '\\' :: some letter :: rest) = textBody (seen.char c) rest := by
  unfold escaped? at h
  split at h <;> cases h <;> rfl

theorem textBody_piece {p : Piece} (h : p.Allowed) (seen : Spelling) (rest : Source) :
    textBody seen (p.chars.map some ++ rest) = textBody (p.take seen) rest := by
  cases p with
  | plain c => exact textBody_plain h.1 h.2.1 h.2.2 seen rest
  | escape letter c => exact textBody_letter h seen rest
  | unit a b c d u =>
    have hunit : unit? a b c d = some u := h
    simp [Piece.chars, Piece.take, textBody, hunit]

theorem textBody_pieces : ∀ {ps : List Piece}, (∀ p ∈ ps, p.Allowed) → ∀ (seen : Spelling) (rest : Source),
    textBody seen ((ps.flatMap Piece.chars).map some ++ some '"' :: rest) =
      some ((ps.foldl Piece.take seen).done, rest)
  | [], _, seen, rest => by simp [textBody]
  | p :: ps, h, seen, rest => by
    rw [List.flatMap_cons, List.map_append, List.append_assoc, textBody_piece (h p List.mem_cons_self),
      textBody_pieces (fun q hq => h q (List.mem_cons_of_mem _ hq))]
    rfl

/-- **A text in quotes is scanned as what it spells**, whatever stands behind. -/
theorem Quoted.scanned {v : Json} {cs : List Char} (h : Quoted v cs) (rest : Source) :
    ∃ body, cs.map some ++ rest = some '"' :: body ∧ quoted body = some (v, rest) := by
  obtain ⟨ps, hps, rfl, rfl⟩ := quoted_iff.1 h
  refine ⟨(ps.flatMap Piece.chars).map some ++ some '"' :: rest, by simp, ?_⟩
  exact textBody_pieces hps _ rest

theorem map_some_eq_cons {cs : List Char} {c : Char} {rest : Source} (h : cs.map some = some c :: rest) :
    ∃ tail, cs = c :: tail ∧ rest = tail.map some := by
  cases cs with
  | nil => cases h
  | cons d tail =>
    obtain ⟨hd, htail⟩ := List.cons.inj h
    exact ⟨tail, by rw [Option.some.inj hd], htail.symm⟩

/-- A piece in front of what has been read. -/
theorem pieces_cons {p : Piece} (hp : p.Allowed) {seen : Spelling} {cs : List Char} {v : Json} {rest : Source}
    (h : ∃ (ps : List Piece) (after : List Char), cs = ps.flatMap Piece.chars ++ '"' :: after ∧ rest = after.map some ∧
      (∀ p ∈ ps, p.Allowed) ∧ v = (ps.foldl Piece.take (p.take seen)).done) :
    ∃ (ps : List Piece) (after : List Char), p.chars ++ cs = ps.flatMap Piece.chars ++ '"' :: after ∧
      rest = after.map some ∧ (∀ p ∈ ps, p.Allowed) ∧ v = (ps.foldl Piece.take seen).done := by
  obtain ⟨ps, after, hcs, hrest, hps, hv⟩ := h
  refine ⟨p :: ps, after, by rw [hcs, List.flatMap_cons, List.append_assoc], hrest, fun q hq => ?_, hv⟩
  rcases List.mem_cons.1 hq with rfl | hq
  · exact hp
  · exact hps q hq

/-- What is scanned up to the closing quote consists of pieces. -/
theorem pieces_of_textBody {seen : Spelling} {src : Source} {v : Json} {rest : Source}
    (h : textBody seen src = some (v, rest)) {cs : List Char} (hsrc : src = cs.map some) :
    ∃ (ps : List Piece) (after : List Char), cs = ps.flatMap Piece.chars ++ '"' :: after ∧ rest = after.map some ∧
      (∀ p ∈ ps, p.Allowed) ∧ v = (ps.foldl Piece.take seen).done := by
  fun_induction textBody seen src generalizing cs with
  | case1 => cases h
  | case2 seen rest' =>
    cases h
    obtain ⟨after, rfl, rfl⟩ := map_some_eq_cons hsrc.symm
    exact ⟨[], after, rfl, rfl, fun _ hp => (nomatch hp), rfl⟩
  | case3 => cases h
  | case4 seen a b c d rest' u hunit ih =>
    obtain ⟨_, rfl, h₁⟩ := map_some_eq_cons hsrc.symm
    obtain ⟨_, rfl, h₂⟩ := map_some_eq_cons h₁.symm
    obtain ⟨_, rfl, h₃⟩ := map_some_eq_cons h₂.symm
    obtain ⟨_, rfl, h₄⟩ := map_some_eq_cons h₃.symm
    obtain ⟨_, rfl, h₅⟩ := map_some_eq_cons h₄.symm
    obtain ⟨after, rfl, h₆⟩ := map_some_eq_cons h₅.symm
    exact pieces_cons (p := .unit a b c d u) hunit (ih h h₆)
  | case5 => cases h
  | case6 seen letter rest' _ c hletter ih =>
    obtain ⟨_, rfl, h₁⟩ := map_some_eq_cons hsrc.symm
    obtain ⟨after, rfl, h₂⟩ := map_some_eq_cons h₁.symm
    exact pieces_cons (p := .escape letter c) hletter (ih h h₂)
  | case7 => cases h
  | case8 seen c rest' hquote _ _ hplain ih =>
    obtain ⟨after, rfl, h₁⟩ := map_some_eq_cons hsrc.symm
    simp only [Bool.or_eq_true, decide_eq_true_eq, beq_iff_eq, not_or] at hplain
    exact pieces_cons (p := .plain c) ⟨hplain.1, hquote, hplain.2⟩ (ih h h₁)
  | case9 seen rest' ih =>
    cases cs <;> cases hsrc

/-- **A text that is scanned is a text in quotes.** -/
theorem quoted_of_scanned {cs : List Char} {v : Json} {rest : Source} (h : quoted (cs.map some) = some (v, rest)) :
    ∃ pre after, '"' :: cs = pre ++ after ∧ rest = after.map some ∧ Quoted v pre := by
  obtain ⟨ps, after, rfl, rfl, hps, rfl⟩ := pieces_of_textBody h rfl
  exact ⟨'"' :: ps.flatMap Piece.chars ++ ['"'], after, by simp, rfl, quoted_iff.2 ⟨ps, hps, rfl, rfl⟩⟩

/-! ## Numbers -/

/-- A run of digits, and at least one. -/
def Digits (ds : List Char) : Prop := ds ≠ [] ∧ ∀ c ∈ ds, Decimal.isDigit c = true

/-- Digits of which none is a superfluous zero. -/
def Whole (ds : List Char) : Prop := Digits ds ∧ ∀ cs, ds = '0' :: cs → cs = []

/-- The digits behind the point, and how they are spelled with it. -/
inductive Fraction : List Char → List Char → Prop where
  | none : Fraction [] []
  | digits {ds : List Char} (h : Digits ds) : Fraction ds ('.' :: ds)

/-- An exponent, with its sign first, and how it is spelled. -/
inductive Exponent : Option (Bool × List Char) → List Char → Prop where
  | none : Exponent none []
  | bare {e : Char} {ds : List Char} (he : e = 'e' ∨ e = 'E') (h : Digits ds) : Exponent (some (false, ds)) (e :: ds)
  | plus {e : Char} {ds : List Char} (he : e = 'e' ∨ e = 'E') (h : Digits ds) :
    Exponent (some (false, ds)) (e :: '+' :: ds)
  | minus {e : Char} {ds : List Char} (he : e = 'e' ∨ e = 'E') (h : Digits ds) :
    Exponent (some (true, ds)) (e :: '-' :: ds)

inductive Numeral.Written : Numeral → List Char → Prop where
  | mk (negative : Bool) {whole fraction fs es : List Char} {exponent : Option (Bool × List Char)} (hw : Whole whole)
    (hf : Fraction fraction fs) (he : Exponent exponent es) :
    Written ⟨negative, whole, fraction, exponent⟩ ((if negative then ['-'] else []) ++ (whole ++ fs ++ es))

/-- Whether an integer is one of those that a document has. -/
def isInteger (n : Int) : Bool := Int64.minValue.toInt ≤ n && n < UInt64.size

/-- **An integer is spelled in one way only**: as its digits, behind a minus sign if it is negative.  Any other number,
also one with a point or an exponent that comes to an integer, is none. -/
inductive Number : Json → List Char → Prop where
  | integer {n : Int} (h : isInteger n = true) : Number (.integer n) (Decimal.writeInt n)
  | real {n : Numeral} {cs : List Char} (h : n.Written cs) (hreal : n.integer? = none) : Number (.real n.reach) cs

theorem digits_write (n : Nat) : Whole (Decimal.write n) :=
  ⟨⟨Decimal.write_ne_nil n, fun _ hc => Decimal.isDigit_of_mem_write hc⟩, fun _ h => Decimal.write_eq_zero_cons h⟩

theorem written_digits (negative : Bool) (n : Nat) : Numeral.Written ⟨negative, Decimal.write n, [], none⟩
    ((if negative then ['-'] else []) ++ Decimal.write n) := by
  have hwritten := Numeral.Written.mk negative (digits_write n) .none .none
  rwa [List.append_nil, List.append_nil] at hwritten

/-- The numeral that an integer is written as. -/
theorem exists_numeral {n : Int} (h : isInteger n = true) :
    ∃ m : Numeral, m.Written (Decimal.writeInt n) ∧ m.json = .integer n := by
  obtain ⟨hlow, hhigh⟩ : -9223372036854775808 ≤ n ∧ n < 18446744073709551616 := by
    simpa [isInteger, UInt64.size] using h
  cases n with
  | ofNat n =>
    have hfits : n < UInt64.size := by
      rw [Int.ofNat_eq_natCast] at hhigh
      simp only [UInt64.size]
      omega
    exact ⟨_, written_digits false n, by simp [Numeral.json, Numeral.integer?, Decimal.value_write, hfits]⟩
  | negSucc n =>
    have hfits : n + 1 ≤ 1 <<< 63 := by
      rw [Int.negSucc_eq] at hlow
      simp only [Nat.reduceShiftLeft]
      omega
    have hinteger : Numeral.integer? ⟨true, Decimal.write (n + 1), [], none⟩ = some (-((n + 1 : Nat) : Int)) := by
      rw [Numeral.integer?, if_neg (by simp), Decimal.value_write, if_pos rfl, if_pos ⟨Nat.succ_pos n, hfits⟩]
    exact ⟨_, written_digits true (n + 1), by simp [Numeral.json, hinteger, Int.negSucc_eq]⟩

/-- A numeral that is an integer is spelled as the integer is written. -/
theorem Numeral.Written.eq_writeInt {m : Numeral} {cs : List Char} {n : Int} (h : m.Written cs)
    (hn : m.integer? = some n) : isInteger n = true ∧ cs = Decimal.writeInt n := by
  cases h with
  | @mk negative whole fraction fs es exponent hw hf he =>
    unfold Numeral.integer? at hn
    split at hn
    · cases hn
    rename_i hplain
    simp only [Bool.or_eq_true, Bool.not_eq_true', not_or, Bool.not_eq_false, List.isEmpty_iff, Bool.not_eq_true,
      Option.isSome_eq_false_iff, Option.isNone_iff_eq_none] at hplain
    obtain ⟨rfl, rfl⟩ := hplain
    have hwrite : Decimal.write (Decimal.value whole) = whole := Decimal.write_value hw.1.1 hw.1.2 hw.2
    cases hf with
    | digits h => exact absurd rfl h.1
    | none =>
    cases he
    rw [List.append_nil, List.append_nil]
    cases negative with
    | true =>
      rw [if_pos rfl] at hn
      split at hn
      · rename_i hfits
        obtain ⟨k, hk⟩ : ∃ k, Decimal.value whole = k + 1 := ⟨_, (Nat.succ_pred_eq_of_pos hfits.1).symm⟩
        have hle : k + 1 ≤ 9223372036854775808 := by
          rw [hk] at hfits
          exact hfits.2
        obtain rfl : Int.negSucc k = n := by
          rw [← Option.some.inj hn, hk]
          rfl
        refine ⟨?_, ?_⟩
        · simp only [isInteger, Bool.and_eq_true, decide_eq_true_eq, UInt64.size]
          show -9223372036854775808 ≤ Int.negSucc k ∧ Int.negSucc k < 18446744073709551616
          omega
        · rw [Decimal.writeInt, ← hk, hwrite]
          rfl
      · cases hn
    | false =>
      rw [if_neg Bool.false_ne_true] at hn
      split at hn
      · rename_i hfits
        obtain rfl : (Decimal.value whole : Int) = n := Option.some.inj hn
        refine ⟨?_, ?_⟩
        · simp only [UInt64.size] at hfits
          simp only [isInteger, Bool.and_eq_true, decide_eq_true_eq, UInt64.size]
          show -9223372036854775808 ≤ (Decimal.value whole : Int) ∧ (Decimal.value whole : Int) < 18446744073709551616
          omega
        · exact hwrite.symm
      · cases hn

theorem number_iff {v : Json} {cs : List Char} : Number v cs ↔ ∃ n : Numeral, n.Written cs ∧ v = n.json := by
  constructor
  · intro h
    cases h with
    | integer h =>
      obtain ⟨m, hm, hjson⟩ := exists_numeral h
      exact ⟨m, hm, hjson.symm⟩
    | real h hreal => exact ⟨_, h, by rw [Numeral.json, hreal]; rfl⟩
  · rintro ⟨m, hm, rfl⟩
    cases hn : m.integer? with
    | none =>
      have hreal := Number.real hm hn
      rwa [Numeral.json, hn]
    | some n =>
      obtain ⟨hinteger, rfl⟩ := hm.eq_writeInt hn
      rw [Numeral.json, hn]
      exact .integer hinteger

/-! ### The scanner of numbers -/

/-- What stands behind a value does not go on with a number. -/
def Ends (rest : Source) : Prop :=
  ∀ c, rest.head? = some (some c) → Decimal.isDigit c = false ∧ c ≠ '.' ∧ c ≠ 'e' ∧ c ≠ 'E'

theorem ends_nil : Ends [] := fun _ h => nomatch h

theorem ends_cons {c : Char} (rest : Source) (h : c = ',' ∨ c = ']' ∨ c = '}') : Ends (some c :: rest) := by
  intro d hd
  obtain rfl : c = d := by simpa using hd
  rcases h with rfl | rfl | rfl <;> decide

/-- White space ends a number as well. -/
theorem ends_append {after : List Char} (h : Space after) {rest : Source} (hrest : Ends rest) :
    Ends (after.map some ++ rest) := by
  cases after with
  | nil => exact hrest
  | cons c after =>
    intro d hd
    obtain rfl : c = d := by simpa using hd
    rcases h c List.mem_cons_self with rfl | rfl | rfl | rfl <;> decide

/-- Digits end here. -/
def EndsDigits (rest : Source) : Prop := ∀ c, rest.head? = some (some c) → Decimal.isDigit c = false

theorem Ends.digits {rest : Source} (h : Ends rest) : EndsDigits rest := fun c hc => (h c hc).1

theorem digits_append {ds : List Char} (h : Digits ds) {rest : Source} (hrest : EndsDigits rest) :
    digits (ds.map some ++ rest) = some (ds, rest) := by
  have hall : ∀ c ∈ ds.map some, isDigit c = true := by
    intro c hc
    obtain ⟨d, hd, rfl⟩ := List.mem_map.1 hc
    exact h.2 d hd
  have hstop : rest.takeWhile isDigit = [] ∧ rest.dropWhile isDigit = rest := by
    cases rest with
    | nil => exact ⟨rfl, rfl⟩
    | cons c rest =>
      have hc : isDigit c = false := by
        cases c with
        | none => rfl
        | some c => exact hrest c rfl
      simp [hc]
  obtain ⟨d, ds', rfl⟩ := List.exists_cons_of_ne_nil h.1
  have hhead : ((List.map some (d :: ds') ++ rest).head?.any isDigit) = true := hall _ List.mem_cons_self
  rw [digits, if_pos hhead, List.takeWhile_append_of_pos hall, List.dropWhile_append_of_pos hall, hstop.1, hstop.2,
    List.append_nil, List.filterMap_map]
  simp

theorem digits_map {cs ds : List Char} {rest : Source} (h : digits (cs.map some) = some (ds, rest)) :
    ∃ after, cs = ds ++ after ∧ rest = after.map some ∧ Digits ds := by
  unfold digits at h
  split at h
  · rename_i hhead
    obtain ⟨rfl, rfl⟩ := Prod.mk.inj (Option.some.inj h)
    have htake : ((cs.map some).takeWhile isDigit).filterMap id = cs.takeWhile Decimal.isDigit := by
      rw [List.takeWhile_map, List.filterMap_map]
      exact List.filterMap_some
    refine ⟨cs.dropWhile Decimal.isDigit, ?_, ?_, ?_⟩
    · rw [htake, List.takeWhile_append_dropWhile]
    · rw [List.dropWhile_map]
      rfl
    · rw [htake]
      cases cs with
      | nil => cases hhead
      | cons c cs =>
        have hc : Decimal.isDigit c = true := hhead
        refine ⟨by rw [List.takeWhile_cons_of_pos hc]; exact List.cons_ne_nil _ _, fun d hd => ?_⟩
        exact List.all_eq_true.1 List.all_takeWhile d hd
  · cases h

theorem wholePart_append {ds : List Char} (h : Whole ds) {rest : Source} (hrest : EndsDigits rest) :
    wholePart (ds.map some ++ rest) = some (ds, rest) := by
  rw [wholePart, digits_append h.1 hrest]
  split
  · rename_i d ds' tail heq
    obtain ⟨rfl, -⟩ := Prod.mk.inj (Option.some.inj heq)
    exact absurd (h.2 _ rfl) (List.cons_ne_nil _ _)
  · rfl

theorem wholePart_map {cs ds : List Char} {rest : Source} (h : wholePart (cs.map some) = some (ds, rest)) :
    ∃ after, cs = ds ++ after ∧ rest = after.map some ∧ Whole ds := by
  unfold wholePart at h
  split at h
  · cases h
  · rename_i hzero
    obtain ⟨after, hcs, hrest, hds⟩ := digits_map h
    refine ⟨after, hcs, hrest, hds, fun tail htail => ?_⟩
    cases tail with
    | nil => rfl
    | cons c tail => exact absurd (htail ▸ h) (hzero c tail rest)

theorem fraction_append {ds fs : List Char} (h : Fraction ds fs) {rest : Source} (hdigits : EndsDigits rest)
    (hpoint : rest.head? ≠ some (some '.')) : fraction (fs.map some ++ rest) = some (ds, rest) := by
  cases h with
  | none =>
    rw [List.map_nil, List.nil_append]
    unfold fraction
    split
    · exact absurd rfl hpoint
    · rfl
  | digits h => exact digits_append h hdigits

theorem fraction_map {cs ds : List Char} {rest : Source} (h : fraction (cs.map some) = some (ds, rest)) :
    ∃ fs after, cs = fs ++ after ∧ rest = after.map some ∧ Fraction ds fs := by
  unfold fraction at h
  split at h
  · rename_i tail hcs
    obtain ⟨cs', rfl, rfl⟩ := map_some_eq_cons hcs
    obtain ⟨after, rfl, hrest, hds⟩ := digits_map h
    exact ⟨'.' :: ds, after, rfl, hrest, .digits hds⟩
  · obtain ⟨rfl, rfl⟩ := Prod.mk.inj (Option.some.inj h)
    exact ⟨[], cs, rfl, rfl, .none⟩

theorem exponent_append {x : Option (Bool × List Char)} {es : List Char} (h : Exponent x es) {rest : Source}
    (hrest : Ends rest) : exponent (es.map some ++ rest) = some (x, rest) := by
  have hletter : ∀ {e : Char}, e = 'e' ∨ e = 'E' → (e == 'e' || e == 'E') = true := by
    rintro e (rfl | rfl) <;> rfl
  cases h with
  | none =>
    rw [List.map_nil, List.nil_append]
    unfold exponent
    split
    · rename_i c tail
      obtain ⟨-, -, hlower, hupper⟩ := hrest c rfl
      simp [hlower, hupper]
    · rfl
  | @bare e ds he h =>
    -- No sign is a digit, so the digits are not taken for one.
    have hsign : ∀ c, (ds.map some ++ rest).head? = some (some c) → c ≠ '-' ∧ c ≠ '+' := by
      intro c hc
      obtain ⟨d, ds', rfl⟩ := List.exists_cons_of_ne_nil h.1
      obtain rfl : d = c := by simpa using hc
      have hd := h.2 d List.mem_cons_self
      refine ⟨?_, ?_⟩ <;> rintro rfl <;> cases hd
    rw [List.map_cons, List.cons_append]
    unfold exponent
    simp only [hletter he, if_true]
    split
    · rename_i heq
      exact absurd rfl (hsign '-' (by rw [heq]; rfl)).1
    · rename_i heq
      exact absurd rfl (hsign '+' (by rw [heq]; rfl)).2
    · rw [digits_append h hrest.digits]
      rfl
  | plus he h =>
    simp only [List.map_cons, List.cons_append, exponent, hletter he, if_true, digits_append h hrest.digits,
      Option.map_some]
  | minus he h =>
    simp only [List.map_cons, List.cons_append, exponent, hletter he, if_true, digits_append h hrest.digits,
      Option.map_some]

theorem exponent_map {cs : List Char} {x : Option (Bool × List Char)} {rest : Source}
    (h : exponent (cs.map some) = some (x, rest)) :
    ∃ es after, cs = es ++ after ∧ rest = after.map some ∧ Exponent x es := by
  unfold exponent at h
  split at h
  · rename_i c tail hcs
    obtain ⟨cs', rfl, rfl⟩ := map_some_eq_cons hcs
    split at h
    · rename_i hletter
      have he : c = 'e' ∨ c = 'E' := by simpa using hletter
      split at h
      · rename_i tail' hcs'
        obtain ⟨cs'', rfl, rfl⟩ := map_some_eq_cons hcs'
        obtain ⟨⟨ds, rest'⟩, hds, heq⟩ := Option.map_eq_some_iff.1 h
        obtain ⟨rfl, rfl⟩ := Prod.mk.inj heq
        obtain ⟨after, rfl, hrest, hds⟩ := digits_map hds
        exact ⟨c :: '-' :: ds, after, rfl, hrest, .minus he hds⟩
      · rename_i tail' hcs'
        obtain ⟨cs'', rfl, rfl⟩ := map_some_eq_cons hcs'
        obtain ⟨⟨ds, rest'⟩, hds, heq⟩ := Option.map_eq_some_iff.1 h
        obtain ⟨rfl, rfl⟩ := Prod.mk.inj heq
        obtain ⟨after, rfl, hrest, hds⟩ := digits_map hds
        exact ⟨c :: '+' :: ds, after, rfl, hrest, .plus he hds⟩
      · obtain ⟨⟨ds, rest'⟩, hds, heq⟩ := Option.map_eq_some_iff.1 h
        obtain ⟨rfl, rfl⟩ := Prod.mk.inj heq
        obtain ⟨after, rfl, hrest, hds⟩ := digits_map hds
        exact ⟨c :: ds, after, rfl, hrest, .bare he hds⟩
    · obtain ⟨rfl, rfl⟩ := Prod.mk.inj (Option.some.inj h)
      exact ⟨[], c :: cs', rfl, rfl, .none⟩
  · obtain ⟨rfl, rfl⟩ := Prod.mk.inj (Option.some.inj h)
    exact ⟨[], cs, rfl, rfl, .none⟩

theorem Exponent.ends {x : Option (Bool × List Char)} {es : List Char} (h : Exponent x es) {rest : Source}
    (hrest : Ends rest) : EndsDigits (es.map some ++ rest) ∧ (es.map some ++ rest).head? ≠ some (some '.') := by
  have hletter : ∀ {e : Char} {tail : Source}, e = 'e' ∨ e = 'E' →
      EndsDigits (some e :: tail) ∧ (some e :: tail).head? ≠ some (some '.') := by
    rintro e tail (rfl | rfl)
    · exact ⟨fun c hc => by rw [← Option.some.inj (Option.some.inj hc)]; rfl, by simp⟩
    · exact ⟨fun c hc => by rw [← Option.some.inj (Option.some.inj hc)]; rfl, by simp⟩
  cases h with
  | none => exact ⟨hrest.digits, fun h => (hrest '.' h).2.1 rfl⟩
  | bare he => exact hletter he
  | plus he => exact hletter he
  | minus he => exact hletter he

theorem Fraction.ends {ds fs : List Char} (h : Fraction ds fs) {rest : Source} (hrest : EndsDigits rest) :
    EndsDigits (fs.map some ++ rest) := by
  cases h with
  | none => exact hrest
  | digits => exact fun c hc => by rw [← Option.some.inj (Option.some.inj hc)]; rfl

theorem unsigned_append (negative : Bool) {whole fraction fs es : List Char} {exponent : Option (Bool × List Char)}
    (hw : Whole whole) (hf : Fraction fraction fs) (he : Exponent exponent es) {rest : Source} (hrest : Ends rest) :
    unsigned negative ((whole ++ fs ++ es).map some ++ rest) =
      some (Numeral.json ⟨negative, whole, fraction, exponent⟩, rest) := by
  obtain ⟨hdigits, hpoint⟩ := he.ends hrest
  have hwhole := wholePart_append hw (hf.ends hdigits)
  have hfraction := fraction_append hf hdigits hpoint
  have hexponent := exponent_append he hrest
  rw [List.map_append, List.map_append, List.append_assoc, List.append_assoc, unsigned, hwhole]
  simp only [Option.bind_eq_bind, Option.bind_some, hfraction, hexponent, Option.pure_def]

theorem unsigned_map {negative : Bool} {cs : List Char} {v : Json} {rest : Source}
    (h : unsigned negative (cs.map some) = some (v, rest)) :
    ∃ (whole fraction fs es : List Char) (exponent : Option (Bool × List Char)) (after : List Char),
      cs = whole ++ fs ++ es ++ after ∧ rest = after.map some ∧ Whole whole ∧ Fraction fraction fs ∧
        Exponent exponent es ∧ v = Numeral.json ⟨negative, whole, fraction, exponent⟩ := by
  unfold unsigned at h
  obtain ⟨⟨whole, rest₁⟩, hwhole, h⟩ := Option.bind_eq_some_iff.1 h
  obtain ⟨after₁, rfl, rfl, hw⟩ := wholePart_map hwhole
  obtain ⟨⟨fraction, rest₂⟩, hfraction, h⟩ := Option.bind_eq_some_iff.1 h
  obtain ⟨fs, after₂, rfl, rfl, hf⟩ := fraction_map hfraction
  obtain ⟨⟨exponent, rest₃⟩, hexponent, h⟩ := Option.bind_eq_some_iff.1 h
  obtain ⟨es, after, rfl, rfl, he⟩ := exponent_map hexponent
  obtain ⟨rfl, rfl⟩ := Prod.mk.inj (Option.some.inj h)
  exact ⟨whole, fraction, fs, es, exponent, after, by simp only [List.append_assoc], rfl, hw, hf, he, rfl⟩

/-- The characters that a number may start with. -/
def startsNumber (c : Char) : Bool := Decimal.isDigit c || c == '-'

theorem Whole.head {ds : List Char} (h : Whole ds) : ∃ c tail, ds = c :: tail ∧ Decimal.isDigit c = true := by
  obtain ⟨c, tail, rfl⟩ := List.exists_cons_of_ne_nil h.1.1
  exact ⟨c, tail, rfl, h.1.2 c List.mem_cons_self⟩

theorem Numeral.Written.head {n : Numeral} {cs : List Char} (h : n.Written cs) :
    ∃ c tail, cs = c :: tail ∧ startsNumber c = true := by
  cases h with
  | @mk negative whole fraction fs es exponent hw hf he =>
    cases negative with
    | true => exact ⟨'-', whole ++ fs ++ es, rfl, rfl⟩
    | false =>
      obtain ⟨c, tail, rfl, hc⟩ := hw.head
      exact ⟨c, tail ++ fs ++ es, rfl, by rw [startsNumber, hc]; rfl⟩

theorem number_unsigned {c : Char} (h : c ≠ '-') (rest : Source) :
    number (some c :: rest) = unsigned false (some c :: rest) := by
  unfold number
  split
  · rename_i heq
    exact absurd (Option.some.inj (List.cons.inj heq).1) h
  · rfl

/-- **A number is scanned as what it is**, if what stands behind does not go on with it. -/
theorem Number.scanned {v : Json} {cs : List Char} (h : Number v cs) {rest : Source} (hrest : Ends rest) :
    number (cs.map some ++ rest) = some (v, rest) := by
  obtain ⟨n, hn, rfl⟩ := number_iff.1 h
  cases hn with
  | @mk negative whole fraction fs es exponent hw hf he =>
    cases negative with
    | true => exact unsigned_append true hw hf he hrest
    | false =>
      have hunsigned := unsigned_append false hw hf he hrest
      obtain ⟨c, tail, rfl, hc⟩ := hw.head
      refine (number_unsigned (fun hminus => ?_) _).trans hunsigned
      rw [hminus] at hc
      cases hc

/-- **A number that is scanned is a number.** -/
theorem number_of_scanned {cs : List Char} {v : Json} {rest : Source} (h : number (cs.map some) = some (v, rest)) :
    ∃ pre after, cs = pre ++ after ∧ rest = after.map some ∧ Number v pre := by
  unfold number at h
  split at h
  · rename_i tail hcs
    obtain ⟨cs', rfl, rfl⟩ := map_some_eq_cons hcs
    obtain ⟨whole, fraction, fs, es, exponent, after, rfl, rfl, hw, hf, he, rfl⟩ := unsigned_map h
    exact ⟨'-' :: (whole ++ fs ++ es), after, rfl, rfl, number_iff.2 ⟨_, .mk true hw hf he, rfl⟩⟩
  · obtain ⟨whole, fraction, fs, es, exponent, after, rfl, rfl, hw, hf, he, rfl⟩ := unsigned_map h
    exact ⟨whole ++ fs ++ es, after, rfl, rfl, number_iff.2 ⟨_, .mk false hw hf he, rfl⟩⟩

theorem Number.head {v : Json} {cs : List Char} (h : Number v cs) :
    ∃ c tail, cs = c :: tail ∧ startsNumber c = true := by
  obtain ⟨n, hn, -⟩ := number_iff.1 h
  exact hn.head

end EventGateway.Json
