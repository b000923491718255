import EventGateway.Proofs.Bodies
import EventGateway.Text.Base64
import EventGateway.Text.Blank
import EventGateway.Text.Utf8
/-!
# Encodings — UTF-8 and base64, written and read

The reader that gets past broken bytes finds none in the bytes of a text: it gives back its characters
(`Utf8.chars_toUTF8`).  Any bytes are read back from their spelling in base64 (`Base64.decode_of_encode`), which has neither
points nor white space in it.
-/
namespace EventGateway.Text

namespace Utf8

/-! ## First bytes -/

theorem follow?_two : ∀ n < 30, follow? (UInt8.ofNat (n + 0xC2)) = some (0x80, 0xBF, 0) ∧
    leading (UInt8.ofNat (n + 0xC2)) = n + 2 ∧ ¬UInt8.ofNat (n + 0xC2) < 0x80 := by decide

/-- Not every second byte may follow: a character has one spelling only, and surrogates are none. -/
theorem follow?_three : ∀ n < 16, follow? (UInt8.ofNat (n + 0xE0)) =
    some (if n = 0 then 0xA0 else 0x80, if n = 13 then 0x9F else 0xBF, 1) ∧
      leading (UInt8.ofNat (n + 0xE0)) = n ∧ ¬UInt8.ofNat (n + 0xE0) < 0x80 := by decide

/-- No character is beyond U+10FFFF. -/
theorem follow?_four : ∀ n < 5, follow? (UInt8.ofNat (n + 0xF0)) =
    some (if n = 0 then 0x90 else 0x80, if n = 4 then 0x8F else 0xBF, 2) ∧
      leading (UInt8.ofNat (n + 0xF0)) = n ∧ ¬UInt8.ofNat (n + 0xF0) < 0x80 := by decide

/-! ## The bytes that follow -/

theorem toNat_ofNat {n : Nat} (h : n < 256) : (UInt8.ofNat n).toNat = n :=
  UInt8.toNat_ofNat_of_lt' h

theorem between_ofNat {low high : UInt8} {n : Nat} (hn : n < 256) (hlow : low.toNat ≤ n) (hhigh : n ≤ high.toNat) :
    between low high (UInt8.ofNat n) = true := by
  simp only [between, Bool.and_eq_true, decide_eq_true_eq, UInt8.le_iff_toNat_le, toNat_ofNat hn]
  exact ⟨hlow, hhigh⟩

theorem continued_cons {m : Nat} (hm : m < 64) (count n : Nat) (rest : List UInt8) :
    continued (count + 1) n (UInt8.ofNat (m + 128) :: rest) = continued count (n * 64 + m) rest := by
  rw [continued, if_pos (between_ofNat (by omega) (Nat.le_add_left 128 m) (show m + 128 ≤ 191 by omega)),
    toNat_ofNat (by omega), Nat.add_sub_cancel]

theorem readChar_of_follow? {a low high : UInt8} {count m : Nat} (hlarge : ¬a < 0x80)
    (hfollow : follow? a = some (low, high, count)) (hm : m < 64) (hlow : low.toNat ≤ m + 128)
    (hhigh : m + 128 ≤ high.toNat) (rest : List UInt8) :
    readChar a (UInt8.ofNat (m + 128) :: rest) = continued count (leading a * 64 + m) rest := by
  unfold readChar
  rw [if_neg hlarge, hfollow]
  simp only
  rw [if_pos (between_ofNat (by omega) hlow hhigh), toNat_ofNat (by omega), Nat.add_sub_cancel]

/-! ## Characters -/

/-- **A character is read from its bytes**, whatever stands behind. -/
theorem readChar_utf8EncodeChar (c : Char) (rest : List UInt8) :
    ∃ a tail, String.utf8EncodeChar c = a :: tail ∧ readChar a (tail ++ rest) = (some c, rest) := by
  have hvalid : c.toNat < 0xD800 ∨ 0xDFFF < c.toNat ∧ c.toNat < 0x110000 := c.valid
  have hc : Char.ofNat c.toNat = c := Char.ofNat_toNat c
  rw [String.utf8EncodeChar, show c.val.toNat = c.toNat from rfl]
  generalize c.toNat = v at hvalid hc
  by_cases h1 : v ≤ 127
  · rw [if_pos h1]
    refine ⟨_, _, rfl, ?_⟩
    have hsmall : UInt8.ofNat v < 0x80 := by
      rw [UInt8.lt_iff_toNat_lt, toNat_ofNat (by omega)]
      exact Nat.lt_succ_of_le h1
    unfold readChar
    rw [if_pos hsmall, toNat_ofNat (by omega), hc]
    rfl
  rw [if_neg h1]
  by_cases h2 : v ≤ 2047
  · rw [if_pos h2]
    refine ⟨_, _, rfl, ?_⟩
    obtain ⟨hfollow, hleading, hlarge⟩ := follow?_two (v / 64 - 2) (by omega)
    have hlead : v / 64 % 32 + 192 = v / 64 - 2 + 0xC2 := by omega
    rw [hlead, List.cons_append, readChar_of_follow? hlarge hfollow (Nat.mod_lt _ (by decide)) (Nat.le_add_left 128 _)
      (show v % 64 + 128 ≤ 191 by omega), hleading, continued, show (v / 64 - 2 + 2) * 64 + v % 64 = v by omega, hc]
    rfl
  rw [if_neg h2]
  by_cases h3 : v ≤ 65535
  · rw [if_pos h3]
    refine ⟨_, _, rfl, ?_⟩
    obtain ⟨hfollow, hleading, hlarge⟩ := follow?_three (v / 4096) (by omega)
    have hlead : v / 4096 % 16 + 224 = v / 4096 + 0xE0 := by omega
    have hlow : (if v / 4096 = 0 then (0xA0 : UInt8) else 0x80).toNat ≤ v / 64 % 64 + 128 := by
      split
      · show 160 ≤ _
        omega
      · exact Nat.le_add_left 128 _
    have hhigh : v / 64 % 64 + 128 ≤ (if v / 4096 = 13 then (0x9F : UInt8) else 0xBF).toNat := by
      split
      · show _ ≤ 159
        omega
      · show _ ≤ 191
        omega
    rw [hlead, List.cons_append, readChar_of_follow? hlarge hfollow (Nat.mod_lt _ (by decide)) hlow hhigh, hleading,
      List.cons_append, continued_cons (Nat.mod_lt _ (by decide)), continued,
      show (v / 4096 * 64 + v / 64 % 64) * 64 + v % 64 = v by omega, hc]
    rfl
  · rw [if_neg h3]
    refine ⟨_, _, rfl, ?_⟩
    obtain ⟨hfollow, hleading, hlarge⟩ := follow?_four (v / 262144) (by omega)
    have hlead : v / 262144 % 8 + 240 = v / 262144 + 0xF0 := by omega
    have hlow : (if v / 262144 = 0 then (0x90 : UInt8) else 0x80).toNat ≤ v / 4096 % 64 + 128 := by
      split
      · show 144 ≤ _
        omega
      · exact Nat.le_add_left 128 _
    have hhigh : v / 4096 % 64 + 128 ≤ (if v / 262144 = 4 then (0x8F : UInt8) else 0xBF).toNat := by
      split
      · show _ ≤ 143
        omega
      · show _ ≤ 191
        omega
    rw [hlead, List.cons_append, readChar_of_follow? hlarge hfollow (Nat.mod_lt _ (by decide)) hlow hhigh, hleading,
      List.cons_append, continued_cons (Nat.mod_lt _ (by decide)), List.cons_append,
      continued_cons (Nat.mod_lt _ (by decide)), continued,
      show ((v / 262144 * 64 + v / 4096 % 64) * 64 + v / 64 % 64) * 64 + v % 64 = v by omega, hc]
    rfl

/-! ## Texts -/

/-- The fuel is not short where there is a step for each byte. -/
theorem charsFrom_flatMap : ∀ (cs : List Char) {fuel : Nat}, (cs.flatMap String.utf8EncodeChar).length ≤ fuel →
    charsFrom fuel (cs.flatMap String.utf8EncodeChar) = cs.map some
  | [], fuel, _ => by
    rw [List.flatMap_nil, charsFrom]
    rfl
  | c :: cs, fuel, h => by
    obtain ⟨a, tail, hbytes, hread⟩ := readChar_utf8EncodeChar c (cs.flatMap String.utf8EncodeChar)
    rw [List.flatMap_cons, hbytes, List.cons_append] at h ⊢
    cases fuel with
    | zero => cases h
    | succ fuel =>
      rw [List.length_cons, List.length_append] at h
      rw [charsFrom, hread]
      simp only
      rw [charsFrom_flatMap cs (by omega), List.map_cons]

theorem toUTF8_eq_flatMap (s : String) : s.toUTF8.toList = s.toList.flatMap String.utf8EncodeChar := by
  rw [Wire.toList_toUTF8]
  conv => lhs; rw [← String.ofList_toList (s := s)]
  rw [String.toByteArray_ofList, List.utf8Encode, List.data_toByteArray]

/-- **The bytes of a text spell its characters**, without a fault. -/
theorem chars_toUTF8 (s : String) : chars s.toUTF8.toList = s.toList.map some := by
  rw [chars, toUTF8_eq_flatMap]
  exact charsFrom_flatMap s.toList (Nat.le_refl _)

end Utf8

namespace Base64

/-! ## Base64 -/

theorem value?_digit : ∀ n < 64, value? (digit n) = some n := by decide

theorem digit_plain : ∀ n < 64, digit n ≠ '.' ∧ isBlank (digit n) = false := by decide

theorem value?_digit_of_lt {n : Nat} (h : n < 64) : value? (digit n) = some n := value?_digit n h

/-! ### Groups of characters -/

theorem encode_three {a b c : UInt8} {n : Nat} (hn : (a.toNat * 256 + b.toNat) * 256 + c.toNat = n) (rest : List UInt8) :
    encode (a :: b :: c :: rest) =
      digit (n / 262144) :: digit (n / 4096 % 64) :: digit (n / 64 % 64) :: digit (n % 64) :: encode rest := by
  subst hn
  rfl

theorem encode_two {a b : UInt8} {n : Nat} (hn : a.toNat * 256 + b.toNat = n) :
    encode [a, b] = [digit (n / 1024), digit (n / 16 % 64), digit (n % 16 * 4)] := by
  subst hn
  rfl

theorem encode_one (a : UInt8) : encode [a] = [digit (a.toNat / 4), digit (a.toNat % 4 * 16)] := rfl

section Decoding

variable {a b c d : Char} {i j k l n : Nat}

/-! The groups of the reader, with numerals for its powers of two. -/

theorem decode_group_four (a b c d : Char) (rest : List Char) :
    decode (a :: b :: c :: d :: rest) = (value? a).bind fun i => (value? b).bind fun j =>
      (value? c).bind fun k => (value? d).bind fun l => (decode rest).bind fun bytes =>
        some (UInt8.ofNat (((i * 64 + j) * 4096 + k * 64 + l) / 65536) ::
          UInt8.ofNat (((i * 64 + j) * 4096 + k * 64 + l) / 256) ::
            UInt8.ofNat ((i * 64 + j) * 4096 + k * 64 + l) :: bytes) := rfl

theorem decode_group_three (a b c : Char) :
    decode [a, b, c] = (value? a).bind fun i => (value? b).bind fun j => (value? c).bind fun k =>
      if ((i * 64 + j) * 64 + k) % 4 = 0 then
        some [UInt8.ofNat (((i * 64 + j) * 64 + k) / 1024), UInt8.ofNat (((i * 64 + j) * 64 + k) / 4)]
      else none := rfl

theorem decode_group_two (a b : Char) :
    decode [a, b] = (value? a).bind fun i => (value? b).bind fun j =>
      if (i * 64 + j) % 16 = 0 then some [UInt8.ofNat ((i * 64 + j) / 16)] else none := rfl

theorem decode_four {rest : List Char} {bytes : List UInt8} (ha : value? a = some i) (hb : value? b = some j)
    (hc : value? c = some k) (hd : value? d = some l) (hrest : decode rest = some bytes)
    (hn : (i * 64 + j) * 4096 + k * 64 + l = n) : decode (a :: b :: c :: d :: rest) =
      some (UInt8.ofNat (n / 65536) :: UInt8.ofNat (n / 256) :: UInt8.ofNat n :: bytes) := by
  rw [decode_group_four, ha, hb, hc, hd, hrest, ← hn]
  rfl

theorem decode_three (ha : value? a = some i) (hb : value? b = some j) (hc : value? c = some k)
    (hn : (i * 64 + j) * 64 + k = n) (hrest : n % 4 = 0) :
    decode [a, b, c] = some [UInt8.ofNat (n / 1024), UInt8.ofNat (n / 4)] := by
  rw [decode_group_three, ha, hb, hc, ← hn]
  exact if_pos (hn ▸ hrest)

theorem decode_two (ha : value? a = some i) (hb : value? b = some j) (hn : i * 64 + j = n) (hrest : n % 16 = 0) :
    decode [a, b] = some [UInt8.ofNat (n / 16)] := by
  rw [decode_group_two, ha, hb, ← hn]
  exact if_pos (hn ▸ hrest)

/-- **One character of another kind spoils the whole run.** -/
theorem decode_eq_none (hnone : value? c = none) : ∀ {cs : List Char}, c ∈ cs → decode cs = none
  | x :: y :: z :: w :: rest, h => by
    simp only [List.mem_cons] at h
    rw [decode_group_four]
    rcases h with rfl | rfl | rfl | rfl | h
    · simp [hnone]
    · simp [hnone]
    · simp [hnone]
    · simp [hnone]
    · simp [decode_eq_none hnone h]
  | [x, y, z], h => by
    simp only [List.mem_cons, List.not_mem_nil, or_false] at h
    rw [decode_group_three]
    rcases h with rfl | rfl | rfl <;> simp [hnone]
  | [x, y], h => by
    simp only [List.mem_cons, List.not_mem_nil, or_false] at h
    rw [decode_group_two]
    rcases h with rfl | rfl <;> simp [hnone]
  | [_], _ => rfl
  | [], h => nomatch h

end Decoding

/-! ### Bytes and their characters -/

theorem join_groups (n : Nat) : (n / 262144 * 64 + n / 4096 % 64) * 4096 + n / 64 % 64 * 64 + n % 64 = n := by omega

theorem ofNat_eq {a : UInt8} {n : Nat} (h : n % 256 = a.toNat) : UInt8.ofNat n = a :=
  UInt8.toNat_inj.1 (UInt8.toNat_ofNat'.trans h)

/-- **Bytes are read back from their characters**, three at a time. -/
theorem decode_of_encode : ∀ bytes : List UInt8, decode (encode bytes) = some bytes
  | a :: b :: c :: rest => by
    have ha := a.toNat_lt
    have hb := b.toNat_lt
    have hc := c.toNat_lt
    obtain ⟨n, hn⟩ : ∃ n, (a.toNat * 256 + b.toNat) * 256 + c.toNat = n := ⟨_, rfl⟩
    rw [encode_three hn, decode_four (value?_digit_of_lt (by omega)) (value?_digit_of_lt (by omega))
      (value?_digit_of_lt (by omega)) (value?_digit_of_lt (by omega)) (decode_of_encode rest) (join_groups n),
      ofNat_eq (a := a) (by omega), ofNat_eq (a := b) (by omega), ofNat_eq (a := c) (by omega)]
  | [a, b] => by
    have ha := a.toNat_lt
    have hb := b.toNat_lt
    obtain ⟨n, hn⟩ : ∃ n, a.toNat * 256 + b.toNat = n := ⟨_, rfl⟩
    have hbits : (n / 1024 * 64 + n / 16 % 64) * 64 + n % 16 * 4 = n * 4 := by omega
    rw [encode_two hn, decode_three (value?_digit_of_lt (by omega)) (value?_digit_of_lt (by omega))
      (value?_digit_of_lt (by omega)) hbits (by omega), ofNat_eq (a := a) (by omega), ofNat_eq (a := b) (by omega)]
  | [a] => by
    have ha := a.toNat_lt
    have hbits : a.toNat / 4 * 64 + a.toNat % 4 * 16 = a.toNat * 16 := by omega
    rw [encode_one, decode_two (value?_digit_of_lt (by omega)) (value?_digit_of_lt (by omega)) hbits (by omega),
      ofNat_eq (a := a) (by omega)]
  | [] => rfl

/-- **No point and no white space stands in base64.** -/
theorem mem_encode : ∀ {bytes : List UInt8} {d : Char}, d ∈ encode bytes → d ≠ '.' ∧ isBlank d = false
  | a :: b :: c :: rest, d, h => by
    have ha := a.toNat_lt
    have hb := b.toNat_lt
    have hc := c.toNat_lt
    simp only [encode_three rfl, List.mem_cons] at h
    rcases h with rfl | rfl | rfl | rfl | h
    · exact digit_plain _ (by omega)
    · exact digit_plain _ (by omega)
    · exact digit_plain _ (by omega)
    · exact digit_plain _ (by omega)
    · exact mem_encode h
  | [a, b], d, h => by
    have ha := a.toNat_lt
    have hb := b.toNat_lt
    simp only [encode_two rfl, List.mem_cons, List.not_mem_nil, or_false] at h
    rcases h with rfl | rfl | rfl
    · exact digit_plain _ (by omega)
    · exact digit_plain _ (by omega)
    · exact digit_plain _ (by omega)
  | [a], d, h => by
    have ha := a.toNat_lt
    simp only [encode_one, List.mem_cons, List.not_mem_nil, or_false] at h
    rcases h with rfl | rfl
    · exact digit_plain _ (by omega)
    · exact digit_plain _ (by omega)
  | [], _, h => nomatch h

/-- The first six bits make the first character. -/
theorem head?_encode_cons : ∀ (a : UInt8) (bytes : List UInt8), (encode (a :: bytes)).head? = some (digit (a.toNat / 4))
  | a, b :: c :: rest => by
    have hb := b.toNat_lt
    have hc := c.toNat_lt
    rw [encode_three rfl, List.head?_cons,
      show ((a.toNat * 256 + b.toNat) * 256 + c.toNat) / 262144 = a.toNat / 4 by omega]
  | a, [b] => by
    have hb := b.toNat_lt
    rw [encode_two rfl, List.head?_cons, show (a.toNat * 256 + b.toNat) / 1024 = a.toNat / 4 by omega]
  | a, [] => rfl

end Base64

end EventGateway.Text
