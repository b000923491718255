import EventGateway.Proofs.BinaryFrames
/-!
# Bodies of payloads, written and read

A body spells a payload by the values under its numbers, and defaults may be left out.  The binary encoding writes the
values of a payload that are no defaults; read back they give a body that spells the payload (`ofBinary_binary`).
-/
namespace EventGateway.Wire

/-! ## What a body spells -/

/-- Values under their numbers, the first of which is `k`. -/
def numbered (k : Nat) (vs : List FieldValue) : List (Nat × FieldValue) := (vs.zipIdx k).map Prod.swap

theorem numbered_cons (k : Nat) (v : FieldValue) (vs : List FieldValue) :
    numbered k (v :: vs) = (k, v) :: numbered (k + 1) vs := rfl

theorem nodup_numbered (k : Nat) (vs : List FieldValue) : ((numbered k vs).map Prod.fst).Nodup := by
  have hfst : (numbered k vs).map Prod.fst = List.range' k vs.length := by
    rw [numbered, List.map_map, ← List.zipIdx_map_snd]
    rfl
  rw [hfst]
  exact List.nodup_range'

theorem mem_numbered {x : Nat × FieldValue} {vs : List FieldValue} (h : x ∈ numbered 1 vs) :
    0 < x.1 ∧ vs[x.1 - 1]? = some x.2 := by
  obtain ⟨⟨v, i⟩, hv, rfl⟩ := List.mem_map.1 h
  obtain ⟨hi, hget⟩ := List.mem_zipIdx_iff_le_and_getElem?_sub.1 hv
  exact ⟨hi, hget⟩

namespace Body

/-- **Everything in order spells the payload.** -/
theorem payload_numbered (p : Payload) : Body.payload (numbered 1 p.values).reverse p.variant = p := by
  cases p <;> rfl

/-- The value under a number, unless it is a default. -/
def present (b : Body) (number : Nat) : Option FieldValue := (b.lookup number).filter (!·.isDefault)

/-- Bodies with the same values present differ in defaults only. -/
theorem lookup_of_present {b b' : Body} {n : Nat} (h : b.present n = b'.present n) :
    b.lookup n = b'.lookup n ∨
      (∀ v, b.lookup n = some v → v.isDefault = true) ∧ ∀ v, b'.lookup n = some v → v.isDefault = true := by
  unfold present at h
  cases hb : b.lookup n with
  | none =>
    rw [hb] at h
    refine .inr ⟨by simp, fun v hv => ?_⟩
    rw [hv] at h
    simpa [Option.filter] using h.symm
  | some v =>
    cases hv : v.isDefault with
    | true =>
      refine .inr ⟨fun w hw => Option.some.inj hw ▸ hv, fun w hw => ?_⟩
      rw [hb, hw] at h
      simpa [Option.filter, hv] using h.symm
    | false =>
      refine .inl ?_
      have hkept : (b'.lookup n).filter (!·.isDefault) = some v := by simpa [hb, Option.filter, hv] using h.symm
      exact (Option.filter_eq_some_iff.1 hkept).1.symm

section Defaults

variable {b : Body} {n : Nat} (h : ∀ v, b.lookup n = some v → v.isDefault = true)

include h

theorem uint32_of_default : b.uint32 n = 0 := by
  unfold uint32
  split
  · rename_i m hm
    simpa [FieldValue.isDefault] using h _ hm
  · rfl

theorem uint64_of_default : b.uint64 n = 0 := by
  unfold uint64
  split
  · rename_i m hm
    simpa [FieldValue.isDefault] using h _ hm
  · rfl

theorem int64_of_default : b.int64 n = 0 := by
  unfold int64
  split
  · rename_i m hm
    simpa [FieldValue.isDefault] using h _ hm
  · rfl

theorem text_of_default : b.text n = "" := by
  unfold text
  split
  · rename_i s hs
    simpa [FieldValue.isDefault] using h _ hs
  · rfl

end Defaults

theorem payload_congr {b b' : Body} (h : ∀ n, b.present n = b'.present n) (v : Variant) : b.payload v = b'.payload v := by
  have h32 (n : Nat) : b.uint32 n = b'.uint32 n := by
    rcases lookup_of_present (h n) with heq | ⟨hb, hb'⟩
    · rw [uint32, uint32, heq]
    · rw [uint32_of_default hb, uint32_of_default hb']
  have h64 (n : Nat) : b.uint64 n = b'.uint64 n := by
    rcases lookup_of_present (h n) with heq | ⟨hb, hb'⟩
    · rw [uint64, uint64, heq]
    · rw [uint64_of_default hb, uint64_of_default hb']
  have hsigned (n : Nat) : b.int64 n = b'.int64 n := by
    rcases lookup_of_present (h n) with heq | ⟨hb, hb'⟩
    · rw [int64, int64, heq]
    · rw [int64_of_default hb, int64_of_default hb']
  have htext (n : Nat) : b.text n = b'.text n := by
    rcases lookup_of_present (h n) with heq | ⟨hb, hb'⟩
    · rw [text, text, heq]
    · rw [text_of_default hb, text_of_default hb']
  cases v <;> simp only [payload, h32, h64, hsigned, htext]

theorem lookup_filter (keep : FieldValue → Bool) (n : Nat) : ∀ {b : Body}, (b.map Prod.fst).Nodup →
    (b.filter (fun x => keep x.2)).lookup n = (b.lookup n).filter keep
  | [], _ => rfl
  | (k, v) :: b, h => by
    obtain ⟨hk, hb⟩ := List.nodup_cons.1 h
    have hrest := lookup_filter keep n hb
    by_cases hn : n = k
    · subst hn
      have hnone : b.lookup n = none := List.lookup_eq_none_iff.2 fun x hx => by
        simp only [bne_iff_ne, ne_eq]
        intro heq
        exact hk (List.mem_map.2 ⟨x, hx, heq.symm⟩)
      rw [hnone] at hrest
      cases hv : keep v with
      | true => simp [hv, Option.filter]
      | false => simp [hv, hrest, Option.filter]
    · have hne : (n == k) = false := by simpa using hn
      cases hv : keep v with
      | true => simp [List.lookup_cons, hv, hne, hrest]
      | false => simp [List.lookup_cons, hv, hne, hrest]

/-- **Defaults may be left out.** -/
theorem payload_filter (p : Payload) :
    Body.payload ((numbered 1 p.values).filter (!·.2.isDefault)).reverse p.variant = p := by
  have hnodup : ((numbered 1 p.values).reverse.map Prod.fst).Nodup := by
    rw [List.map_reverse]
    exact List.pairwise_reverse.2 ((nodup_numbered 1 p.values).imp Ne.symm)
  -- Only defaults are dropped, and each number is there once, so what is present stays.
  have hpresent (n : Nat) : present ((numbered 1 p.values).filter (!·.2.isDefault)).reverse n =
      present (numbered 1 p.values).reverse n := by
    rw [present, present, ← List.filter_reverse, lookup_filter (!·.isDefault) n hnodup, Option.filter_filter]
    simp
  rw [payload_congr hpresent, payload_numbered]

end Body

/-! ## Values and their fields -/

/-- Whether a value is one that a field of this kind holds. -/
def FieldKind.holds : FieldKind → FieldValue → Bool
  | .uint32, .uint32 _ | .uint64, .uint64 _ | .id, .uint64 _ | .int64, .int64 _ | .text, .text _ => true
  | _, _ => false

/-- Whether values are those of these fields, one for each. -/
def fit : List Field → List FieldValue → Bool
  | [], [] => true
  | f :: fs, v :: vs => f.kind.holds v && fit fs vs
  | _, _ => false

theorem fit_values (p : Payload) : fit p.variant.fields p.values = true := by
  cases p <;> rfl

theorem exists_field : ∀ {fs : List Field} {vs : List FieldValue} {i : Nat} {v : FieldValue}, fit fs vs = true →
    vs[i]? = some v → ∃ f, fs[i]? = some f ∧ f.kind.holds v = true
  | [], [], _, _, _, hv => by simp at hv
  | [], _ :: _, _, _, h, _ => by cases h
  | _ :: _, [], _, _, h, _ => by cases h
  | f :: fs, w :: vs, i, v, h, hv => by
    rw [fit, Bool.and_eq_true] at h
    cases i with
    | zero =>
      obtain rfl : w = v := by simpa using hv
      exact ⟨f, rfl, h.1⟩
    | succ i => exact exists_field (i := i) h.2 (by simpa using hv)

theorem length_fields_le (v : Variant) : v.fields.length ≤ 5 := by
  cases v <;> decide

/-! ## The binary form -/

theorem toList_loop (bytes : ByteArray) (i : Nat) (read : List UInt8) :
    ByteArray.toList.loop bytes i read = read.reverse ++ bytes.data.toList.drop i := by
  fun_induction ByteArray.toList.loop bytes i read with
  | case1 i read hi ih =>
    have hlength : i < bytes.data.toList.length := by simpa using hi
    rw [ih, List.drop_eq_getElem_cons hlength]
    simp [ByteArray.get!, hi]
  | case2 i read hi =>
    rw [List.drop_eq_nil_of_le (by simpa using Nat.le_of_not_lt hi)]
    simp

theorem toList_toUTF8 (s : String) : s.toUTF8.toList = s.toByteArray.data.toList := by
  rw [ByteArray.toList, toList_loop]
  simp

theorem readUtf8_toUTF8 (s : String) : readUtf8 s.toUTF8.toList = some s := by
  rw [readUtf8, toList_toUTF8, String.fromUTF8?, dif_pos s.isValidUTF8]
  rfl

theorem length_toUTF8 (s : String) : s.toUTF8.toList.length = s.utf8ByteSize := by
  rw [toList_toUTF8, Array.length_toList]
  rfl

namespace FieldValue

/-- Whether a machine can hold a value. -/
def holdable : FieldValue → Bool
  | text s => s.utf8ByteSize < UInt64.size
  | _ => true

def wire : FieldValue → WireType
  | text _ => .bytes
  | _ => .varint

/-- What stands behind the key. -/
def tail : FieldValue → List UInt8
  | uint32 n => Varint.write n.toUInt64
  | uint64 n => Varint.write n
  | int64 n => Varint.write n.toUInt64
  | text s => writeBytes s.toUTF8.toList

end FieldValue

theorem readBinary_tail (rest : List UInt8) : ∀ {kind : FieldKind} {value : FieldValue}, kind.holds value = true →
    value.holdable = true → kind.readBinary value.wire (value.tail ++ rest) = some (value, rest)
  | .uint32, .uint32 n, _, _ => by
    simp [FieldKind.readBinary, FieldValue.wire, FieldValue.tail, Varint.read_write, checkWireType]
  | .uint64, .uint64 n, _, _ => by
    simp [FieldKind.readBinary, FieldValue.wire, FieldValue.tail, Varint.read_write, checkWireType]
  | .id, .uint64 n, _, _ => by
    simp [FieldKind.readBinary, FieldValue.wire, FieldValue.tail, Varint.read_write, checkWireType]
  | .int64, .int64 n, _, _ => by
    have hn : Int64.ofNat n.toUInt64.toNat = n := by
      rw [← UInt64.toInt64_ofNat', UInt64.ofNat_toNat, Int64.toInt64_toUInt64]
    simp [FieldKind.readBinary, FieldValue.wire, FieldValue.tail, Varint.read_write, checkWireType, hn]
  | .text, .text s, _, h => by
    have hlength : s.toUTF8.toList.length < UInt64.size := by
      rw [length_toUTF8]
      simpa [FieldValue.holdable] using h
    have hbytes := readBytes_append (Varint.spellingOf _ hlength) rest
    rw [← List.append_assoc] at hbytes
    have hread : readBytes (writeBytes s.toUTF8.toList ++ rest) = some (s.toUTF8.toList, rest) := hbytes
    simp only [FieldKind.readBinary, FieldValue.wire, FieldValue.tail, hread, checkWireType]
    simp [-String.toUTF8_eq_toByteArray, readUtf8_toUTF8]

theorem readKey_write (wire : WireType) {number code : Nat} (hnumber : 0 < number ∧ number ≤ 20) (hlt : code < 8)
    (hcode : WireType.ofCode? code = some wire) (rest : List UInt8) :
    readKey (writeKey number code ++ rest) = some (⟨number, wire⟩, rest) := by
  have hsize : number * 8 + code < UInt64.size := by simp only [UInt64.size]; omega
  exact readKey_append wire (Varint.spellingOf _ hsize) ⟨hnumber.1, Key.le_maxNumber hnumber.2⟩ hlt hcode rest

theorem readKey_binary {number : Nat} (hnumber : 0 < number ∧ number ≤ 20) (value : FieldValue) (rest : List UInt8) :
    readKey (value.binary number ++ rest) = some (⟨number, value.wire⟩, value.tail ++ rest) := by
  cases value with
  | text s =>
    rw [FieldValue.binary, List.append_assoc]
    exact readKey_write .bytes hnumber (by decide) rfl _
  | uint32 n | uint64 n | int64 n =>
    rw [FieldValue.binary, List.append_assoc]
    exact readKey_write .varint hnumber (by decide) rfl _

/-- **A written value is read into the body.** -/
theorem mergeField_binary {v : Variant} {number : Nat} {f : Field} {value : FieldValue} (hnumber : 0 < number ∧ number ≤ 20)
    (hf : v.fields[number - 1]? = some f) (hkind : f.kind.holds value = true) (hhold : value.holdable = true) (b : Body)
    (rest : List UInt8) :
    v.message.mergeField [] b (value.binary number ++ rest) = some ([], b.put number value, rest) := by
  obtain ⟨hdefined, rfl⟩ := List.getElem?_eq_some_iff.1 hf
  simp [MessageFormat.mergeField, readKey_binary hnumber, Variant.message, hdefined, Body.merge,
    readBinary_tail rest hkind hhold]

theorem binary_ne_nil (number : Nat) (value : FieldValue) : value.binary number ≠ [] := by
  cases value <;> simp [FieldValue.binary, writeKey, Varint.write_ne_nil]

theorem writeFields_eq : ∀ (k : Nat) (vs : List FieldValue),
    writeFields k vs = ((numbered k vs).filter (!·.2.isDefault)).flatMap (fun x => x.2.binary x.1)
  | _, [] => rfl
  | k, v :: vs => by
    rw [writeFields, writeFields_eq (k + 1) vs, numbered_cons]
    cases hv : v.isDefault with
    | true => simp [hv]
    | false => simp [hv]

theorem foldlM_put : ∀ (xs : List (Nat × FieldValue)) (b : Body),
    xs.foldlM (fun b x => some (Body.put b x.1 x.2)) b = some (xs.reverse ++ b)
  | [], _ => rfl
  | x :: xs, b => by
    rw [List.foldlM_cons, Option.bind_eq_bind, Option.bind_some, foldlM_put xs, Body.put]
    simp

/-- The values of a payload that are written, which are no defaults, under their numbers. -/
def Payload.written (p : Payload) : List (Nat × FieldValue) := (numbered 1 p.values).filter (!·.2.isDefault)

theorem Payload.binary_eq (p : Payload) : p.binary = p.written.flatMap fun x => x.2.binary x.1 := writeFields_eq 1 p.values

/-- **Each value that is written is read back** into the body. -/
theorem mergeField_written {p : Payload} (hhold : ∀ v ∈ p.values, v.holdable = true) {x : Nat × FieldValue}
    (hx : x ∈ p.written) (b : Body) (rest : List UInt8) :
    p.variant.message.mergeField [] b (x.2.binary x.1 ++ rest) = some ([], b.put x.1 x.2, rest) := by
  obtain ⟨hpos, hget⟩ := mem_numbered (List.mem_filter.1 hx).1
  obtain ⟨f, hf, hkind⟩ := exists_field (fit_values p) hget
  have hle : x.1 - 1 < p.variant.fields.length := (List.getElem?_eq_some_iff.1 hf).1
  have hfields := length_fields_le p.variant
  exact mergeField_binary ⟨hpos, by omega⟩ hf hkind (hhold x.2 (List.mem_of_getElem? hget)) b rest

/-- **The body of a payload is read as the payload.** -/
theorem ofBinary_binary {p : Payload} (hhold : ∀ v ∈ p.values, v.holdable = true) : p.variant.ofBinary p.binary = some p := by
  have hfield : ∀ x ∈ p.written, ∀ (b : Body) rest, p.variant.message.mergeField [] b (x.2.binary x.1 ++ rest) =
      (some (b.put x.1 x.2)).map fun b => ([], b, rest) := fun x hx b rest => mergeField_written hhold hx b rest
  have hbody : p.variant.message.mergeAll [] p.binary = some p.written.reverse := by
    rw [p.binary_eq, MessageFormat.mergeAll_flatMap _ _ _ (fun x _ => binary_ne_nil x.1 x.2) hfield, foldlM_put,
      List.append_nil]
  rw [Variant.ofBinary, hbody, Option.map_some, Payload.written, Body.payload_filter]

end EventGateway.Wire
