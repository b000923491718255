import EventGateway.Proofs.Varint
import EventGateway.Wire.Frame
/-!
# Which binary frames are read

Two readers go over a binary frame.  The scan (`countPayloads`) and the lenient reader of messages (`mergeFields`) agree
on where each field ends (`scanField_eq_ok`, `mergeField_append`): the scan lets a frame pass only if it is a run of
complete fields of an envelope, one of them a payload, and on such a frame the reader has nothing to pass over, to
replace or to merge.
-/
namespace EventGateway.Wire

open Varint (Spelling)

theorem splitBytes_append (a rest : List UInt8) : splitBytes a.length (a ++ rest) = some (a, rest) := by
  simp [splitBytes]

theorem splitBytes_eq_some {n : Nat} {bytes a rest : List UInt8} (h : splitBytes n bytes = some (a, rest)) :
    bytes = a ++ rest ∧ a.length = n := by
  unfold splitBytes at h
  by_cases hn : n ≤ bytes.length
  · rw [if_pos hn] at h
    obtain ⟨rfl, rfl⟩ : _ ∧ _ := by simpa using h
    exact ⟨(List.take_append_drop n bytes).symm, List.length_take_of_le hn⟩
  · simp [hn] at h

theorem readBytes_append {a : List UInt8} (length : Spelling a.length) (rest : List UInt8) :
    readBytes (length.bytes ++ (a ++ rest)) = some (a, rest) := by
  simp [readBytes, length.read_append, splitBytes_append]

/-! ## Complete fields of an envelope -/

/-- A field as an envelope may have it, with the spellings of its numbers. -/
inductive EnvelopeField where
  | seq {n : Nat} (key : Spelling (1 * 8 + 0)) (number : Spelling n)
  | payload (tag : Nat) (htag : 2 ≤ tag ∧ tag ≤ 20) (body : List UInt8) (key : Spelling (tag * 8 + 2))
      (length : Spelling body.length)

namespace EnvelopeField

def bytes : EnvelopeField → List UInt8
  | seq key number => key.bytes ++ number.bytes
  | payload _ _ body key length => key.bytes ++ (length.bytes ++ body)

/-- The tag and the body of a payload. -/
def payload? : EnvelopeField → Option (Nat × List UInt8)
  | seq .. => none
  | payload tag _ body _ _ => some (tag, body)

@[simp] theorem payload?_seq {n : Nat} (key : Spelling (1 * 8 + 0)) (number : Spelling n) :
    (seq key number).payload? = none := rfl

@[simp] theorem payload?_payload {tag : Nat} {htag : 2 ≤ tag ∧ tag ≤ 20} {body : List UInt8}
    (key : Spelling (tag * 8 + 2)) (length : Spelling body.length) :
    (payload tag htag body key length).payload? = some (tag, body) := rfl

theorem bytes_ne_nil (f : EnvelopeField) : f.bytes ≠ [] := by
  cases f with
  | seq key number => simp [bytes, key.bytes_ne_nil]
  | payload tag htag body key length => simp [bytes, key.bytes_ne_nil]

end EnvelopeField

/-! ## The scan -/

theorem scanKey_seq : scanKey (1 * 8 + 0) = .ok false := rfl

theorem scanKey_payload {tag : Nat} (htag : 2 ≤ tag ∧ tag ≤ 20) : scanKey (tag * 8 + 2) = .ok true := by
  have hdiv : (tag * 8 + 2) / 8 = tag := by omega
  have hmod : (tag * 8 + 2) % 8 = 2 := by omega
  have hsize : ¬UInt32.size ≤ tag := by simp [UInt32.size]; omega
  have hone : tag ≠ 1 := by omega
  simp [scanKey, hdiv, hmod, hsize, hone, isPayloadTag, htag]

/-- **No other key is let pass.** -/
theorem scanKey_eq_ok {key : Nat} {isPayload : Bool} (h : scanKey key = .ok isPayload) :
    (isPayload = false ∧ key = 1 * 8 + 0) ∨ (isPayload = true ∧ ∃ tag, (2 ≤ tag ∧ tag ≤ 20) ∧ key = tag * 8 + 2) := by
  simp only [scanKey] at h
  by_cases hsize : UInt32.size ≤ key / 8
  · simp [hsize] at h
  by_cases hone : key / 8 = 1
  · by_cases hwire : key % 8 = 0
    · obtain rfl : false = isPayload := by simpa [hone, hwire, UInt32.size] using h
      exact .inl ⟨rfl, by omega⟩
    · simp [hone, hwire, UInt32.size] at h
  by_cases htag : isPayloadTag (key / 8) = true
  · by_cases hwire : key % 8 = 2
    · obtain rfl : true = isPayload := by simpa [hsize, hone, htag, hwire] using h
      exact .inr ⟨rfl, key / 8, by simpa [isPayloadTag] using htag, by omega⟩
    · simp [hsize, hone, htag, hwire] at h
  · simp [hsize, hone, htag] at h

theorem skipField_seq {n : Nat} (tag : Nat) (number : Spelling n) (rest : List UInt8) :
    skipField tag false (number.bytes ++ rest) = .ok rest := by
  simp [skipField, number.read_append]

theorem skipField_payload {body : List UInt8} (tag : Nat) (length : Spelling body.length) (rest : List UInt8) :
    skipField tag true (length.bytes ++ (body ++ rest)) = .ok rest := by
  simp [skipField, length.read_append, splitBytes_append]

theorem skipField_eq_ok {tag : Nat} {isPayload : Bool} {bytes rest : List UInt8}
    (h : skipField tag isPayload bytes = .ok rest) :
    ∃ (n : Nat) (number : Spelling n) (tail : List UInt8), bytes = number.bytes ++ tail ∧
      if isPayload then ∃ body, tail = body ++ rest ∧ body.length = n else tail = rest := by
  unfold skipField at h
  cases hread : Varint.read bytes with
  | none => simp [hread] at h
  | some x =>
    obtain ⟨n, tail⟩ := x
    obtain ⟨number, rfl⟩ := Varint.read_eq_some.1 hread
    refine ⟨n, number, tail, rfl, ?_⟩
    cases isPayload with
    | false => simpa [hread] using h
    | true =>
      cases hsplit : splitBytes n tail with
      | none => simp [hread, hsplit] at h
      | some x =>
        obtain rfl : x.2 = rest := by simpa [hread, hsplit] using h
        exact ⟨x.1, splitBytes_eq_some hsplit⟩

theorem scanField_append (f : EnvelopeField) (rest : List UInt8) :
    scanField (f.bytes ++ rest) = .ok (f.payload?.isSome, rest) := by
  cases f with
  | seq key number =>
    rw [EnvelopeField.bytes, List.append_assoc, scanField, key.read_append]
    simp only [scanKey_seq, skipField_seq, bind, Except.bind]
    rfl
  | payload tag htag body key length =>
    rw [EnvelopeField.bytes, List.append_assoc, List.append_assoc, scanField, key.read_append]
    simp only [scanKey_payload htag, skipField_payload, bind, Except.bind]
    rfl

/-- **What the scan passes over is a complete field**, whatever stands behind it. -/
theorem scanField_eq_ok {bytes rest : List UInt8} {isPayload : Bool} (h : scanField bytes = .ok (isPayload, rest)) :
    ∃ f : EnvelopeField, bytes = f.bytes ++ rest ∧ f.payload?.isSome = isPayload := by
  unfold scanField at h
  cases hread : Varint.read bytes with
  | none => simp [hread] at h
  | some x =>
    obtain ⟨k, tail⟩ := x
    obtain ⟨key, rfl⟩ := Varint.read_eq_some.1 hread
    simp only [hread, bind, Except.bind] at h
    cases hkey : scanKey k with
    | error e => simp [hkey] at h
    | ok isPayload' =>
      cases hskip : skipField (k / 8) isPayload' tail with
      | error e => simp [hkey, hskip] at h
      | ok rest' =>
        obtain ⟨rfl, rfl⟩ : isPayload' = isPayload ∧ rest' = rest := by simpa [hkey, hskip, pure, Except.pure] using h
        obtain ⟨n, number, tail, rfl, htail⟩ := skipField_eq_ok hskip
        rcases scanKey_eq_ok hkey with ⟨rfl, rfl⟩ | ⟨rfl, tag, htag, rfl⟩
        · obtain rfl : tail = rest' := by simpa using htail
          exact ⟨.seq key number, by simp [EnvelopeField.bytes], rfl⟩
        · obtain ⟨body, rfl, rfl⟩ : ∃ body, tail = body ++ rest' ∧ body.length = n := by simpa using htail
          exact ⟨.payload tag htag body key number, by simp [EnvelopeField.bytes], rfl⟩

theorem countPayloads_eq_ok : ∀ {fuel : Nat} {bytes : List UInt8} {n : Nat}, countPayloads fuel bytes = .ok n →
    ∃ fs : List EnvelopeField, bytes = fs.flatMap (·.bytes) ∧ (fs.filterMap (·.payload?)).length = n
  | _, [], n, h => by
    obtain rfl : 0 = n := by simpa [countPayloads] using h
    exact ⟨[], rfl, rfl⟩
  | 0, _ :: _, _, h => by simp [countPayloads] at h
  | fuel + 1, b :: bs, n, h => by
    simp only [countPayloads, bind, Except.bind, pure, Except.pure] at h
    cases hscan : scanField (b :: bs) with
    | error e => simp [hscan] at h
    | ok x =>
      obtain ⟨isPayload, rest⟩ := x
      obtain ⟨f, hf, hpayload⟩ := scanField_eq_ok hscan
      cases hcount : countPayloads fuel rest with
      | error e => simp [hscan, hcount] at h
      | ok m =>
        obtain ⟨fs, rfl, hm⟩ := countPayloads_eq_ok hcount
        refine ⟨f :: fs, hf, ?_⟩
        simp only [hscan, hcount] at h
        cases hp : f.payload? with
        | none =>
          obtain rfl : false = isPayload := by simpa [hp] using hpayload
          simpa [hp, hm] using h
        | some y =>
          obtain rfl : true = isPayload := by simpa [hp] using hpayload
          simpa [hp, hm] using h

/-- **The scan ends before its fuel does**, on every input. -/
theorem countPayloads_fuel : ∀ {fuel fuel' : Nat} {bytes : List UInt8}, bytes.length ≤ fuel → bytes.length ≤ fuel' →
    countPayloads fuel bytes = countPayloads fuel' bytes
  | fuel, fuel', [], _, _ => by cases fuel <;> cases fuel' <;> rfl
  | 0, _, _ :: _, h, _ | _, 0, _ :: _, _, h => by simp at h
  | fuel + 1, fuel' + 1, b :: bs, h, h' => by
    rw [countPayloads, countPayloads]
    cases hscan : scanField (b :: bs) with
    | error e => rfl
    | ok x =>
      obtain ⟨isPayload, rest⟩ := x
      obtain ⟨f, hf, -⟩ := scanField_eq_ok hscan
      have hlength : rest.length < (b :: bs).length := by
        have := List.length_pos_iff.2 f.bytes_ne_nil
        rw [hf, List.length_append]
        omega
      have hrest : countPayloads fuel rest = countPayloads fuel' rest :=
        countPayloads_fuel (by omega) (by omega)
      simp only [bind, Except.bind, hrest]

/-- **The scan goes through complete fields one by one**, whatever stands behind them. -/
theorem countPayloads_append (rest : List UInt8) : ∀ (fs : List EnvelopeField) (fuel : Nat),
    (fs.flatMap (·.bytes) ++ rest).length ≤ fuel → countPayloads fuel (fs.flatMap (·.bytes) ++ rest) =
      (countPayloads rest.length rest).map (· + (fs.filterMap (·.payload?)).length)
  | [], fuel, hfuel => by
    have hrest : countPayloads fuel rest = countPayloads rest.length rest := countPayloads_fuel hfuel (Nat.le_refl _)
    rw [List.flatMap_nil, List.nil_append, hrest]
    cases countPayloads rest.length rest <;> rfl
  | f :: fs, fuel, hfuel => by
    obtain ⟨b, bs, hf⟩ := List.exists_cons_of_ne_nil f.bytes_ne_nil
    have hscan := scanField_append f (fs.flatMap (·.bytes) ++ rest)
    rw [List.flatMap_cons, List.append_assoc] at hfuel ⊢
    rw [hf, List.cons_append, List.length_cons, List.length_append] at hfuel
    rw [hf, List.cons_append] at hscan ⊢
    cases fuel with
    | zero => omega
    | succ fuel =>
      have hrest := countPayloads_append rest fs fuel (by omega)
      rw [countPayloads, hscan]
      simp only [bind, Except.bind, hrest]
      cases countPayloads rest.length rest with
      | error e => rfl
      | ok n =>
        cases hpayload : f.payload? with
        | none => simp [hpayload, Except.map, pure, Except.pure]
        | some x => simp [hpayload, Except.map, pure, Except.pure, Nat.add_assoc]

theorem countPayloads_flatMap (fs : List EnvelopeField) {fuel : Nat} (hfuel : (fs.flatMap (·.bytes)).length ≤ fuel) :
    countPayloads fuel (fs.flatMap (·.bytes)) = .ok (fs.filterMap (·.payload?)).length := by
  have happend := countPayloads_append [] fs fuel (by simpa using hfuel)
  rwa [List.append_nil, List.length_nil, countPayloads, Except.map, Nat.zero_add] at happend

/-! ## The reader of messages -/

namespace MessageFormat

variable {σ : Type} (m : MessageFormat σ)

theorem mergeFields_append {s : σ} {t : Option σ} {field rest : List UInt8} {fuel : Nat} (hne : field ≠ [])
    (h : m.mergeField [] s (field ++ rest) = t.map fun s => ([], s, rest)) (hfuel : (field ++ rest).length ≤ fuel) :
    ∃ fuel', rest.length ≤ fuel' ∧
      m.mergeFields fuel [] s (field ++ rest) = t.bind fun s => m.mergeFields fuel' [] s rest := by
  obtain ⟨b, bs, rfl⟩ := List.exists_cons_of_ne_nil hne
  rw [List.cons_append] at h hfuel ⊢
  cases fuel with
  | zero => simp at hfuel
  | succ fuel =>
    rw [List.length_cons, List.length_append] at hfuel
    refine ⟨fuel, by omega, ?_⟩
    rw [mergeFields, h]
    cases t with
    | none => rfl
    | some s => rfl

/-- **A run of fields is taken in one by one** if each of them is, whatever stands behind it. -/
theorem mergeFields_flatMap {ι : Type} {bytes : ι → List UInt8} {take : σ → ι → Option σ} :
    ∀ (is : List ι) {s : σ} {fuel : Nat}, (∀ i ∈ is, bytes i ≠ []) →
      (∀ i ∈ is, ∀ s rest, m.mergeField [] s (bytes i ++ rest) = (take s i).map fun s => ([], s, rest)) →
      (is.flatMap bytes).length ≤ fuel → m.mergeFields fuel [] s (is.flatMap bytes) = is.foldlM take s
  | [], _, fuel, _, _, _ => by cases fuel <;> rfl
  | i :: is, s, fuel, hne, h, hfuel => by
    rw [List.flatMap_cons] at hfuel ⊢
    obtain ⟨fuel', hfuel', heq⟩ := m.mergeFields_append (hne i List.mem_cons_self) (h i List.mem_cons_self s _) hfuel
    rw [heq, List.foldlM_cons]
    cases take s i with
    | none => rfl
    | some s =>
      exact mergeFields_flatMap is (fun j hj => hne j (List.mem_cons_of_mem _ hj))
        (fun j hj => h j (List.mem_cons_of_mem _ hj)) hfuel'

theorem mergeAll_flatMap {ι : Type} {bytes : ι → List UInt8} {take : σ → ι → Option σ} (is : List ι) (s : σ)
    (hne : ∀ i ∈ is, bytes i ≠ [])
    (h : ∀ i ∈ is, ∀ s rest, m.mergeField [] s (bytes i ++ rest) = (take s i).map fun s => ([], s, rest)) :
    m.mergeAll s (is.flatMap bytes) = is.foldlM take s :=
  m.mergeFields_flatMap is hne h (Nat.le_refl _)

end MessageFormat

theorem ofTag?_isSome (tag : Nat) : (Variant.ofTag? tag).isSome = true ↔ 2 ≤ tag ∧ tag ≤ 20 := by
  constructor
  · intro h
    obtain ⟨v, hv⟩ := Option.isSome_iff_exists.1 h
    have htag : v.tag = tag := by simpa using List.find?_some hv
    subst htag
    cases v <;> decide
  · rintro ⟨hlow, hhigh⟩
    have h : ∀ t < 21, 2 ≤ t → (Variant.ofTag? t).isSome = true := by decide
    exact h tag (by omega) hlow

/-- Takes in a complete field. -/
def EnvelopeDraft.take (e : EnvelopeDraft) : EnvelopeField → Option EnvelopeDraft
  | .seq (n := n) .. => some { e with seq := UInt64.ofNat n }
  | .payload tag _ body _ _ => do
    let v ← Variant.ofTag? tag
    let b ← v.message.mergeAll (e.body v) body
    return { e with payload := some (v, b) }

/-- The greatest number that a field can have: a key has 32 bits, of which the wire type takes three. -/
def Key.maxNumber : Nat := UInt32.size / 8 - 1

theorem Key.le_maxNumber {number : Nat} (h : number ≤ 20) : number ≤ maxNumber := Nat.le_trans h (by decide)

theorem readKey_append (wire : WireType) {number code : Nat} (key : Spelling (number * 8 + code))
    (hnumber : 0 < number ∧ number ≤ Key.maxNumber) (hlt : code < 8) (hcode : WireType.ofCode? code = some wire)
    (rest : List UInt8) : readKey (key.bytes ++ rest) = some (⟨number, wire⟩, rest) := by
  have hdiv : (number * 8 + code) / 8 = number := by omega
  have hmod : (number * 8 + code) % 8 = code := by omega
  have hsize : number * 8 + code < UInt32.size := by
    simp only [Key.maxNumber, UInt32.size] at hnumber ⊢
    omega
  have hnumber : ¬number * 8 + code < 8 := by omega
  simp [readKey, key.read_append, hdiv, hmod, hcode, hsize, hnumber]

/-- **Where the scan sees a complete field, the reader of messages sees the same one.** -/
theorem mergeField_append (e : EnvelopeDraft) (f : EnvelopeField) (rest : List UInt8) :
    EnvelopeDraft.message.mergeField [] e (f.bytes ++ rest) = (e.take f).map fun e => ([], e, rest) := by
  cases f with
  | seq key number =>
    have hkey := readKey_append .varint key ⟨by decide, by decide⟩ (by decide) rfl (number.bytes ++ rest)
    simp [MessageFormat.mergeField, EnvelopeField.bytes, hkey, EnvelopeDraft.message, EnvelopeDraft.merge,
      number.read_append, EnvelopeDraft.take, checkWireType]
  | payload tag htag body key length =>
    have hkey := readKey_append .bytes key ⟨by omega, Key.le_maxNumber htag.2⟩ (by decide) rfl (length.bytes ++ (body ++ rest))
    have hone : tag ≠ 1 := by omega
    obtain ⟨v, hv⟩ := Option.isSome_iff_exists.1 ((ofTag?_isSome tag).2 htag)
    cases hbody : v.message.mergeAll (e.body v) body with
    | none =>
      simp [MessageFormat.mergeField, EnvelopeField.bytes, hkey, EnvelopeDraft.message, EnvelopeDraft.merge, hone, hv,
        readBytes_append, hbody, EnvelopeDraft.take]
    | some b =>
      simp [MessageFormat.mergeField, EnvelopeField.bytes, hkey, EnvelopeDraft.message, EnvelopeDraft.merge, hone, hv,
        readBytes_append, hbody, EnvelopeDraft.take, checkWireType]

/-! ## The two together -/

namespace EnvelopeDraft

theorem foldlM_take_of_no_payload : ∀ (fs : List EnvelopeField) (e : EnvelopeDraft), fs.filterMap (·.payload?) = [] →
    ∃ seq, fs.foldlM take e = some ⟨seq, e.payload⟩
  | [], e, _ => ⟨e.seq, rfl⟩
  | .seq (n := n) key number :: fs, e, h => by
    obtain ⟨seq, hseq⟩ := foldlM_take_of_no_payload fs { e with seq := UInt64.ofNat n }
      (by simpa [List.filterMap_cons] using h)
    exact ⟨seq, by simpa [take] using hseq⟩
  | .payload .. :: fs, _, h => by simp at h

/-- **Around one payload nothing matters**: neither the numbers nor where they stand. -/
theorem foldlM_take_of_payload {tag : Nat} {body : List UInt8} {v : Variant} (hv : Variant.ofTag? tag = some v) :
    ∀ (fs : List EnvelopeField) (e : EnvelopeDraft), e.payload = none → fs.filterMap (·.payload?) = [(tag, body)] →
      (fs.foldlM take e).map (·.payload) = (v.message.mergeAll [] body).map fun b => some (v, b)
  | [], _, _, h => by simp at h
  | .seq (n := n) key number :: fs, e, he, h => by
    have hrest := foldlM_take_of_payload hv fs { e with seq := UInt64.ofNat n } he
      (by simpa [List.filterMap_cons] using h)
    simpa [take] using hrest
  | .payload tag' htag body' key length :: fs, e, he, h => by
    obtain ⟨⟨rfl, rfl⟩, hfs⟩ : (tag' = tag ∧ body' = body) ∧ fs.filterMap (·.payload?) = [] := by
      simpa [List.filterMap_cons] using h
    have hbody : e.body v = [] := by simp [EnvelopeDraft.body, he]
    cases hb : v.message.mergeAll [] body' with
    | none => simp [take, hv, hbody, hb]
    | some b =>
      obtain ⟨seq, hseq⟩ := foldlM_take_of_no_payload fs { e with payload := some (v, b) } hfs
      simp [take, hv, hbody, hb, hseq]

end EnvelopeDraft

theorem scanPayloads_eq_ok {bytes : List UInt8} :
    scanPayloads bytes = .ok () ↔
      ∃ fs : List EnvelopeField, bytes = fs.flatMap (·.bytes) ∧ (fs.filterMap (·.payload?)).length = 1 := by
  constructor
  · intro h
    simp only [scanPayloads, bind, Except.bind] at h
    cases hcount : countPayloads bytes.length bytes with
    | error e => simp [hcount] at h
    | ok n =>
      obtain ⟨fs, hfs, hn⟩ := countPayloads_eq_ok hcount
      refine ⟨fs, hfs, ?_⟩
      rw [hn]
      match n, hcount with
      | 0, hcount => simp [hcount, throw, throwThe, MonadExceptOf.throw] at h
      | 1, _ => rfl
      | n + 2, hcount => simp [hcount, throw, throwThe, MonadExceptOf.throw] at h
  · rintro ⟨fs, rfl, hfs⟩
    have hcount := countPayloads_flatMap fs (Nat.le_refl _)
    rw [hfs] at hcount
    simp only [scanPayloads, hcount]
    rfl

/-- **The payload of a run of fields is what the body of its only payload spells.** -/
theorem ofBinary_flatMap {fs : List EnvelopeField} {tag : Nat} {body : List UInt8} {v : Variant}
    (hfs : fs.filterMap (·.payload?) = [(tag, body)]) (hv : Variant.ofTag? tag = some v) :
    (Envelope.ofBinary (fs.flatMap (·.bytes))).map (·.payload) = (v.ofBinary body).elim (.error .binary) .ok := by
  have hscan : scanPayloads (fs.flatMap (·.bytes)) = .ok () := scanPayloads_eq_ok.2 ⟨fs, rfl, by simp [hfs]⟩
  have hmerge : EnvelopeDraft.message.mergeAll ⟨0, none⟩ (fs.flatMap (·.bytes)) = fs.foldlM EnvelopeDraft.take ⟨0, none⟩ :=
    MessageFormat.mergeAll_flatMap _ fs _ (fun f _ => f.bytes_ne_nil) (fun f _ e rest => mergeField_append e f rest)
  have hpayload := EnvelopeDraft.foldlM_take_of_payload hv fs ⟨0, none⟩ rfl hfs
  simp only [Envelope.ofBinary, hscan, hmerge, Variant.ofBinary, bind, Except.bind]
  cases hbody : v.message.mergeAll [] body with
  | none =>
    have hnone : fs.foldlM EnvelopeDraft.take ⟨0, none⟩ = none := by simpa [hbody] using hpayload
    simp [hnone, Except.map, throw, throwThe, MonadExceptOf.throw]
  | some b =>
    obtain ⟨⟨seq, payload⟩, hsome, rfl⟩ : ∃ e, fs.foldlM EnvelopeDraft.take ⟨0, none⟩ = some e ∧
        e.payload = some (v, b) := by simpa [hbody] using hpayload
    simp [hsome, Except.map, pure, Except.pure]

/-- **A binary frame is read exactly if it carries one payload**: it is a run of complete fields of an envelope, one of
them a payload whose body spells what is read.  The sequence numbers in it, and where they stand, do not matter; nothing
else may stand in it.  The scan of it ends by itself. -/
theorem Frame.decode_binary_iff (limit : Nat) {b : List UInt8} (hb : b.length ≤ limit) :
    (∀ p, (Frame.binary b).decode limit = .ok p ↔
      ∃ fs : List EnvelopeField, b = fs.flatMap (·.bytes) ∧
        ∃ tag body v, fs.filterMap (·.payload?) = [(tag, body)] ∧ Variant.ofTag? tag = some v ∧
          v.ofBinary body = some p) ∧
      ∀ fuel, b.length ≤ fuel → countPayloads fuel b = countPayloads b.length b := by
  have hsize : ¬limit < (Frame.binary b).size := Nat.not_lt.2 hb
  refine ⟨fun p => ?_, fun fuel hfuel => countPayloads_fuel hfuel (Nat.le_refl _)⟩
  rw [decode, if_neg hsize, read]
  constructor
  · intro h
    -- It is the scan that finds one payload only; the reader would be content with the last of several.
    have hscan : scanPayloads b = .ok () := by
      cases hscan : scanPayloads b with
      | error e => simp [Envelope.ofBinary, hscan, bind, Except.bind, Except.map] at h
      | ok u => rfl
    obtain ⟨fs, rfl, hone⟩ := scanPayloads_eq_ok.1 hscan
    obtain ⟨⟨tag, body⟩, hfs⟩ := List.length_eq_one_iff.1 hone
    have hmem : (tag, body) ∈ fs.filterMap (·.payload?) := by simp [hfs]
    obtain ⟨f, -, hf⟩ := List.mem_filterMap.1 hmem
    obtain ⟨v, hv⟩ : ∃ v, Variant.ofTag? tag = some v := by
      cases f with
      | seq => simp at hf
      | payload tag' htag body' key length =>
        obtain ⟨rfl, -⟩ : tag' = tag ∧ body' = body := by simpa using hf
        exact Option.isSome_iff_exists.1 ((ofTag?_isSome tag').2 htag)
    rw [ofBinary_flatMap hfs hv] at h
    refine ⟨fs, rfl, tag, body, v, hfs, hv, ?_⟩
    cases hbody : v.ofBinary body with
    | none => simp [hbody] at h
    | some q => simpa [hbody] using h
  · rintro ⟨fs, rfl, tag, body, v, hfs, hv, hbody⟩
    rw [ofBinary_flatMap hfs hv, hbody]
    rfl

/-- A heartbeat between two sequence numbers, with superfluous bytes in a key and in a length. -/
theorem Frame.decode_binary_superfluous :
    ∃ fs : List EnvelopeField,
      [0x88, 0x80, 0x00, 0x07, 0x52, 0x82, 0x00, 0x08, 0x05, 0x08, 0x01] = fs.flatMap (·.bytes) ∧
        ∃ tag body v, fs.filterMap (·.payload?) = [(tag, body)] ∧ Variant.ofTag? tag = some v ∧
          v.ofBinary body = some (.heartbeat 5) :=
  ((Frame.decode_binary_iff 11 (by decide)).1 _).1 rfl

end EventGateway.Wire
