import EventGateway.Event.Basic
import EventGateway.Proofs.RoundTrip
/-!
# Frames of events — nothing of an event is lost on the wire

A field begins with its number, and the numbers go up, so the bytes of a body tell which values were left out and what
the others are (`writeFields_injective`).  Where at most one of the values is a text this holds of texts of any length.
So a frame tells its envelope in both encodings (`Envelope.encode_injective`), and the payload of an event tells the
event (`Event.ofPayload?_payload`).
-/
namespace EventGateway.Wire

/-! ## Varints -/

theorem Varint.write_append_inj {m n : UInt64} {a b : List UInt8} (h : write m ++ a = write n ++ b) :
    m = n ∧ a = b := by
  have hread := read_write m a
  rw [h, read_write n b] at hread
  obtain ⟨hn, hb⟩ := Prod.mk.inj (Option.some.inj hread)
  exact ⟨(UInt64.toNat_inj.1 hn).symm, hb.symm⟩

theorem Varint.length_writeWithin_le : ∀ room n : Nat, (writeWithin room n).length ≤ room + 1
  | 0, _ => Nat.le_refl 1
  | room + 1, n => by
    rw [writeWithin]
    split
    · exact Nat.le_add_left 1 _
    · exact Nat.succ_le_succ (length_writeWithin_le room (n / 128))

theorem Varint.length_write_le (n : UInt64) : (write n).length ≤ maxLength := length_writeWithin_le 9 n.toNat

/-! ## Values -/

theorem FieldValue.binary_eq (number : Nat) (v : FieldValue) :
    ∃ code, v.binary number = writeKey number code ++ v.tail := by
  cases v <;> exact ⟨_, rfl⟩

theorem length_binary_le {kind : FieldKind} {v : FieldValue} (hv : kind.holds v = true) (hkind : kind ≠ .text)
    (number : Nat) : (v.binary number).length ≤ 2 * Varint.maxLength := by
  have htail : v.tail.length ≤ Varint.maxLength := by
    cases v with
    | text => cases kind <;> simp_all [FieldKind.holds]
    | uint32 | uint64 | int64 => exact Varint.length_write_le _
  obtain ⟨code, hbinary⟩ := v.binary_eq number
  have hkey : (writeKey number code).length ≤ Varint.maxLength := Varint.length_write_le _
  rw [hbinary, List.length_append, Nat.two_mul]
  exact Nat.add_le_add hkey htail

/-- There is one default of each kind. -/
theorem eq_of_isDefault : ∀ {kind : FieldKind} {v w : FieldValue}, kind.holds v = true → kind.holds w = true →
    v.isDefault = true → w.isDefault = true → v = w
  | .uint32, .uint32 _, .uint32 _, _, _, hv, hw => by simp_all [FieldValue.isDefault]
  | .uint64, .uint64 _, .uint64 _, _, _, hv, hw => by simp_all [FieldValue.isDefault]
  | .id, .uint64 _, .uint64 _, _, _, hv, hw => by simp_all [FieldValue.isDefault]
  | .int64, .int64 _, .int64 _, _, _, hv, hw => by simp_all [FieldValue.isDefault]
  | .text, .text _, .text _, _, _, hv, hw => by simp_all [FieldValue.isDefault]

theorem toUTF8_injective {s t : String} (h : s.toUTF8.toList = t.toUTF8.toList) : s = t := by
  have hs := readUtf8_toUTF8 s
  rw [h, readUtf8_toUTF8 t] at hs
  exact (Option.some.inj hs).symm

/-- A length is written modulo the machine word, so what stands behind a text must be shorter than that. -/
theorem writeBytes_append_inj {x y a b : List UInt8} (ha : a.length < UInt64.size) (hb : b.length < UInt64.size)
    (h : writeBytes x ++ a = writeBytes y ++ b) : x = y ∧ a = b := by
  rw [writeBytes, writeBytes, List.append_assoc, List.append_assoc] at h
  obtain ⟨hlength, hbytes⟩ := Varint.write_append_inj h
  have hsum := congrArg List.length hbytes
  have hmod := congrArg UInt64.toNat hlength
  rw [List.length_append, List.length_append] at hsum
  rw [UInt64.toNat_ofNat', UInt64.toNat_ofNat'] at hmod
  simp only [UInt64.size] at ha hb
  exact List.append_inj hbytes (by omega)

theorem tail_append_inj : ∀ {kind : FieldKind} {v w : FieldValue} {a b : List UInt8}, kind.holds v = true →
    kind.holds w = true → (kind = .text → a.length < UInt64.size ∧ b.length < UInt64.size) →
    v.tail ++ a = w.tail ++ b → v = w ∧ a = b
  | .uint32, .uint32 _, .uint32 _, _, _, _, _, _, h => by
    obtain ⟨hn, hab⟩ := Varint.write_append_inj h
    exact ⟨by rw [UInt32.toUInt64_inj.1 hn], hab⟩
  | .uint64, .uint64 _, .uint64 _, _, _, _, _, _, h => by
    obtain ⟨hn, hab⟩ := Varint.write_append_inj h
    exact ⟨by rw [hn], hab⟩
  | .id, .uint64 _, .uint64 _, _, _, _, _, _, h => by
    obtain ⟨hn, hab⟩ := Varint.write_append_inj h
    exact ⟨by rw [hn], hab⟩
  | .int64, .int64 _, .int64 _, _, _, _, _, _, h => by
    obtain ⟨hn, hab⟩ := Varint.write_append_inj h
    have hn := congrArg UInt64.toInt64 hn
    rw [Int64.toInt64_toUInt64, Int64.toInt64_toUInt64] at hn
    exact ⟨by rw [hn], hab⟩
  | .text, .text _, .text _, _, _, _, _, hshort, h => by
    obtain ⟨hs, hab⟩ := writeBytes_append_inj (hshort rfl).1 (hshort rfl).2 h
    exact ⟨by rw [toUTF8_injective hs], hab⟩

/-! ## Bodies -/

theorem length_writeFields_le : ∀ {fs : List Field} {vs : List FieldValue} (k : Nat), fit fs vs = true →
    (∀ f ∈ fs, f.kind ≠ .text) → (writeFields k vs).length ≤ 2 * Varint.maxLength * fs.length
  | [], [], _, _, _ => Nat.le_refl 0
  | f :: fs, v :: vs, k, h, hkinds => by
    rw [fit, Bool.and_eq_true] at h
    have hrest := length_writeFields_le (k + 1) h.2 fun f hf => hkinds f (List.mem_cons_of_mem _ hf)
    have hvalue := length_binary_le h.1 (hkinds f List.mem_cons_self) k
    rw [writeFields, List.length_append, List.length_cons, Nat.mul_succ, Nat.add_comm]
    refine Nat.add_le_add hrest ?_
    split
    · exact Nat.zero_le _
    · exact hvalue

/-- What is left out does not come later. -/
theorem le_of_readKey_writeFields : ∀ {vs : List FieldValue} {k : Nat} {key : Key} {rest : List UInt8}, 0 < k →
    k + vs.length ≤ 21 → readKey (writeFields k vs) = some (key, rest) → k ≤ key.number
  | [], _, _, _, _, _, h => by cases h
  | v :: vs, k, key, rest, hk, hle, h => by
    rw [List.length_cons] at hle
    rw [writeFields] at h
    split at h
    · have hlater := le_of_readKey_writeFields (Nat.succ_pos k) (by omega) h
      omega
    · rw [readKey_binary ⟨hk, by omega⟩] at h
      obtain ⟨rfl, -⟩ := Prod.mk.inj (Option.some.inj h)
      exact Nat.le_refl k

theorem writeFields_ne_binary {vs : List FieldValue} {k : Nat} (hk : 0 < k) (hle : k + 1 + vs.length ≤ 21) (v : FieldValue)
    (rest : List UInt8) : writeFields (k + 1) vs ≠ v.binary k ++ rest := by
  intro h
  have hread := readKey_binary ⟨hk, by omega⟩ v rest
  rw [← h] at hread
  exact absurd (le_of_readKey_writeFields (Nat.succ_pos k) hle hread) (Nat.not_succ_le_self k)

theorem length_of_fit : ∀ {fs : List Field} {vs : List FieldValue}, fit fs vs = true → vs.length = fs.length
  | [], [], _ => rfl
  | _ :: _, _ :: _, h => by
    rw [fit, Bool.and_eq_true] at h
    rw [List.length_cons, List.length_cons, length_of_fit h.2]

/-- **The bytes of a body tell its values**, if at most one of them is a text. -/
theorem writeFields_injective : ∀ {fs : List Field} {vs ws : List FieldValue} {k : Nat}, 0 < k → k + fs.length ≤ 21 →
    fs.countP (·.kind == .text) ≤ 1 → fit fs vs = true → fit fs ws = true → writeFields k vs = writeFields k ws →
    vs = ws
  | [], [], [], _, _, _, _, _, _, _ => rfl
  | f :: fs, v :: vs, w :: ws, k, hk, hle, htexts, hv, hw, h => by
    rw [List.length_cons] at hle
    rw [fit, Bool.and_eq_true] at hv hw
    have hlength {us : List FieldValue} (hus : fit fs us = true) : k + 1 + us.length ≤ 21 := by
      rw [length_of_fit hus]
      omega
    have hrest (h : writeFields (k + 1) vs = writeFields (k + 1) ws) : vs = ws :=
      writeFields_injective (Nat.succ_pos k) (by omega)
        (Nat.le_trans (List.Sublist.countP_le (List.sublist_cons_self f fs)) htexts) hv.2 hw.2 h
    rw [writeFields, writeFields] at h
    cases hvd : v.isDefault with
    | true =>
      cases hwd : w.isDefault with
      | true =>
        rw [hvd, hwd] at h
        rw [eq_of_isDefault hv.1 hw.1 hvd hwd, hrest h]
      | false =>
        rw [hvd, hwd] at h
        exact absurd h (writeFields_ne_binary hk (hlength hv.2) w _)
    | false =>
      cases hwd : w.isDefault with
      | true =>
        rw [hvd, hwd] at h
        exact absurd h.symm (writeFields_ne_binary hk (hlength hw.2) v _)
      | false =>
        rw [hvd, hwd, if_neg Bool.false_ne_true, if_neg Bool.false_ne_true] at h
        have hread := readKey_binary ⟨hk, by omega⟩ v (writeFields (k + 1) vs)
        rw [h, readKey_binary ⟨hk, by omega⟩ w] at hread
        have htail := (Prod.mk.inj (Option.some.inj hread)).2
        -- Behind the only text stand few numbers.
        have hshort {us : List FieldValue} (hus : fit fs us = true) (hkind : f.kind = .text) :
            (writeFields (k + 1) us).length < UInt64.size := by
          have hnone : fs.countP (·.kind == .text) = 0 := by
            rw [List.countP_cons_of_pos (by simpa using hkind)] at htexts
            exact Nat.le_zero.1 (Nat.le_of_succ_le_succ htexts)
          have hbytes := length_writeFields_le (k + 1) hus fun g hg => by
            simpa using List.countP_eq_zero.1 hnone g hg
          simp only [Varint.maxLength, UInt64.size] at hbytes ⊢
          omega
        obtain ⟨hvalue, hbytes⟩ := tail_append_inj hw.1 hv.1 (fun hkind => ⟨hshort hw.2 hkind, hshort hv.2 hkind⟩) htail
        rw [hvalue, hrest hbytes.symm]

/-! ## Envelopes -/

theorem Payload.binary_injective {p q : Payload} (hvariant : p.variant = q.variant)
    (htexts : p.variant.fields.countP (·.kind == .text) ≤ 1) (h : p.binary = q.binary) : p = q := by
  have hle := length_fields_le p.variant
  refine Payload.ext_values hvariant ?_
  exact writeFields_injective Nat.one_pos (by omega) htexts (fit_values p) (hvariant ▸ fit_values q) h

theorem tag_injective {v w : Variant} (h : v.tag = w.tag) : v = w := by
  have hv := ofTag?_tag v
  rw [h, ofTag?_tag w] at hv
  exact (Option.some.inj hv).symm

/-- The field that holds a payload. -/
def Payload.field (p : Payload) : List UInt8 := writeKey p.variant.tag 2 ++ writeBytes p.binary

theorem Payload.readKey_field (p : Payload) : readKey p.field = some (⟨p.variant.tag, .bytes⟩, writeBytes p.binary) := by
  have hbounds := tag_bounds p.variant
  exact readKey_write .bytes ⟨by omega, hbounds.2⟩ (by decide) rfl _

theorem Payload.field_injective {p q : Payload} (htexts : p.variant.fields.countP (·.kind == .text) ≤ 1)
    (h : p.field = q.field) : p = q := by
  have hread := p.readKey_field
  rw [h, q.readKey_field] at hread
  obtain ⟨htag, hbytes⟩ := Prod.mk.inj (Option.some.inj hread)
  have hbody := (Varint.write_append_inj hbytes).2
  exact Payload.binary_injective (tag_injective (Key.mk.inj htag).1.symm) htexts hbody.symm

/-- A sequence number that is written comes first, and it is told from a payload by its key. -/
theorem readKey_seq (n : UInt64) (rest : List UInt8) :
    readKey (writeKey 1 0 ++ Varint.write n ++ rest) = some (⟨1, .varint⟩, Varint.write n ++ rest) := by
  rw [List.append_assoc]
  exact readKey_write .varint (by decide) (by decide) rfl _

theorem Payload.field_ne_seq (p : Payload) (n : UInt64) (rest : List UInt8) :
    p.field ≠ writeKey 1 0 ++ Varint.write n ++ rest := by
  intro h
  have hread := p.readKey_field
  rw [h, readKey_seq] at hread
  have htag := (Key.mk.inj (Prod.mk.inj (Option.some.inj hread)).1).1
  have hbounds := (tag_bounds p.variant).1
  omega

theorem Envelope.binary_injective {e e' : Envelope} (htexts : e.payload.variant.fields.countP (·.kind == .text) ≤ 1)
    (h : e.binary = e'.binary) : e = e' := by
  obtain ⟨m, p⟩ := e
  obtain ⟨n, q⟩ := e'
  have hbinary (n : UInt64) (p : Payload) : binary ⟨n, p⟩ =
      (if n = 0 then [] else writeKey 1 0 ++ Varint.write n) ++ p.field := rfl
  rw [hbinary, hbinary] at h
  by_cases hm : m = 0
  · by_cases hn : n = 0
    · rw [if_pos hm, if_pos hn] at h
      obtain rfl := Payload.field_injective htexts h
      rw [hm, hn]
    · rw [if_pos hm, if_neg hn] at h
      exact absurd h (p.field_ne_seq n _)
  · by_cases hn : n = 0
    · rw [if_neg hm, if_pos hn] at h
      exact absurd h.symm (q.field_ne_seq m _)
    · rw [if_neg hm, if_neg hn] at h
      have hread := readKey_seq m p.field
      rw [h, readKey_seq] at hread
      obtain ⟨hseq, hfield⟩ := Varint.write_append_inj (Prod.mk.inj (Option.some.inj hread)).2
      obtain rfl := Payload.field_injective htexts hfield.symm
      rw [hseq]

/-- **A written text tells its envelope.** -/
theorem Envelope.render_injective {e e' : Envelope} (h : e.json.render = e'.json.render) : e = e' := by
  have hread := Json.readText_render EnvelopeParts.ofJson (plain_envelope e)
  rw [h, Json.readText_render EnvelopeParts.ofJson (plain_envelope e'), ofJson_envelope, ofJson_envelope] at hread
  obtain ⟨hseq, hpayload⟩ := EnvelopeParts.mk.inj (Except.ok.inj hread)
  cases e
  cases e'
  exact congr (congrArg Envelope.mk hseq.symm) (Option.some.inj hpayload).symm

/-- **A frame tells its envelope**, in either encoding, if at most one of the values is a text. -/
theorem Envelope.encode_injective {e e' : Envelope} {encoding : Encoding}
    (htexts : e.payload.variant.fields.countP (·.kind == .text) ≤ 1) (h : e.encode encoding = e'.encode encoding) :
    e = e' := by
  cases encoding with
  | json => exact Envelope.render_injective (Frame.text.inj h)
  | protobuf => exact Envelope.binary_injective htexts (Frame.binary.inj h)

/-- A frame that is written is read as its payload; a binary one if its lengths are machine words. -/
theorem Envelope.read_encode {e : Envelope} {encoding : Encoding}
    (h : encoding = .protobuf → e.payload.binary.length < UInt64.size) :
    (e.encode encoding).read.map (·.payload) = .ok e.payload := by
  cases encoding with
  | json =>
    rw [encode, Frame.read, Json.readText_render EnvelopeParts.ofJson (plain_envelope e), ofJson_envelope]
    rfl
  | protobuf => exact ofBinary_envelope e (h rfl)

theorem Envelope.length_body_le (e : Envelope) : e.payload.binary.length ≤ e.binary.length := by
  simp only [Envelope.binary, writeBytes, List.length_append]
  omega

end EventGateway.Wire

namespace EventGateway

open Wire (Payload Frame Envelope Encoding)

namespace Event

/-- The event that a payload tells of, if it tells of one. -/
def ofPayload? : Payload → Option Event
  | .messageCreated channel message author content timestamp =>
    some (.messageCreated (.ofUInt64 channel) (.ofUInt64 message) (.ofUInt64 author) content timestamp)
  | .messageUpdated channel message content timestamp =>
    some (.messageUpdated (.ofUInt64 channel) (.ofUInt64 message) content timestamp)
  | .messageDeleted channel message => some (.messageDeleted (.ofUInt64 channel) (.ofUInt64 message))
  | .typingStarted channel user timestamp => some (.typingStarted (.ofUInt64 channel) (.ofUInt64 user) timestamp)
  | .presenceUpdated user status => (Presence.parse? status).map (.presenceUpdated (.ofUInt64 user))
  | _ => none

theorem ofUInt64_toUInt64 (s : Snowflake) : Snowflake.ofUInt64 s.toUInt64 = s := by
  rw [Snowflake.ofUInt64, Snowflake.toUInt64, Int64.toInt64_toUInt64]

theorem parse?_text (status : Presence) : Presence.parse? status.text = some status := by
  cases status <;> decide

/-- **The payload of an event tells the event.** -/
theorem ofPayload?_payload (e : Event) : ofPayload? e.payload = some e := by
  cases e <;> simp [payload, ofPayload?, ofUInt64_toUInt64, parse?_text]

theorem role_payload (e : Event) : e.payload.role = .dispatch := by
  cases e <;> rfl

/-- There is one text in it at most. -/
theorem countP_text_payload (e : Event) : e.payload.variant.fields.countP (·.kind == .text) ≤ 1 := by
  cases e <;> exact of_decide_eq_true rfl

theorem decode_frame (e : Event) (n : UInt64) {encoding : Encoding} {limit : UInt64}
    (h : (Envelope.encode encoding ⟨n, e.payload⟩).size ≤ limit.toNat) :
    (Envelope.encode encoding ⟨n, e.payload⟩).decode limit.toNat = .ok e.payload := by
  rw [Frame.decode, if_neg (Nat.not_lt.2 h), Envelope.read_encode]
  -- The limit is a machine word, so every length in a binary frame is one.
  rintro rfl
  exact Nat.lt_of_le_of_lt (Nat.le_trans (Envelope.length_body_le ⟨n, e.payload⟩) h) limit.toNat_lt

/-- **Nothing of an event is lost on its way to the wire.**  In either encoding, two events under two sequence numbers
that have the same frame are the same event under the same number.  Within a limit, the frame of an event is read as a
dispatch that tells the event, and with it the scopes and the kind of the event. -/
theorem frame_tells_event (encoding : Encoding) :
    (∀ (e f : Event) (m n : UInt64),
      Envelope.encode encoding ⟨m, e.payload⟩ = Envelope.encode encoding ⟨n, f.payload⟩ → e = f ∧ m = n) ∧
    ∀ (e : Event) (n limit : UInt64), (Envelope.encode encoding ⟨n, e.payload⟩).size ≤ limit.toNat →
      ∃ p, (Envelope.encode encoding ⟨n, e.payload⟩).decode limit.toNat = .ok p ∧ p.role = .dispatch ∧
        ofPayload? p = some e ∧ (ofPayload? p).map scopes = some e.scopes ∧ (ofPayload? p).map kind = some e.kind := by
  constructor
  · intro e f m n h
    obtain ⟨hseq, hpayload⟩ := Envelope.mk.inj (Envelope.encode_injective e.countP_text_payload h)
    have htold : ofPayload? e.payload = ofPayload? f.payload := congrArg ofPayload? hpayload
    rw [e.ofPayload?_payload, f.ofPayload?_payload] at htold
    exact ⟨Option.some.inj htold, hseq⟩
  · intro e n limit hsize
    refine ⟨e.payload, e.decode_frame n hsize, e.role_payload, e.ofPayload?_payload, ?_, ?_⟩
    · rw [e.ofPayload?_payload]
      rfl
    · rw [e.ofPayload?_payload]
      rfl

/-- A negative id and a zero, which is left out, trade places: the frames differ, and each is read back in as many bytes
as it has. -/
theorem frame_tells_event_negative :
    let e := messageUpdated ⟨-1⟩ ⟨0⟩ "" Int64.minValue
    let f := messageUpdated ⟨0⟩ ⟨-1⟩ "" Int64.minValue
    e ≠ f ∧ Envelope.encode .protobuf ⟨0, e.payload⟩ ≠ Envelope.encode .protobuf ⟨0, f.payload⟩ ∧
      Envelope.encode .json ⟨0, e.payload⟩ ≠ Envelope.encode .json ⟨0, f.payload⟩ ∧
      (Envelope.encode .protobuf ⟨0, e.payload⟩).size = 25 ∧
      ∃ p, (Envelope.encode .protobuf ⟨0, e.payload⟩).decode 25 = .ok p ∧ ofPayload? p = some e := by
  intro e f
  have hne : e ≠ f := by decide
  obtain ⟨hbinary, hread⟩ := frame_tells_event .protobuf
  obtain ⟨htext, -⟩ := frame_tells_event .json
  have hsize : (Envelope.encode .protobuf ⟨0, e.payload⟩).size = 25 := by decide +kernel
  obtain ⟨p, hp, -, htold, -⟩ := hread e 0 25 (Nat.le_of_eq hsize)
  exact ⟨hne, fun h => hne (hbinary e f 0 0 h).1, fun h => hne (htext e f 0 0 h).1, hsize, p, hp, htold⟩

end Event
end EventGateway
