import EventGateway.Proofs.JsonText
import EventGateway.Proofs.TextFrames
/-!
# Envelopes, written and read

What the server writes is read back in both encodings, whatever the payload and its values (`decode_encode`).  The
binary form is a run of fields that the scan lets pass; the text is a document that encloses the payload.
-/
namespace EventGateway.Wire

/-! ## The binary form -/

/-- **No text is longer than the body that it stands in.** -/
theorem size_le_writeFields {s : String} : ∀ (k : Nat) {vs : List FieldValue}, .text s ∈ vs →
    s.utf8ByteSize ≤ (writeFields k vs).length
  | k, v :: vs, h => by
    rw [writeFields, List.length_append]
    rcases List.mem_cons.1 h with rfl | h
    · cases hempty : (FieldValue.text s).isDefault with
      | true =>
        obtain rfl : s = "" := by simpa [FieldValue.isDefault] using hempty
        exact Nat.zero_le _
      | false =>
        simp only [Bool.false_eq_true, if_false, FieldValue.binary, writeBytes, List.length_append, length_toUTF8]
        omega
    · have := size_le_writeFields (k + 1) h
      omega

theorem holdable_values {p : Payload} (h : p.binary.length < UInt64.size) : ∀ v ∈ p.values, v.holdable = true := by
  intro v hv
  cases v with
  | text s =>
    have := size_le_writeFields 1 hv
    exact decide_eq_true (Nat.lt_of_le_of_lt this h)
  | uint32 n | uint64 n | int64 n => rfl

theorem ofTag?_tag (v : Variant) : Variant.ofTag? v.tag = some v := by
  cases v <;> rfl

theorem tag_bounds (v : Variant) : 2 ≤ v.tag ∧ v.tag ≤ 20 := by
  cases v <;> decide

theorem payloadKey_lt (v : Variant) : v.tag * 8 + 2 < UInt64.size := by
  have := (tag_bounds v).2
  simp only [UInt64.size]
  omega

/-- The fields that an envelope is written as. -/
def Envelope.fields (e : Envelope) (h : e.payload.binary.length < UInt64.size) : List EnvelopeField :=
  (if e.seq = 0 then []
    else [.seq (Varint.spellingOf (1 * 8 + 0) (by decide)) (Varint.spellingOf e.seq.toNat e.seq.toNat_lt)]) ++
    [.payload e.payload.variant.tag (tag_bounds _) e.payload.binary (Varint.spellingOf _ (payloadKey_lt _))
      (Varint.spellingOf _ h)]

theorem binary_eq_flatMap (e : Envelope) (h : e.payload.binary.length < UInt64.size) :
    e.binary = (e.fields h).flatMap (·.bytes) := by
  rw [Envelope.binary, Envelope.fields]
  by_cases hseq : e.seq = 0
  · simp only [hseq, if_true, List.nil_append, List.flatMap_cons, List.flatMap_nil, List.append_nil]
    rfl
  · simp only [hseq, if_false, List.cons_append, List.nil_append, List.flatMap_cons, List.flatMap_nil, List.append_nil,
      EnvelopeField.bytes, Varint.spellingOf, UInt64.ofNat_toNat]
    rfl

theorem ofBinary_envelope (e : Envelope) (h : e.payload.binary.length < UInt64.size) :
    (Envelope.ofBinary e.binary).map (·.payload) = .ok e.payload := by
  have hpayload : (e.fields h).filterMap (·.payload?) = [(e.payload.variant.tag, e.payload.binary)] := by
    rw [Envelope.fields]
    by_cases hseq : e.seq = 0
    · rw [if_pos hseq]
      rfl
    · rw [if_neg hseq]
      rfl
  rw [binary_eq_flatMap e h, ofBinary_flatMap hpayload (ofTag?_tag _), ofBinary_binary (holdable_values h)]
  rfl

/-! ## The text -/

theorem reads_json : ∀ {kind : FieldKind} {x : FieldValue}, kind.holds x = true → kind.Reads (x.json kind) x
  | .uint32, .uint32 n, _ => .uint32 n
  | .uint64, .uint64 n, _ => .uint64 n
  | .id, .uint64 n, _ => .idText (Text.readUInt64_ofNat n)
  | .int64, .int64 n, _ => .int64 n
  | .text, .text s, _ => .text s

/-- The members of the record of a payload. -/
def Payload.members (p : Payload) : List (String × Json) :=
  List.zipWith (fun f v => (f.name, v.json f.kind)) p.variant.fields p.values

theorem holds_of_mem_zip {f : Field} {x : FieldValue} : ∀ {fs : List Field} {xs : List FieldValue},
    fit fs xs = true → (f, x) ∈ fs.zip xs → f.kind.holds x = true
  | _ :: _, _ :: _, h, hmem => by
    rw [fit, Bool.and_eq_true] at h
    rcases List.mem_cons.1 hmem with heq | hmem
    · obtain ⟨rfl, rfl⟩ := Prod.mk.inj heq
      exact h.1
    · exact holds_of_mem_zip h.2 hmem

theorem length_values (p : Payload) : p.variant.fields.length = p.values.length := by
  cases p <;> rfl

theorem map_fst_members (p : Payload) : p.members.map Prod.fst = p.variant.fields.map (·.name) := by
  cases p <;> rfl

/-- **A record describes a payload if its parts are those of the payload**, whatever other members it has. -/
theorem described_of_parts {p : Payload} {ms : List (String × Json)} (h : p.variant.format.parts ms = p.members) :
    p.Described (.ofFields ms) := by
  have hnodup : (p.members.map Prod.fst).Nodup := by
    rw [map_fst_members]
    exact nodup_names p.variant
  refine ⟨ms, .object ms, List.forall_mem_map.1 (Json.RecordFormat.nodup_parts_iff.1 (h ▸ hnodup)), ?_⟩
  refine List.forall₂_iff_zip.2 ⟨length_values p, fun {f x} hmem => ?_⟩
  have hmember : (f.name, x.json f.kind) ∈ p.members := by
    rw [Payload.members, ← List.map_uncurry_zip_eq_zipWith]
    exact List.mem_map_of_mem hmem
  have hname : f.name ∈ p.variant.format.names := List.mem_map_of_mem (List.of_mem_zip hmem).1
  have hlookup := Json.RecordFormat.lookup_of_mem hnodup _ hmember
  rw [← h, Json.RecordFormat.lookup_parts hname] at hlookup
  rw [Field.Holds, hlookup]
  exact .given (reads_json (holds_of_mem_zip (fit_values p) hmem))

theorem parts_members (p : Payload) : p.variant.format.parts p.members = p.members := by
  refine List.filter_eq_self.2 fun m hm => List.contains_iff_mem.2 ?_
  rw [Variant.format, ← map_fst_members]
  exact List.mem_map_of_mem hm

/-- **The record of a payload describes it.** -/
theorem described_record (p : Payload) : p.Described p.record := described_of_parts (parts_members p)

/-- **A written envelope encloses the payload**, and its sequence number. -/
theorem encloses_json (e : Envelope) : Encloses e.json e.seq (some e.payload) := by
  have hpayload : Content e.payload.json (some e.payload) := .payload (described_record e.payload)
  by_cases h : e.seq = 0
  · have hjson : e.json = .ofFields [("payload", e.payload.json)] := by simp [Envelope.json, h]
    rw [hjson, h]
    exact ⟨_, .object _, by simp, by simp, .missing, .given hpayload⟩
  · have hjson : e.json = .ofFields [("seq", .nat e.seq.toNat), ("payload", e.payload.json)] := by
      simp [Envelope.json, h]
    rw [hjson]
    exact ⟨_, .object _, by simp, by simp, .given rfl, .given hpayload⟩

theorem plain_json : ∀ {kind : FieldKind} {value : FieldValue}, kind.holds value = true → (value.json kind).plain = true
  | .uint32, .uint32 n, _ => Json.isInteger_uint64 n.toUInt64
  | .uint64, .uint64 n, _ => Json.isInteger_uint64 n
  | .id, .uint64 _, _ => rfl
  | .int64, .int64 n, _ => Json.isInteger_int64 n
  | .text, .text _, _ => rfl

theorem plain_record (p : Payload) : p.record.plain = true := by
  have hmembers : ∀ (fs : List Field) (vs : List FieldValue), fit fs vs = true →
      Json.plainMembers ((List.zipWith (fun f v => (f.name, v.json f.kind)) fs vs).map (fun m => (some m.1, m.2))) = true := by
    intro fs
    induction fs with
    | nil => intro vs _; rfl
    | cons f fs ih =>
      intro vs h
      cases vs with
      | nil => rfl
      | cons v vs =>
        rw [fit, Bool.and_eq_true] at h
        rw [List.zipWith_cons_cons, List.map_cons, Json.plainMembers, plain_json h.1, ih vs h.2]
        rfl
  exact hmembers _ _ (fit_values p)

theorem plain_envelope (e : Envelope) : e.json.plain = true := by
  by_cases h : e.seq = 0
  · simp [Envelope.json, h, Json.ofFields, Json.plain, Json.plainMembers, Payload.json, plain_record]
  · simp [Envelope.json, h, Json.ofFields, Json.plain, Json.plainMembers, Payload.json, plain_record, Json.nat,
      Json.isInteger_uint64]

theorem ofJson_envelope (e : Envelope) : EnvelopeParts.ofJson e.json = .ok ⟨e.seq, some e.payload⟩ :=
  (EnvelopeParts.ofJson_eq_ok_iff (Json.whole_of_plain (plain_envelope e))).2 (encloses_json e)

/-! ## Both encodings -/

/-- **What is written is read back**, whatever the payload, its values, the sequence number and the encoding, as long as
the frame keeps to the limit.  So the two forms of an envelope are read as one payload. -/
theorem Envelope.decode_encode (e : Envelope) (encoding : Encoding) (limit : UInt64)
    (h : (e.encode encoding).size ≤ limit.toNat) : (e.encode encoding).decode limit.toNat = .ok e.payload := by
  rw [Frame.decode, if_neg (Nat.not_lt.2 h)]
  cases encoding with
  | json =>
    have hread : Json.readText EnvelopeParts.ofJson e.json.render = .ok ⟨e.seq, some e.payload⟩ := by
      rw [Json.readText_render EnvelopeParts.ofJson (plain_envelope e), ofJson_envelope]
    rw [Envelope.encode, Frame.read, hread]
    rfl
  | protobuf =>
    -- The limit is a machine word, so every length that is written has 64 bits.
    have hlength : e.payload.binary.length ≤ e.binary.length := by
      simp only [Envelope.binary, writeBytes, List.length_append]
      omega
    have hsize : e.binary.length ≤ limit.toNat := h
    have hlimit := limit.toNat_lt
    exact ofBinary_envelope e (by simp only [UInt64.size]; omega)

/-- A text with a quote, a backslash, a control character, a zero and a character outside the basic plane, and the least
signed number. -/
theorem Envelope.decode_encode_escaped :
    (Envelope.encode .json ⟨7, .messageCreated 1 2 3 "\"\\\n\x00😀" Int64.minValue⟩).decode 65536 =
        .ok (.messageCreated 1 2 3 "\"\\\n\x00😀" Int64.minValue) ∧
      (Envelope.encode .protobuf ⟨7, .messageCreated 1 2 3 "\"\\\n\x00😀" Int64.minValue⟩).decode 65536 =
        .ok (.messageCreated 1 2 3 "\"\\\n\x00😀" Int64.minValue) :=
  ⟨Envelope.decode_encode _ .json 65536 (by decide +kernel), Envelope.decode_encode _ .protobuf 65536 (by decide +kernel)⟩

end EventGateway.Wire
