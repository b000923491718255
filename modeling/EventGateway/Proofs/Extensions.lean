import EventGateway.Proofs.RoundTrip
/-!
# Extensions — what may be added to a frame

A later protocol may define more.  Inside a payload, fields and members that its variant does not define are passed over,
in both encodings and wherever they stand; beside the payload nothing may be added (`extensions_pass_inside_only`).
-/
namespace EventGateway.Wire

open Varint (Spelling)
open Json (Members Document)

/-! ## Fields that nobody defines -/

/-- What stands behind the key of a field that is no group, with the spelling of the number or of the length. -/
inductive ExtraValue where
  | varint {n : Nat} (number : Spelling n)
  | fixed64 (raw : List UInt8) (hlength : raw.length = 8)
  | delimited (raw : List UInt8) (length : Spelling raw.length)
  | fixed32 (raw : List UInt8) (hlength : raw.length = 4)

namespace ExtraValue

def wire : ExtraValue → WireType
  | varint _ => .varint
  | fixed64 .. => .fixed64
  | delimited .. => .bytes
  | fixed32 .. => .fixed32

/-- The code of the wire type. -/
def code : ExtraValue → Nat
  | varint _ => 0
  | fixed64 .. => 1
  | delimited .. => 2
  | fixed32 .. => 5

def bytes : ExtraValue → List UInt8
  | varint number => number.bytes
  | fixed64 raw _ => raw
  | delimited raw length => length.bytes ++ raw
  | fixed32 raw _ => raw

theorem code_lt (value : ExtraValue) : value.code < 8 := by
  cases value <;> simp [code]

theorem ofCode?_code (value : ExtraValue) : WireType.ofCode? value.code = some value.wire := by
  cases value <;> rfl

theorem passValue_append (value : ExtraValue) (rest : List UInt8) :
    passValue value.wire (value.bytes ++ rest) = some rest := by
  cases value with
  | varint number => simp [passValue, wire, bytes, number.read_append]
  | fixed64 raw hlength => simp [passValue, wire, bytes, ← hlength, splitBytes_append]
  | delimited raw length => simp [passValue, wire, bytes, readBytes_append]
  | fixed32 raw hlength => simp [passValue, wire, bytes, ← hlength, splitBytes_append]

/-- A value of its own is no part of a group, so no group is opened or closed. -/
theorem passField_append (value : ExtraValue) (maxGroups number : Nat) (rest : List UInt8) :
    passField maxGroups [] ⟨number, value.wire⟩ (value.bytes ++ rest) = some ([], rest) := by
  have hpass := value.passValue_append rest
  cases value with
  | varint | fixed64 | delimited | fixed32 =>
    simp only [wire] at hpass ⊢
    simp [passField, hpass]

end ExtraValue

/-- A complete field, with the spelling of its key. -/
structure ExtraField where
  number : Nat
  bounds : 0 < number ∧ number ≤ Key.maxNumber
  value : ExtraValue
  key : Spelling (number * 8 + value.code)

namespace ExtraField

def bytes (f : ExtraField) : List UInt8 := f.key.bytes ++ f.value.bytes

theorem bytes_ne_nil (f : ExtraField) : f.bytes ≠ [] := by
  simp [bytes, f.key.bytes_ne_nil]

/-- **A message passes over a field that it does not define.** -/
theorem mergeField_append (f : ExtraField) {σ : Type} (m : MessageFormat σ) (hdefines : m.defines f.number = false)
    (s : σ) (rest : List UInt8) : m.mergeField [] s (f.bytes ++ rest) = some ([], s, rest) := by
  have hkey := readKey_append f.value.wire f.key f.bounds f.value.code_lt f.value.ofCode?_code (f.value.bytes ++ rest)
  rw [bytes, List.append_assoc, MessageFormat.mergeField, hkey]
  simp [hdefines, f.value.passField_append]

end ExtraField

/-! ## Bodies with more in them -/

/-- A field in the body of a payload: a value that is written, or one that is added. -/
inductive BodyPart where
  | written (number : Nat) (value : FieldValue)
  | extra (f : ExtraField)

namespace BodyPart

def bytes : BodyPart → List UInt8
  | written number value => value.binary number
  | extra f => f.bytes

def written? : BodyPart → Option (Nat × FieldValue)
  | written number value => some (number, value)
  | extra _ => none

/-- What becomes of a body. -/
def put (b : Body) : BodyPart → Body
  | written number value => b.put number value
  | extra _ => b

theorem bytes_ne_nil (part : BodyPart) : part.bytes ≠ [] := by
  cases part with
  | written number value => exact binary_ne_nil number value
  | extra f => exact f.bytes_ne_nil

/-- What is added leaves no trace. -/
theorem foldlM_put : ∀ (parts : List BodyPart) (b : Body),
    parts.foldlM (fun b part => some (put b part)) b = some ((parts.filterMap (·.written?)).reverse ++ b)
  | [], _ => rfl
  | .written number value :: parts, b => by
    rw [List.foldlM_cons, Option.bind_eq_bind, Option.bind_some, foldlM_put parts]
    simp [put, Body.put, written?]
  | .extra _ :: parts, b => foldlM_put parts b

theorem length_written_le : ∀ parts : List BodyPart,
    ((parts.filterMap (·.written?)).flatMap fun x => x.2.binary x.1).length ≤ (parts.flatMap (·.bytes)).length
  | [] => Nat.le_refl _
  | .written number value :: parts => by
    have hrest := length_written_le parts
    simpa [written?, bytes] using hrest
  | .extra f :: parts => by
    have hrest := length_written_le parts
    rw [List.flatMap_cons, List.length_append]
    exact Nat.le_trans hrest (Nat.le_add_left _ _)

end BodyPart

/-- **The body that is written for a payload, with more fields before, between and behind its own**; their numbers are
none that the variant defines. -/
def Payload.ExtendedBody (p : Payload) (body : List UInt8) : Prop :=
  ∃ parts : List BodyPart, body = parts.flatMap (·.bytes) ∧ parts.filterMap (·.written?) = p.written ∧
    ∀ f, .extra f ∈ parts → p.variant.message.defines f.number = false

/-- The body that is written is one of them. -/
theorem Payload.extendedBody_binary (p : Payload) : p.ExtendedBody p.binary := by
  refine ⟨p.written.map fun x => .written x.1 x.2, ?_, ?_, fun f hf => ?_⟩
  · rw [p.binary_eq, List.flatMap_map]
    rfl
  · rw [List.filterMap_map]
    exact List.filterMap_some
  · obtain ⟨x, -, hx⟩ := List.mem_map.1 hf
    cases hx

theorem Payload.ExtendedBody.length_le {p : Payload} {body : List UInt8} (h : p.ExtendedBody body) :
    p.binary.length ≤ body.length := by
  obtain ⟨parts, rfl, hwritten, -⟩ := h
  rw [p.binary_eq, ← hwritten]
  exact BodyPart.length_written_le parts

/-- **What is added to a body does not change the payload.** -/
theorem Payload.ExtendedBody.ofBinary {p : Payload} {body : List UInt8} (h : p.ExtendedBody body)
    (hsize : body.length < UInt64.size) : p.variant.ofBinary body = some p := by
  have hhold := holdable_values (Nat.lt_of_le_of_lt h.length_le hsize)
  obtain ⟨parts, rfl, hwritten, hextra⟩ := h
  have hpart : ∀ part ∈ parts, ∀ (b : Body) rest, p.variant.message.mergeField [] b (part.bytes ++ rest) =
      (some (part.put b)).map fun b => ([], b, rest) := by
    intro part hmem b rest
    cases part with
    | written number value =>
      have hx : (number, value) ∈ p.written := by
        rw [← hwritten]
        exact List.mem_filterMap.2 ⟨_, hmem, rfl⟩
      exact mergeField_written hhold hx b rest
    | extra f => exact f.mergeField_append _ (hextra f hmem) b rest
  have hbody : p.variant.message.mergeAll [] (parts.flatMap (·.bytes)) = some p.written.reverse := by
    rw [MessageFormat.mergeAll_flatMap _ _ _ (fun part _ => part.bytes_ne_nil) hpart, BodyPart.foldlM_put, hwritten,
      List.append_nil]
  rw [Variant.ofBinary, hbody, Option.map_some, Payload.written, Body.payload_filter]

/-! ## Records with more in them -/

/-- **The record that is written for a payload, with more members before, between and behind its own**; their names are
texts that the variant does not define, and their values are any. -/
def Payload.ExtendedRecord (p : Payload) (record : Json) : Prop :=
  ∃ ms : List (String × Json), record = .ofFields ms ∧ p.variant.format.parts ms = p.members

/-- The record that is written is one of them. -/
theorem Payload.extendedRecord_record (p : Payload) : p.ExtendedRecord p.record := ⟨p.members, rfl, parts_members p⟩

/-- **An envelope around a payload of one record**: an object or an array, with or without a sequence number. -/
def Wraps (v : Json) (name : String) (record : Json) : Prop :=
  ∃ ms, Members ["seq", "payload"] v ms ∧ (∀ m ∈ ms, m.1 = "seq" ∨ m.1 = "payload") ∧ (ms.map Prod.fst).Nodup ∧
    (∀ w, ms.lookup "seq" = some w → ∃ n : UInt64, w = .nat n.toNat) ∧
      ms.lookup "payload" = some (.ofFields [(name, record)])

theorem wraps_bare (name : String) (record : Json) :
    Wraps (.ofFields [("payload", .ofFields [(name, record)])]) name record :=
  ⟨[("payload", .ofFields [(name, record)])], .object _, by simp, by simp, by simp [List.lookup_cons], rfl⟩

theorem Payload.ExtendedRecord.described {p : Payload} {record : Json} (h : p.ExtendedRecord record) :
    p.Described record := by
  obtain ⟨ms, rfl, hparts⟩ := h
  exact described_of_parts hparts

theorem Wraps.encloses {v record : Json} {p : Payload} (h : Wraps v p.name record) (hrecord : p.Described record) :
    ∃ seq, Encloses v seq (some p) := by
  obtain ⟨ms, hms, hnames, hnodup, hseq, hpayload⟩ := h
  have hcontent : Json.Given Content none (ms.lookup "payload") (some p) := by
    rw [hpayload]
    exact .given (.payload hrecord)
  cases hlookup : ms.lookup "seq" with
  | none => exact ⟨0, ms, hms, hnames, hnodup, hlookup ▸ .missing, hcontent⟩
  | some w =>
    obtain ⟨n, hn⟩ := hseq w hlookup
    exact ⟨n, ms, hms, hnames, hnodup, hlookup ▸ .given hn, hcontent⟩

/-! ## Beside the payload -/

/-- **A key that an envelope does not define is refused**, whatever its wire type. -/
theorem scanKey_foreign {number code : Nat} (hnumber : number = 0 ∨ 20 < number) (hcode : code < 8) :
    scanKey (number * 8 + code) = .error (.unknownVariant (min number (UInt32.size - 1))) := by
  have hdiv : (number * 8 + code) / 8 = number := by omega
  have hone : number ≠ 1 := by omega
  have htag : isPayloadTag number = false := by
    simp only [isPayloadTag, Bool.and_eq_false_iff, decide_eq_false_iff_not]
    omega
  by_cases hsize : UInt32.size ≤ number
  · rw [Nat.min_eq_right (by omega), scanKey, hdiv]
    simp [hsize]
  · rw [Nat.min_eq_left (by omega), scanKey, hdiv]
    simp [hsize, hone, htag]

/-- **The scan stops at the first key that an envelope does not define**, whatever stands behind it. -/
theorem scanPayloads_foreign (fs : List EnvelopeField) {number code : Nat} (hnumber : number = 0 ∨ 20 < number)
    (hcode : code < 8) (key : Spelling (number * 8 + code)) (rest : List UInt8) :
    scanPayloads (fs.flatMap (·.bytes) ++ (key.bytes ++ rest)) =
      .error (.unknownVariant (min number (UInt32.size - 1))) := by
  have hfield : scanField (key.bytes ++ rest) = .error (.unknownVariant (min number (UInt32.size - 1))) := by
    rw [scanField, key.read_append]
    simp only [scanKey_foreign hnumber hcode, bind, Except.bind]
  have hcount : countPayloads (key.bytes ++ rest).length (key.bytes ++ rest) =
      .error (.unknownVariant (min number (UInt32.size - 1))) := by
    obtain ⟨b, bs, hkey⟩ := List.exists_cons_of_ne_nil key.bytes_ne_nil
    rw [hkey, List.cons_append] at hfield ⊢
    rw [List.length_cons, countPayloads, hfield]
    rfl
  rw [scanPayloads, countPayloads_append _ fs _ (Nat.le_refl _), hcount]
  rfl

/-- An object with another member is no envelope. -/
theorem not_encloses_foreign {members : List (Option String × Json)} {name : Option String} {value : Json}
    (hmem : (name, value) ∈ members) (hseq : name ≠ some "seq") (hpayload : name ≠ some "payload") (seq : UInt64)
    (content : Option Payload) : ¬Encloses (.object members) seq content := by
  rintro ⟨ms, hms, hnames, -⟩
  generalize hv : Json.object members = v at hms
  cases hms with
  | object =>
    obtain rfl : members = _ := Json.object.inj hv
    obtain ⟨m, hm, heq⟩ := List.mem_map.1 hmem
    obtain ⟨rfl, -⟩ := Prod.mk.inj heq
    rcases hnames m hm with h | h
    · exact hseq (congrArg some h)
    · exact hpayload (congrArg some h)
  | array => cases hv

/-! ## Frames -/

namespace Frame

/-- **A frame with more inside its payload** than is written for it. -/
inductive Extended (p : Payload) : Frame → Prop where
  | binary (fs : List EnvelopeField) {body : List UInt8} (hbody : p.ExtendedBody body)
    (hfs : fs.filterMap (·.payload?) = [(p.variant.tag, body)]) : Extended p (.binary (fs.flatMap (·.bytes)))
  | text {record v : Json} {t : String} (hrecord : p.ExtendedRecord record) (hv : Wraps v p.name record)
    (ht : Document v t.toList) : Extended p (.text t)

/-- **A frame with something beside its payload** that an envelope does not define. -/
inductive Foreign : Frame → Prop where
  | binary (fs : List EnvelopeField) {number code : Nat} (hnumber : number = 0 ∨ 20 < number) (hcode : code < 8)
    (key : Spelling (number * 8 + code)) (rest : List UInt8) :
    Foreign (.binary (fs.flatMap (·.bytes) ++ (key.bytes ++ rest)))
  | text {members : List (Option String × Json)} {name : Option String} {value : Json} {t : String}
    (ht : Document (.object members) t.toList) (hmem : (name, value) ∈ members) (hseq : name ≠ some "seq")
    (hpayload : name ≠ some "payload") : Foreign (.text t)

theorem length_body_le {fs : List EnvelopeField} {tag : Nat} {body : List UInt8}
    (hfs : fs.filterMap (·.payload?) = [(tag, body)]) : body.length ≤ (fs.flatMap (·.bytes)).length := by
  have hmem : (tag, body) ∈ fs.filterMap (·.payload?) := by simp [hfs]
  obtain ⟨f, hf, hpayload⟩ := List.mem_filterMap.1 hmem
  obtain ⟨before, behind, rfl⟩ := List.append_of_mem hf
  cases f with
  | seq => cases hpayload
  | payload tag' htag body' key length =>
    obtain ⟨rfl, rfl⟩ : tag' = tag ∧ body' = body := by simpa using hpayload
    simp only [List.flatMap_append, List.flatMap_cons, List.length_append, EnvelopeField.bytes]
    omega

theorem decode_extended {p : Payload} {f : Frame} (h : f.Extended p) {limit : UInt64} (hsize : f.size ≤ limit.toNat) :
    f.decode limit.toNat = .ok p := by
  cases h with
  | @binary fs body hbody hfs =>
    -- The limit is a machine word, so every text in the body has 64 bits of length.
    have hlength : body.length < UInt64.size :=
      Nat.lt_of_le_of_lt (Nat.le_trans (length_body_le hfs) hsize) limit.toNat_lt
    rw [decode, if_neg (Nat.not_lt.2 hsize), read, ofBinary_flatMap hfs (ofTag?_tag _), hbody.ofBinary hlength]
    rfl
  | text hrecord hv ht =>
    obtain ⟨seq, hencloses⟩ := hv.encloses hrecord.described
    exact (decode_text_eq_iff hsize (some p)).2 ⟨_, seq, ht, hencloses⟩

theorem decode_foreign {f : Frame} (h : f.Foreign) (limit : Nat) : ∃ fault, f.decode limit = .error fault := by
  by_cases hsize : limit < f.size
  · exact ⟨.frameTooLarge f.size limit, by rw [decode, if_pos hsize]⟩
  cases h with
  | binary fs hnumber hcode key rest =>
    have hscan := scanPayloads_foreign fs hnumber hcode key rest
    rw [decode, if_neg hsize, read, Envelope.ofBinary, hscan]
    exact ⟨_, rfl⟩
  | @text members name value t ht hmem hseq hpayload =>
    cases hread : Json.readText EnvelopeParts.ofJson t with
    | error why => exact ⟨.json why, decode_text_of_error (Nat.not_lt.1 hsize) hread⟩
    | ok e =>
      obtain ⟨v, hv, hencloses⟩ := readText_eq_ok_iff.1 hread
      obtain rfl := ht.unique hv
      exact absurd hencloses (not_encloses_foreign hmem hseq hpayload _ _)

/-- **What is added inside a payload is passed over, and what is added beside it is refused.**  Fields of any wire type
but a group, and members with any value, may stand anywhere in the payload under numbers and names that its variant does
not define: the frame is read as the payload, within the limit.  One field of a number outside 1 to 20 beside the
payload, or one member of another name than those of the envelope, makes the frame unreadable under any limit. -/
theorem extensions_pass_inside_only (f : Frame) :
    (∀ (p : Payload) (limit : UInt64), f.Extended p → f.size ≤ limit.toNat → f.decode limit.toNat = .ok p) ∧
      (f.Foreign → ∀ limit, ∃ fault, f.decode limit = .error fault) :=
  ⟨fun _ _ h hsize => decode_extended h hsize, fun h limit => decode_foreign h limit⟩

/-- A heartbeat with a field before its own and one of the greatest number behind it, a heartbeat with an object among
its members, and both encodings with a stranger beside the payload. -/
theorem extensions_pass_inside_only_heartbeat :
    (Frame.binary [0x52, 0x0d, 0x10, 0x01, 0x08, 0x05, 0xfd, 0xff, 0xff, 0xff, 0x0f, 0, 0, 0, 0]).decode 64 =
        .ok (.heartbeat 5) ∧
      (Frame.text "\x7b\"payload\":\x7b\"heartbeat\":\x7b\"next\":[\x7b\x7d],\"last_seq\":5\x7d\x7d\x7d").decode 64 =
        .ok (.heartbeat 5) ∧
      (∃ fault, (Frame.binary [0x52, 0x02, 0x08, 0x05, 0xa8, 0x01, 0x00]).decode 64 = .error fault) ∧
      ∃ fault, (Frame.text "\x7b\"payload\":\x7b\"heartbeat\":\x7b\x7d\x7d,\"next\":1\x7d").decode 64 = .error fault := by
  refine ⟨?_, ?_, ?_, ?_⟩
  · have hbody : (Payload.heartbeat 5).ExtendedBody [0x10, 0x01, 0x08, 0x05, 0xfd, 0xff, 0xff, 0xff, 0x0f, 0, 0, 0, 0] := by
      refine ⟨[.extra ⟨2, by decide, .varint ⟨[0x01], rfl⟩, ⟨[0x10], rfl⟩⟩, .written 1 (.uint64 5),
        .extra ⟨Key.maxNumber, by decide, .fixed32 [0, 0, 0, 0] rfl, ⟨[0xfd, 0xff, 0xff, 0xff, 0x0f], rfl⟩⟩],
        by decide +kernel, rfl, ?_⟩
      simp only [List.mem_cons, List.not_mem_nil, reduceCtorEq, or_false, false_or, BodyPart.extra.injEq]
      rintro f (rfl | rfl) <;> rfl
    have hextended := Extended.binary [.payload 10 (by decide) _ ⟨[0x52], rfl⟩ ⟨[0x0d], rfl⟩] hbody rfl
    exact (extensions_pass_inside_only _).1 _ 64 hextended (by decide +kernel)
  · have ht : Document (.ofFields [("payload", .ofFields [("heartbeat", .ofFields [("next", .array [.ofFields []]),
        ("last_seq", .nat 5)])])])
        "\x7b\"payload\":\x7b\"heartbeat\":\x7b\"next\":[\x7b\x7d],\"last_seq\":5\x7d\x7d\x7d".toList :=
      Json.document_of_render (by decide) (by decide +kernel)
    have hextended : Extended (.heartbeat 5) (.text _) := .text ⟨_, rfl, rfl⟩ (wraps_bare _ _) ht
    exact (extensions_pass_inside_only _).1 _ 64 hextended (by decide +kernel)
  · have hforeign := Foreign.binary [.payload 10 (by decide) [0x08, 0x05] ⟨[0x52], rfl⟩ ⟨[0x02], rfl⟩] (.inr (by decide))
      (by decide) (⟨[0xa8, 0x01], rfl⟩ : Spelling (21 * 8 + 0)) [0x00]
    exact (extensions_pass_inside_only _).2 hforeign 64
  · have ht : Document (.object [(some "payload", .ofFields [("heartbeat", .ofFields [])]), (some "next", .nat 1)])
        "\x7b\"payload\":\x7b\"heartbeat\":\x7b\x7d\x7d,\"next\":1\x7d".toList :=
      Json.document_of_render (by decide) (by decide +kernel)
    have hforeign := Foreign.text ht (List.mem_cons_of_mem _ List.mem_cons_self) (by decide) (by decide)
    exact (extensions_pass_inside_only _).2 hforeign 64

end Frame
end EventGateway.Wire
