import EventGateway.Proofs.Bodies
import EventGateway.Proofs.JsonScan
import EventGateway.Proofs.Records
import Mathlib.Data.List.Forall2
/-!
# Text frames — which texts are read as a payload

A text is read exactly if it is one document that encloses a payload (`Frame.decode_text_iff`).  What the documents of
fields, payloads and envelopes look like is said without regard to their readers.
-/
namespace EventGateway.Wire

open Json (Refusal RecordFormat Members Given Document map_eq_ok_iff asUInt32_eq_ok_iff asUInt64_eq_ok_iff
  asInt64_eq_ok_iff asId_eq_ok_iff)

/-! ## Fields -/

/-- **How the value of a field is written**: numbers without a point, an exponent or a sign that they do not need, and
ids also as texts. -/
inductive FieldKind.Reads : FieldKind → Json → FieldValue → Prop where
  | uint32 (n : UInt32) : Reads .uint32 (.nat n.toNat) (.uint32 n)
  | uint64 (n : UInt64) : Reads .uint64 (.nat n.toNat) (.uint64 n)
  | id (n : UInt64) : Reads .id (.nat n.toNat) (.uint64 n)
  | idText {s : String} {n : UInt64} (h : Text.Decimal.readUInt64 s = .ok n) : Reads .id (.text s) (.uint64 n)
  | int64 (n : Int64) : Reads .int64 (.integer n.toInt) (.int64 n)
  | text (s : String) : Reads .text (.text s) (.text s)

/-- What a missing field holds. -/
def FieldKind.default : FieldKind → FieldValue
  | .uint32 => .uint32 0
  | .uint64 | .id => .uint64 0
  | .int64 => .int64 0
  | .text => .text ""

theorem FieldKind.ofJson_eq_ok_iff {kind : FieldKind} {v : Json} {x : FieldValue} :
    kind.ofJson v = .ok x ↔ kind.Reads v x := by
  constructor
  · intro h
    cases kind with
    | uint32 =>
      obtain ⟨n, hn, rfl⟩ := map_eq_ok_iff.1 h
      exact asUInt32_eq_ok_iff.1 hn ▸ .uint32 n
    | uint64 =>
      obtain ⟨n, hn, rfl⟩ := map_eq_ok_iff.1 h
      exact asUInt64_eq_ok_iff.1 hn ▸ .uint64 n
    | id =>
      obtain ⟨n, hn, rfl⟩ := map_eq_ok_iff.1 h
      obtain rfl | ⟨s, rfl, hs⟩ := asId_eq_ok_iff.1 hn
      · exact .id n
      · exact .idText hs
    | int64 =>
      obtain ⟨n, hn, rfl⟩ := map_eq_ok_iff.1 h
      exact asInt64_eq_ok_iff.1 hn ▸ .int64 n
    | text =>
      obtain ⟨s, hs, rfl⟩ := map_eq_ok_iff.1 h
      cases v with
      | text => exact Except.ok.inj hs ▸ .text s
      | null | bool | integer | real | garbled | array | object | cut => cases hs
  · intro h
    cases h with
    | uint32 n => exact map_eq_ok_iff.2 ⟨n, asUInt32_eq_ok_iff.2 rfl, rfl⟩
    | uint64 n => exact map_eq_ok_iff.2 ⟨n, asUInt64_eq_ok_iff.2 rfl, rfl⟩
    | id n =>
      have hn : (Json.nat n.toNat).asId = .ok n := asId_eq_ok_iff.2 (.inl rfl)
      rw [ofJson, hn]
      rfl
    | @idText s n hs =>
      have hn : (Json.text s).asId = .ok n := asId_eq_ok_iff.2 (.inr ⟨s, rfl, hs⟩)
      rw [ofJson, hn]
      rfl
    | int64 n => exact map_eq_ok_iff.2 ⟨n, Json.asInt64_toInt n, rfl⟩
    | text s => rfl

theorem FieldKind.Reads.unique {kind : FieldKind} {v : Json} {x y : FieldValue} (hx : kind.Reads v x)
    (hy : kind.Reads v y) : x = y :=
  Except.ok.inj ((ofJson_eq_ok_iff.2 hx).symm.trans (ofJson_eq_ok_iff.2 hy))

/-! ## Payloads -/

/-- What a field holds among the members of a record: what its own says, or the default. -/
def Field.Holds (ms : List (String × Json)) (f : Field) (x : FieldValue) : Prop :=
  Given f.kind.Reads f.kind.default (ms.lookup f.name) x

theorem Field.rightUnique_holds (ms : List (String × Json)) : Relator.RightUnique (Field.Holds ms) :=
  fun _ _ _ hx hy => Given.unique (fun _ h h' => h.unique h') hx hy

/-- **What a record says**: every field of a payload, given once or left out, in an object or in an array.  Members of
other names do not matter. -/
def Payload.Described (p : Payload) (value : Json) : Prop :=
  ∃ ms, Members (p.variant.fields.map (·.name)) value ms ∧
    (∀ f ∈ p.variant.fields, (ms.map Prod.fst).count f.name ≤ 1) ∧
      List.Forall₂ (Field.Holds ms) p.variant.fields p.values

/-- The value that a body has for a field. -/
def FieldKind.get (b : Body) (number : Nat) : FieldKind → FieldValue
  | .uint32 => .uint32 (b.uint32 number)
  | .uint64 | .id => .uint64 (b.uint64 number)
  | .int64 => .int64 (b.int64 number)
  | .text => .text (b.text number)

theorem FieldKind.get_nil (kind : FieldKind) (number : Nat) : kind.get [] number = kind.default := by
  cases kind <;> rfl

theorem FieldKind.get_put_self {kind : FieldKind} {v : Json} {x : FieldValue} (h : kind.Reads v x) (b : Body)
    (number : Nat) : kind.get (b.put number x) number = x := by
  cases h <;> simp [get, Body.put, Body.uint32, Body.uint64, Body.int64, Body.text]

theorem FieldKind.get_put_ne {number other : Nat} (h : other ≠ number) (kind : FieldKind) (b : Body) (x : FieldValue) :
    kind.get (b.put other x) number = kind.get b number := by
  have hne : (number == other) = false := beq_eq_false_iff_ne.2 h.symm
  cases kind <;> simp [get, Body.put, Body.uint32, Body.uint64, Body.int64, Body.text, List.lookup_cons, hne]

theorem variant_payload (b : Body) (v : Variant) : (b.payload v).variant = v := by
  cases v <;> rfl

theorem values_payload (b : Body) (v : Variant) :
    (b.payload v).values = v.fields.zipIdx.map fun x => x.1.kind.get b (x.2 + 1) := by
  cases v <;> rfl

theorem Payload.ext_values {p q : Payload} (hvariant : p.variant = q.variant) (hvalues : p.values = q.values) :
    p = q := by
  rw [← Body.payload_numbered p, ← Body.payload_numbered q, hvariant, hvalues]

theorem nodup_names (v : Variant) : (v.fields.map (·.name)).Nodup := by
  cases v <;> decide

/-- The first field of its name is the only one. -/
theorem find_name {v : Variant} {i : Nat} {f : Field} (h : v.fields[i]? = some f) :
    v.fields.findIdx? (·.name == f.name) = some i ∧ v.fields.find? (·.name == f.name) = some f := by
  obtain ⟨hi, rfl⟩ := List.getElem?_eq_some_iff.1 h
  have hbefore : ∀ j (hj : j < i), v.fields[j].name ≠ v.fields[i].name := by
    intro j hj heq
    have hnodup := List.pairwise_iff_getElem.1 (nodup_names v) j i (by rw [List.length_map]; omega)
      (by rwa [List.length_map]) hj
    rw [List.getElem_map, List.getElem_map] at hnodup
    exact hnodup heq
  constructor
  · exact List.findIdx?_eq_some_iff_getElem.2 ⟨hi, beq_self_eq_true _, fun j hj => by simpa using hbefore j hj⟩
  · exact List.find?_eq_some_iff_getElem.2 ⟨beq_self_eq_true _, i, hi, rfl, fun j hj => by simpa using hbefore j hj⟩

/-- **A member is read into the body** under the number of its field. -/
theorem member_eq_ok_iff {v : Variant} {b b' : Body} {name : String} {value : Json} :
    Body.member v b name value = .ok b' ↔
      ∃ i f x, v.fields[i]? = some f ∧ f.name = name ∧ f.kind.Reads value x ∧ b' = b.put (i + 1) x := by
  constructor
  · intro h
    rw [Body.member] at h
    cases hindex : v.fields.findIdx? (·.name == name) with
    | none => simp [hindex] at h
    | some i =>
      obtain ⟨hi, hname, -⟩ := List.findIdx?_eq_some_iff_getElem.1 hindex
      have hf : v.fields[i]? = some v.fields[i] := List.getElem?_eq_getElem hi
      obtain rfl := beq_iff_eq.1 hname
      rw [hindex, (find_name hf).2] at h
      cases hx : v.fields[i].kind.ofJson value with
      | error e => simp [hx, bind, Except.bind] at h
      | ok x =>
        simp only [hx, bind, Except.bind, pure, Except.pure, Except.ok.injEq] at h
        exact ⟨i, _, x, hf, rfl, FieldKind.ofJson_eq_ok_iff.1 hx, h.symm⟩
  · rintro ⟨i, f, x, hf, rfl, hx, rfl⟩
    rw [Body.member, (find_name hf).1, (find_name hf).2]
    simp [FieldKind.ofJson_eq_ok_iff.2 hx, bind, Except.bind, pure, Except.pure]

/-- **What a body has for a field** is what the field holds among the members read. -/
theorem holds_of_take {v : Variant} {ms : List (String × Json)} {b : Body}
    (hnodup : ((v.format.parts ms).map Prod.fst).Nodup) (h : (v.format.parts ms).foldlM v.format.take [] = .ok b)
    {i : Nat} {f : Field} (hf : v.fields[i]? = some f) : f.Holds ms (f.kind.get b (i + 1)) := by
  have hname : f.name ∈ v.format.names := List.mem_map_of_mem (List.mem_of_getElem? hf)
  rw [Field.Holds, ← f.kind.get_nil (i + 1), ← RecordFormat.lookup_parts hname]
  refine RecordFormat.given_of_take (fun b => f.kind.get b (i + 1)) hnodup ?_ ?_ h
  · intro b b' value _ hpart
    obtain ⟨j, g, x, hg, hname, hx, rfl⟩ := member_eq_ok_iff.1 hpart
    have hindex := (find_name hg).1
    rw [hname, (find_name hf).1] at hindex
    obtain rfl := Option.some.inj hindex
    obtain rfl := Option.some.inj (hf.symm.trans hg)
    exact (FieldKind.get_put_self hx b _).symm ▸ hx
  · intro b b' m _ hm htake
    obtain ⟨j, g, x, hg, hname, -, rfl⟩ := member_eq_ok_iff.1 htake
    refine FieldKind.get_put_ne (fun heq => hm ?_) _ _ _
    obtain rfl := Nat.succ.inj heq
    rw [← hname, Option.some.inj (hf.symm.trans hg)]

/-- **The payload of a body** has for its fields what they hold among the members read. -/
theorem holds_values {v : Variant} {ms : List (String × Json)} {b : Body}
    (hnodup : ((v.format.parts ms).map Prod.fst).Nodup) (h : (v.format.parts ms).foldlM v.format.take [] = .ok b) :
    List.Forall₂ (Field.Holds ms) v.fields (b.payload v).values := by
  rw [values_payload, List.forall₂_iff_get]
  refine ⟨by simp, fun i hi _ => ?_⟩
  simpa using holds_of_take hnodup h (List.getElem?_eq_getElem hi)

/-- Members are read into a body if their fields hold something. -/
theorem exists_body {v : Variant} {ms : List (String × Json)} {xs : List FieldValue}
    (hnodup : ((v.format.parts ms).map Prod.fst).Nodup) (h : List.Forall₂ (Field.Holds ms) v.fields xs) :
    ∃ b, (v.format.parts ms).foldlM v.format.take [] = .ok b := by
  refine RecordFormat.exists_take (fun m hm b => ?_) []
  have hname := List.contains_iff_mem.1 (List.mem_filter.1 hm).2
  have hlookup := RecordFormat.lookup_of_mem hnodup m hm
  rw [RecordFormat.lookup_parts hname] at hlookup
  obtain ⟨f, hf, hfm⟩ := List.mem_map.1 hname
  obtain ⟨i, hi, hget⟩ := List.getElem_of_mem hf
  have hholds := (List.forall₂_iff_get.1 h).2 i hi ((List.forall₂_iff_get.1 h).1 ▸ hi)
  rw [List.get_eq_getElem, hget, Field.Holds, hfm, hlookup] at hholds
  cases hholds with
  | given hx => exact ⟨_, member_eq_ok_iff.2 ⟨i, f, _, hget ▸ List.getElem?_eq_getElem hi, hfm, hx, rfl⟩⟩

theorem ofJson_eq_ok {v : Variant} {value : Json} {p : Payload} :
    v.ofJson value = .ok p ↔ ∃ b, (v.format.read [] value).map (·.state) = .ok b ∧ b.payload v = p := by
  rw [Variant.ofJson]
  cases v.format.read [] value with
  | error e => simp [bind, Except.bind, Except.map]
  | ok q => simp [bind, Except.bind, Except.map, pure, Except.pure]

/-- **A record is read as what it says**, and otherwise it is refused. -/
theorem Variant.ofJson_eq_ok_iff {v : Variant} {value : Json} (hvalue : value.whole = true) {p : Payload} :
    v.ofJson value = .ok p ↔ p.variant = v ∧ p.Described value := by
  constructor
  · intro h
    obtain ⟨b, hb, rfl⟩ := ofJson_eq_ok.1 h
    obtain ⟨ms, hms, ⟨hnodup, -⟩, htake⟩ := (RecordFormat.read_eq_ok_iff (nodup_names v) hvalue).1 hb
    rw [Payload.Described, variant_payload]
    refine ⟨rfl, ms, hms, fun f hf => ?_, holds_values hnodup htake⟩
    exact RecordFormat.nodup_parts_iff.1 hnodup f.name (List.mem_map_of_mem hf)
  · rintro ⟨rfl, ms, hms, honce, hfields⟩
    have hnodup : ((p.variant.format.parts ms).map Prod.fst).Nodup :=
      RecordFormat.nodup_parts_iff.2 (List.forall_mem_map.2 honce)
    -- The members say the same of the payload that is read and of the one that they describe.
    obtain ⟨b, hb⟩ := exists_body hnodup hfields
    have hread : (p.variant.format.read [] value).map (·.state) = .ok b :=
      (RecordFormat.read_eq_ok_iff (nodup_names p.variant) hvalue).2 ⟨ms, hms, ⟨hnodup, fun h => nomatch h⟩, hb⟩
    refine ofJson_eq_ok.2 ⟨b, hread, Payload.ext_values (variant_payload b _) ?_⟩
    exact List.right_unique_forall₂' (Field.rightUnique_holds ms) (holds_values hnodup hb) hfields

theorem ofName?_name (v : Variant) : Variant.ofName? v.name = some v := by
  cases v <;> decide

theorem name_of_ofName? {name : String} {v : Variant} (h : Variant.ofName? name = some v) : v.name = name := by
  have hname := List.find?_some (p := fun w : Variant => w.name == name) h
  exact beq_iff_eq.1 hname

/-- **A payload is read from one member**, which has the name of a variant and describes the payload. -/
theorem Payload.ofJson_eq_ok_iff {v : Json} (hv : v.whole = true) {p : Payload} :
    Payload.ofJson v = .ok p ↔ ∃ value, v = .object [(some p.name, value)] ∧ p.Described value := by
  constructor
  · intro h
    unfold Payload.ofJson at h
    split at h
    · rename_i name value rest
      split at h
      · cases h
      · rename_i w hw
        cases hread : w.ofJson value with
        | error e => simp [hread, bind, Except.bind] at h
        | ok q =>
          cases rest with
          | nil =>
            obtain rfl : q = p := by simpa [hread, bind, Except.bind, pure, Except.pure] using h
            have hvalue : value.whole = true := by simpa [Json.whole, Json.wholeMembers] using hv
            obtain ⟨rfl, hdescribed⟩ := (Variant.ofJson_eq_ok_iff hvalue).1 hread
            exact ⟨value, by rw [Payload.name, name_of_ofName? hw], hdescribed⟩
          | cons m rest => simp [hread, bind, Except.bind, throw, throwThe, MonadExceptOf.throw] at h
    · cases h
  · rintro ⟨value, rfl, hdescribed⟩
    have hvalue : value.whole = true := by simpa [Json.whole, Json.wholeMembers] using hv
    have hread := (Variant.ofJson_eq_ok_iff hvalue).2 ⟨rfl, hdescribed⟩
    rw [Payload.ofJson, Payload.name, ofName?_name]
    simp [hread, bind, Except.bind, pure, Except.pure]

/-! ## Envelopes -/

/-- What a payload member says; null says that there is none. -/
inductive Content : Json → Option Payload → Prop where
  | null : Content .null none
  | payload {p : Payload} {value : Json} (h : p.Described value) : Content (.object [(some p.name, value)]) (some p)

/-- **What an envelope encloses**: a sequence number, 0 if there is none, and a payload, unless it is missing or null.
The envelope is an object with no other members and none of these twice, or an array of the two, which may stop before
the payload. -/
def Encloses (v : Json) (seq : UInt64) (content : Option Payload) : Prop :=
  ∃ ms, Members ["seq", "payload"] v ms ∧ (∀ m ∈ ms, m.1 = "seq" ∨ m.1 = "payload") ∧ (ms.map Prod.fst).Nodup ∧
    Given (fun v n => v = .nat (UInt64.toNat n)) 0 (ms.lookup "seq") seq ∧
      Given Content none (ms.lookup "payload") content

theorem content_iff {v : Json} (hv : v.whole = true) {c : Option Payload} :
    Content v c ↔ v = .null ∧ c = none ∨ ∃ p, Payload.ofJson v = .ok p ∧ c = some p := by
  constructor
  · intro h
    cases h with
    | null => exact .inl ⟨rfl, rfl⟩
    | payload h => exact .inr ⟨_, (Payload.ofJson_eq_ok_iff hv).2 ⟨_, rfl, h⟩, rfl⟩
  · rintro (⟨rfl, rfl⟩ | ⟨p, hp, rfl⟩)
    · exact .null
    · obtain ⟨value, rfl, h⟩ := (Payload.ofJson_eq_ok_iff hv).1 hp
      exact .payload h

theorem Content.unique {v : Json} {c c' : Option Payload} (h : Content v c) (hv : v.whole = true) (h' : Content v c') :
    c = c' := by
  obtain ⟨rfl, rfl⟩ | ⟨p, hp, rfl⟩ := (content_iff hv).1 h
  · obtain ⟨-, rfl⟩ | ⟨p', hp', -⟩ := (content_iff hv).1 h'
    · rfl
    · cases hp'
  · obtain ⟨rfl, -⟩ | ⟨p', hp', rfl⟩ := (content_iff hv).1 h'
    · cases hp
    · rw [Except.ok.inj (hp.symm.trans hp')]

namespace EnvelopeParts

variable {e e' : EnvelopeParts} {v : Json}

theorem member_seq_iff : member e "seq" v = .ok e' ↔ ∃ n : UInt64, v = .nat n.toNat ∧ e' = { e with seq := n } := by
  have hmember : member e "seq" v = v.asUInt64.map fun n => { e with seq := n } := by
    cases v <;> rfl
  rw [hmember, map_eq_ok_iff]
  simp only [asUInt64_eq_ok_iff, eq_comm (a := e')]

theorem member_payload_iff (hv : v.whole = true) :
    member e "payload" v = .ok e' ↔ ∃ c, Content v c ∧ e' = { e with payload := c } := by
  simp only [content_iff hv]
  by_cases hnull : v = .null
  · subst hnull
    have hofJson : ∀ p, Payload.ofJson .null ≠ .ok p := fun p h => nomatch h
    simp [member, hofJson, eq_comm]
  · have hmember : member e "payload" v = (Payload.ofJson v).map fun p => { e with payload := some p } := by
      cases v with
      | null => exact absurd rfl hnull
      | bool | integer | real | text | garbled | array | object | cut => rfl
    rw [hmember, map_eq_ok_iff]
    simp [hnull, eq_comm]

theorem take_iff (e e' : EnvelopeParts) {m : String × Json} (hname : m.1 = "seq" ∨ m.1 = "payload")
    (hm : m.2.whole = true) : format.take e m = .ok e' ↔
      m.1 = "seq" ∧ (∃ n : UInt64, m.2 = .nat n.toNat ∧ e' = { e with seq := n }) ∨
        m.1 = "payload" ∧ ∃ c, Content m.2 c ∧ e' = { e with payload := c } := by
  obtain ⟨name, v⟩ := m
  obtain rfl | rfl : name = "seq" ∨ name = "payload" := hname
  · have htake : format.take e ("seq", v) = .ok e' ↔ _ := member_seq_iff
    simpa using htake
  · have htake : format.take e ("payload", v) = .ok e' ↔ _ := member_payload_iff hm
    simpa using htake

theorem parts_eq {ms : List (String × Json)} (hnames : ∀ m ∈ ms, m.1 = "seq" ∨ m.1 = "payload") :
    format.parts ms = ms :=
  List.filter_eq_self.2 fun m hm => by rcases hnames m hm with h | h <;> rw [h] <;> rfl

section Members

variable {ms : List (String × Json)} (hwhole : ∀ m ∈ ms, m.2.whole = true)
  (hnames : ∀ m ∈ ms, m.1 = "seq" ∨ m.1 = "payload") (hnodup : (ms.map Prod.fst).Nodup)

include hwhole hnames hnodup

/-- What has been taken in of an envelope is what its members say. -/
theorem given_of_take (h : ms.foldlM format.take ⟨0, none⟩ = .ok e) :
    Given (fun v n => v = .nat (UInt64.toNat n)) 0 (ms.lookup "seq") e.seq ∧
      Given Content none (ms.lookup "payload") e.payload := by
  constructor
  · refine RecordFormat.given_of_take EnvelopeParts.seq hnodup ?_ ?_ h
    · intro s s' v hv htake
      obtain ⟨-, n, hn, rfl⟩ | ⟨hname, -⟩ := (take_iff s s' (hnames _ hv) (hwhole _ hv)).1 htake
      · exact hn
      · simp at hname
    · intro s s' m hm hne htake
      obtain ⟨hname, -⟩ | ⟨-, c, -, rfl⟩ := (take_iff s s' (hnames _ hm) (hwhole _ hm)).1 htake
      · exact absurd hname hne
      · rfl
  · refine RecordFormat.given_of_take EnvelopeParts.payload hnodup ?_ ?_ h
    · intro s s' v hv htake
      obtain ⟨hname, -⟩ | ⟨-, c, hc, rfl⟩ := (take_iff s s' (hnames _ hv) (hwhole _ hv)).1 htake
      · simp at hname
      · exact hc
    · intro s s' m hm hne htake
      obtain ⟨-, n, -, rfl⟩ | ⟨hname, -⟩ := (take_iff s s' (hnames _ hm) (hwhole _ hm)).1 htake
      · rfl
      · exact absurd hname hne

/-- Members that say something are taken in. -/
theorem exists_parts {seq : UInt64} {content : Option Payload}
    (hseq : Given (fun v n => v = .nat (UInt64.toNat n)) 0 (ms.lookup "seq") seq)
    (hcontent : Given Content none (ms.lookup "payload") content) : ∃ e, ms.foldlM format.take ⟨0, none⟩ = .ok e := by
  refine RecordFormat.exists_take (fun m hm e => ?_) _
  have hlookup := RecordFormat.lookup_of_mem hnodup m hm
  have htake (e') := take_iff e e' (hnames m hm) (hwhole m hm)
  rcases hnames m hm with hname | hname
  · rw [hname] at hlookup
    rw [hlookup] at hseq
    cases hseq with
    | given hn => exact ⟨_, (htake _).2 (.inl ⟨hname, seq, hn, rfl⟩)⟩
  · rw [hname] at hlookup
    rw [hlookup] at hcontent
    cases hcontent with
    | given hc => exact ⟨_, (htake _).2 (.inr ⟨hname, content, hc, rfl⟩)⟩

end Members

/-- **An envelope is read as what it encloses**, and otherwise it is refused. -/
theorem ofJson_eq_ok_iff (hv : v.whole = true) : ofJson v = .ok e ↔ Encloses v e.seq e.payload := by
  have hread : ofJson v = (format.read ⟨0, none⟩ v).map (·.state) := by
    rw [ofJson]
    cases format.read ⟨0, none⟩ v <;> rfl
  rw [hread, RecordFormat.read_eq_ok_iff (by decide) hv]
  constructor
  · rintro ⟨ms, hms, ⟨hnodup, hstrict⟩, htake⟩
    have hnames : ∀ m ∈ ms, m.1 = "seq" ∨ m.1 = "payload" := fun m hm => by
      simpa [format] using hstrict rfl m hm
    rw [parts_eq hnames] at hnodup htake
    exact ⟨ms, hms, hnames, hnodup, given_of_take (hms.whole hv) hnames hnodup htake⟩
  · rintro ⟨ms, hms, hnames, hnodup, hseq, hcontent⟩
    obtain ⟨e', htake⟩ := exists_parts (hms.whole hv) hnames hnodup hseq hcontent
    obtain ⟨hseq', hcontent'⟩ := given_of_take (hms.whole hv) hnames hnodup htake
    have heq : e'.seq = e.seq := by
      refine Given.unique (fun _ h h' => ?_) hseq' hseq
      exact Except.ok.inj ((asUInt64_eq_ok_iff.2 h).symm.trans (asUInt64_eq_ok_iff.2 h'))
    have heq' : e'.payload = e.payload := by
      refine Given.unique (fun hlookup h h' => ?_) hcontent' hcontent
      obtain ⟨before, after, rfl, -⟩ := List.lookup_eq_some_iff.1 hlookup
      exact h.unique (hms.whole hv ("payload", _) (by simp)) h'
    obtain rfl : e' = e := by
      cases e'
      cases e
      simp_all
    exact ⟨ms, hms, ⟨by rwa [parts_eq hnames], fun _ m hm => by simpa [format] using hnames m hm⟩,
      by rwa [parts_eq hnames]⟩

end EnvelopeParts

/-! ## Texts -/

namespace Frame

variable {limit : Nat} {t : String}

theorem readText_eq_ok_iff {seq : UInt64} {content : Option Payload} :
    Json.readText EnvelopeParts.ofJson t = .ok ⟨seq, content⟩ ↔ ∃ v, Document v t.toList ∧ Encloses v seq content := by
  rw [Json.readText_eq_ok_iff]
  constructor
  · rintro ⟨v, hv, h⟩
    exact ⟨v, hv, (EnvelopeParts.ofJson_eq_ok_iff hv.whole).1 h⟩
  · rintro ⟨v, hv, h⟩
    exact ⟨v, hv, (EnvelopeParts.ofJson_eq_ok_iff hv.whole).2 h⟩

theorem decode_text_of_error (ht : t.utf8ByteSize ≤ limit) {why : Refusal}
    (h : Json.readText EnvelopeParts.ofJson t = .error why) : (Frame.text t).decode limit = .error (.json why) := by
  have hsize : ¬limit < (Frame.text t).size := Nat.not_lt.2 ht
  rw [decode, if_neg hsize, read, h]
  rfl

theorem decode_text_of_ok (ht : t.utf8ByteSize ≤ limit) {seq : UInt64} {content : Option Payload}
    (h : Json.readText EnvelopeParts.ofJson t = .ok ⟨seq, content⟩) :
    (Frame.text t).decode limit = content.elim (.error .emptyEnvelope) .ok := by
  have hsize : ¬limit < (Frame.text t).size := Nat.not_lt.2 ht
  rw [decode, if_neg hsize, read, h]
  cases content <;> rfl

theorem decode_text_eq_iff (ht : t.utf8ByteSize ≤ limit) (content : Option Payload) :
    (Frame.text t).decode limit = content.elim (.error .emptyEnvelope) .ok ↔
      ∃ v seq, Document v t.toList ∧ Encloses v seq content := by
  constructor
  · intro h
    cases hread : Json.readText EnvelopeParts.ofJson t with
    | error why =>
      rw [decode_text_of_error ht hread] at h
      cases content <;> cases h
    | ok e =>
      obtain ⟨seq, content'⟩ := e
      rw [decode_text_of_ok ht hread] at h
      obtain rfl : content' = content := by
        cases content' <;> cases content <;> cases h <;> rfl
      obtain ⟨v, hv, henclosed⟩ := readText_eq_ok_iff.1 hread
      exact ⟨v, seq, hv, henclosed⟩
  · rintro ⟨v, seq, hv, h⟩
    exact decode_text_of_ok ht (readText_eq_ok_iff.2 ⟨v, hv, h⟩)

/-- **A text frame is read exactly if it is one document that encloses one payload**: an envelope, spelled in strict
JSON, whose payload is an object of one member with the name of the payload and a record of it.  A text whose envelope
has no payload is refused for that, and a text that is no envelope is refused as malformed. -/
theorem decode_text_iff (limit : Nat) {t : String} (ht : t.utf8ByteSize ≤ limit) :
    (∀ p, (Frame.text t).decode limit = .ok p ↔ ∃ v seq, Document v t.toList ∧ Encloses v seq (some p)) ∧
      ((Frame.text t).decode limit = .error .emptyEnvelope ↔ ∃ v seq, Document v t.toList ∧ Encloses v seq none) ∧
      ((∀ v seq content, Document v t.toList → ¬Encloses v seq content) →
        ∃ why, (Frame.text t).decode limit = .error (.json why)) := by
  refine ⟨fun p => decode_text_eq_iff ht (some p), decode_text_eq_iff ht none, fun hnone => ?_⟩
  cases hread : Json.readText EnvelopeParts.ofJson t with
  | error why => exact ⟨why, decode_text_of_error ht hread⟩
  | ok e =>
    obtain ⟨v, hv, h⟩ := readText_eq_ok_iff.1 hread
    exact absurd h (hnone v _ _ hv)

/-- A heartbeat in arrays, with white space and a sequence number. -/
theorem decode_text_spaced :
    " [ 7 ,\x7b\"heartbeat\":[3]\x7d] ".utf8ByteSize ≤ 32 ∧
      ∃ v seq, Document v " [ 7 ,\x7b\"heartbeat\":[3]\x7d] ".toList ∧ Encloses v seq (some (.heartbeat 3)) :=
  ⟨by decide, ((decode_text_iff 32 (by decide)).1 _).1 (by decide +kernel)⟩

end Frame
end EventGateway.Wire
