import EventGateway.Json.Record
import EventGateway.Json.Render
import EventGateway.Wire.Body
/-!
# Payloads and envelopes as documents

A payload is an object with one member, named for the variant, whose value is the record of its fields.  An envelope is
a record of the sequence number and the payload, and has no other members.
-/
namespace EventGateway.Wire

open Json (Refusal RecordFormat)

/-! ## Reading -/

def FieldKind.ofJson (v : Json) : FieldKind → Except Refusal FieldValue
  | .uint32 => v.asUInt32.map .uint32
  | .uint64 => v.asUInt64.map .uint64
  | .id => v.asId.map .uint64
  | .int64 => v.asInt64.map .int64
  | .text => v.asText.map .text

def Body.member (v : Variant) (b : Body) (name : String) (value : Json) : Except Refusal Body :=
  match v.fields.findIdx? (·.name == name), v.fields.find? (·.name == name) with
  | some i, some field => do return b.put (i + 1) (← field.kind.ofJson value)
  | _, _ => .error .malformed

/-- Fields may be missing, and members that the variant does not define are passed over. -/
def Variant.format (v : Variant) : RecordFormat Body := ⟨v.fields.map (·.name), false, Body.member v⟩

def Variant.ofJson (v : Variant) (value : Json) : Except Refusal Payload := do
  let p ← v.format.read [] value
  return p.state.payload v

/-- One member, and its name that of a variant. -/
def Payload.ofJson : Json → Except Refusal Payload
  | .object ((some name, value) :: rest) =>
    match Variant.ofName? name with
    | none => .error .malformed
    | some v => do
      let p ← v.ofJson value
      if rest.isEmpty then return p else throw .malformed
  | _ => .error .malformed

/-- The parts of an envelope as far as they have been read. -/
structure EnvelopeParts where
  seq : UInt64
  payload : Option Payload

/-- **A payload of null is no payload**, and so is one that is missing. -/
def EnvelopeParts.member (e : EnvelopeParts) (name : String) (value : Json) : Except Refusal EnvelopeParts :=
  match name, value with
  | "seq", value => value.asUInt64.map (fun n => { e with seq := n })
  | _, .null => .ok { e with payload := none }
  | _, value => (Payload.ofJson value).map (fun p => { e with payload := some p })

def EnvelopeParts.format : RecordFormat EnvelopeParts := ⟨["seq", "payload"], true, EnvelopeParts.member⟩

def EnvelopeParts.ofJson (v : Json) : Except Refusal EnvelopeParts := do
  let p ← format.read ⟨0, none⟩ v
  return p.state

/-! ## Writing -/

def FieldValue.json (kind : FieldKind) : FieldValue → Json
  | .uint32 n => .nat n.toNat
  | .uint64 n => if kind = .id then .str (Text.ofNat n.toNat) else .nat n.toNat
  | .int64 n => .integer n.toInt
  | .text s => .str s

/-- The record of a payload's fields, none left out. -/
def Payload.record (p : Payload) : Json :=
  .ofFields (List.zipWith (fun f v => (f.name, v.json f.kind)) p.variant.fields p.values)

def Payload.json (p : Payload) : Json := .ofFields [(p.name, p.record)]

def Envelope.json (e : Envelope) : Json :=
  .ofFields ((if e.seq = 0 then [] else [("seq", .nat e.seq.toNat)]) ++ [("payload", e.payload.json)])

end EventGateway.Wire
