import EventGateway.Wire.Body
import EventGateway.Wire.Fault
import EventGateway.Wire.Varint
/-!
# Binary frames

An envelope is a message: a run of fields, of which the sequence number is field 1 and each payload variant has a field
of its own.  The body of a payload is a message in turn.  Messages are read leniently: fields that they do not define
are passed over, and of a field given twice the later counts.  **An envelope is scanned first**, by a reader of its own
that lets nothing pass.
-/
namespace EventGateway.Wire

inductive WireType where
  | varint
  | fixed64
  | bytes
  | groupStart
  | groupEnd
  | fixed32
deriving DecidableEq, Repr

def WireType.ofCode? : Nat → Option WireType
  | 0 => some .varint
  | 1 => some .fixed64
  | 2 => some .bytes
  | 3 => some .groupStart
  | 4 => some .groupEnd
  | 5 => some .fixed32
  | _ => none

/-- A field that is defined has to have the wire type of its kind. -/
def checkWireType (expected actual : WireType) : Option Unit := if expected = actual then some () else none

/-- The first `n` bytes and the rest, if there are so many. -/
def splitBytes (n : Nat) (bytes : List UInt8) : Option (List UInt8 × List UInt8) :=
  if n ≤ bytes.length then some (bytes.take n, bytes.drop n) else none

/-- Bytes behind their length. -/
def readBytes (bytes : List UInt8) : Option (List UInt8 × List UInt8) := do
  let (n, rest) ← Varint.read bytes
  splitBytes n rest

def readUtf8 (bytes : List UInt8) : Option String := String.fromUTF8? ⟨bytes.toArray⟩

/-! ## Messages -/

structure Key where
  number : Nat
  wire : WireType
deriving DecidableEq, Repr

/-- A key has 32 bits, and no field has the number 0. -/
def readKey (bytes : List UInt8) : Option (Key × List UInt8) := do
  let (key, rest) ← Varint.read bytes
  let wire ← WireType.ofCode? (key % 8)
  if key < UInt32.size ∧ key / 8 ≠ 0 then return (⟨key / 8, wire⟩, rest) else none

/-- What stands behind the value of an unknown field that is no group. -/
def passValue (wire : WireType) (bytes : List UInt8) : Option (List UInt8) :=
  match wire with
  | .varint => (Varint.read bytes).map (·.2)
  | .fixed64 => (splitBytes 8 bytes).map (·.2)
  | .fixed32 => (splitBytes 4 bytes).map (·.2)
  | .bytes => (readBytes bytes).map (·.2)
  | .groupStart | .groupEnd => none

/-- Passes over an unknown field, of which the beginning and the end of a group are two.  `groups` are the numbers of
the groups that are open, and the answer has those that are open afterwards. -/
def passField (maxGroups : Nat) (groups : List Nat) (key : Key) (bytes : List UInt8) :
    Option (List Nat × List UInt8) :=
  match groups, key.wire with
  | number :: outer, .groupEnd => if number = key.number then some (outer, bytes) else none
  | [], .groupEnd => none
  | groups, wire =>
    if maxGroups < groups.length then none
    else if wire = .groupStart then some (key.number :: groups, bytes)
    else (passValue wire bytes).map (groups, ·)

/-- A kind of message, by what becomes of one that is partly read when a field comes next. -/
structure MessageFormat (σ : Type) where
  /-- Whether a field of this number is defined. -/
  defines : Nat → Bool
  /-- Takes in a field that is defined, from what stands behind its key. -/
  merge : σ → Key → List UInt8 → Option (σ × List UInt8)
  /-- The deepest that a group may stand inside others and still have fields. -/
  maxGroups : Nat

namespace MessageFormat

variable {σ : Type}

/-- Reads one field.  Inside a group nothing is defined. -/
def mergeField (f : MessageFormat σ) (groups : List Nat) (s : σ) (bytes : List UInt8) :
    Option (List Nat × σ × List UInt8) := do
  let (key, rest) ← readKey bytes
  if groups.isEmpty && f.defines key.number then
    let (s, rest) ← f.merge s key rest
    return ([], s, rest)
  else
    let (groups, rest) ← passField f.maxGroups groups key rest
    return (groups, s, rest)

/-- `fuel` bounds the number of fields. -/
def mergeFields (f : MessageFormat σ) : Nat → List Nat → σ → List UInt8 → Option σ
  | _, groups, s, [] => if groups.isEmpty then some s else none
  | 0, _, _, _ :: _ => none
  | fuel + 1, groups, s, b :: bs => do
    let (groups, s, rest) ← f.mergeField groups s (b :: bs)
    f.mergeFields fuel groups s rest

/-- Reads all fields into what has been read before. -/
def mergeAll (f : MessageFormat σ) (s : σ) (bytes : List UInt8) : Option σ := f.mergeFields bytes.length [] s bytes

end MessageFormat

/-! ## Bodies -/

/-- The value of a known field. -/
def FieldKind.readBinary (wire : WireType) (bytes : List UInt8) : FieldKind → Option (FieldValue × List UInt8)
  | .text => do
    checkWireType .bytes wire
    let (raw, rest) ← readBytes bytes
    return (.text (← readUtf8 raw), rest)
  | kind => do
    checkWireType .varint wire
    let (n, rest) ← Varint.read bytes
    match kind with
    | .uint32 => return (.uint32 (UInt32.ofNat n), rest)
    | .int64 => return (.int64 (Int64.ofNat n), rest)
    | _ => return (.uint64 (UInt64.ofNat n), rest)

def Body.merge (v : Variant) (b : Body) (key : Key) (bytes : List UInt8) : Option (Body × List UInt8) := do
  let field ← v.fields[key.number - 1]?
  let (value, rest) ← field.kind.readBinary key.wire bytes
  return (b.put key.number value, rest)

def Variant.message (v : Variant) : MessageFormat Body :=
  ⟨fun number => (v.fields[number - 1]?).isSome, Body.merge v, 98⟩

def Variant.ofBinary (v : Variant) (bytes : List UInt8) : Option Payload :=
  (v.message.mergeAll [] bytes).map (·.payload v)

/-! ## Envelopes -/

/-- An envelope as far as it has been read. -/
structure EnvelopeDraft where
  seq : UInt64
  payload : Option (Variant × Body)

namespace EnvelopeDraft

/-- What has been read of a variant. -/
def body (e : EnvelopeDraft) (v : Variant) : Body :=
  match e.payload with
  | some (w, b) => if w = v then b else []
  | none => []

/-- A payload takes the place of one of another variant, and is merged into one of the same. -/
def merge (e : EnvelopeDraft) (key : Key) (bytes : List UInt8) : Option (EnvelopeDraft × List UInt8) :=
  if key.number = 1 then do
    checkWireType .varint key.wire
    let (n, rest) ← Varint.read bytes
    return ({ e with seq := UInt64.ofNat n }, rest)
  else do
    let v ← Variant.ofTag? key.number
    checkWireType .bytes key.wire
    let (raw, rest) ← readBytes bytes
    let b ← v.message.mergeAll (e.body v) raw
    return ({ e with payload := some (v, b) }, rest)

def message : MessageFormat EnvelopeDraft :=
  ⟨fun number => number == 1 || (Variant.ofTag? number).isSome, merge, 99⟩

end EnvelopeDraft

/-- The numbers of the fields that hold a payload. -/
def isPayloadTag (tag : Nat) : Bool := 2 ≤ tag && tag ≤ 20

/-- Whether a key is that of a payload; of other keys only that of the sequence number is let pass. -/
def scanKey (key : Nat) : Except Fault Bool :=
  let tag := key / 8
  let wireType := key % 8
  if UInt32.size ≤ tag then .error (.unknownVariant (UInt32.size - 1))
  else if tag = 1 then
    if wireType = 0 then .ok false else .error (.invalidWireType tag wireType)
  else if isPayloadTag tag then
    if wireType = 2 then .ok true else .error (.invalidWireType tag wireType)
  else .error (.unknownVariant tag)

/-- What stands behind the value of a field. -/
def skipField (tag : Nat) (isPayload : Bool) (bytes : List UInt8) : Except Fault (List UInt8) :=
  match Varint.read bytes with
  | none => .error .binary
  | some (n, rest) =>
    if isPayload then
      match splitBytes n rest with
      | none => .error (.truncated tag)
      | some (_, rest) => .ok rest
    else .ok rest

/-- Passes over one field of an envelope: whether it is a payload, and what stands behind it. -/
def scanField (bytes : List UInt8) : Except Fault (Bool × List UInt8) :=
  match Varint.read bytes with
  | none => .error .binary
  | some (key, rest) => do
    let isPayload ← scanKey key
    return (isPayload, ← skipField (key / 8) isPayload rest)

/-- **Every field of an envelope is accounted for** before any of them is read: how many hold a payload.  `fuel` bounds
the number of fields. -/
def countPayloads : Nat → List UInt8 → Except Fault Nat
  | _, [] => .ok 0
  | 0, _ :: _ => .error .binary
  | fuel + 1, b :: bs => do
    let (isPayload, rest) ← scanField (b :: bs)
    let n ← countPayloads fuel rest
    return if isPayload then n + 1 else n

/-- One payload, and nothing that an envelope does not define. -/
def scanPayloads (bytes : List UInt8) : Except Fault Unit := do
  match ← countPayloads bytes.length bytes with
  | 0 => throw .emptyEnvelope
  | 1 => return ()
  | n => throw (.multipleVariants n)

def Envelope.ofBinary (bytes : List UInt8) : Except Fault Envelope := do
  scanPayloads bytes
  match EnvelopeDraft.message.mergeAll ⟨0, none⟩ bytes with
  | none => throw .binary
  | some ⟨_, none⟩ => throw .emptyEnvelope
  | some ⟨seq, some (v, b)⟩ => return ⟨seq, b.payload v⟩

/-! ## Writing -/

def writeBytes (bytes : List UInt8) : List UInt8 := Varint.write (UInt64.ofNat bytes.length) ++ bytes

def writeKey (number wireType : Nat) : List UInt8 := Varint.write (UInt64.ofNat (number * 8 + wireType))

def FieldValue.binary (number : Nat) : FieldValue → List UInt8
  | .uint32 n => writeKey number 0 ++ Varint.write n.toUInt64
  | .uint64 n => writeKey number 0 ++ Varint.write n
  | .int64 n => writeKey number 0 ++ Varint.write n.toUInt64
  | .text s => writeKey number 2 ++ writeBytes s.toUTF8.toList

/-- The values from a number on; defaults are left out. -/
def writeFields : Nat → List FieldValue → List UInt8
  | _, [] => []
  | number, v :: rest => (if v.isDefault then [] else v.binary number) ++ writeFields (number + 1) rest

def Payload.binary (p : Payload) : List UInt8 := writeFields 1 p.values

/-- The number 0 is left out; the payload never is, even if its body is empty. -/
def Envelope.binary (e : Envelope) : List UInt8 :=
  (if e.seq = 0 then [] else writeKey 1 0 ++ Varint.write e.seq) ++
    (writeKey e.payload.variant.tag 2 ++ writeBytes e.payload.binary)

end EventGateway.Wire
