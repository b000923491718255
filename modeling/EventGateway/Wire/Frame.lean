import EventGateway.Wire.Document
import EventGateway.Wire.Encoding
import EventGateway.Wire.Protobuf
/-!
# Frames

**What a client sends is read by the form it has**, text or binary, whatever encoding the connection speaks; what the
server sends is written in the encoding of the connection.
-/
namespace EventGateway.Wire

inductive Frame where
  | text (s : String)
  | binary (bytes : List UInt8)
deriving DecidableEq, Repr

namespace Frame

/-- In bytes. -/
def size : Frame → Nat
  | text s => s.utf8ByteSize
  | binary bytes => bytes.length

def isEmpty (f : Frame) : Bool := f.size == 0

def encoding : Frame → Encoding
  | text _ => .json
  | binary _ => .protobuf

def read : Frame → Except Fault Envelope
  | text s =>
    match Json.readText EnvelopeParts.ofJson s with
    | .error why => .error (.json why)
    | .ok ⟨_, none⟩ => .error .emptyEnvelope
    | .ok ⟨seq, some p⟩ => .ok ⟨seq, p⟩
  | binary bytes => Envelope.ofBinary bytes

/-- The one payload of a frame that is not too long.  A sequence number from a client counts for nothing. -/
def decode (limit : Nat) (f : Frame) : Except Fault Payload :=
  if limit < f.size then .error (.frameTooLarge f.size limit) else f.read.map (·.payload)

end Frame

def Envelope.encode (encoding : Encoding) (e : Envelope) : Frame :=
  match encoding with
  | .json => .text e.json.render
  | .protobuf => .binary e.binary

end EventGateway.Wire
