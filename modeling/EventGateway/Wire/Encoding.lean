import EventGateway.Text.Blank
import EventGateway.Wire.Fault
/-!
# Encodings

What a client receives is written in the encoding that its opening request asks for.
-/
namespace EventGateway.Wire

inductive Encoding where
  | protobuf
  | json
deriving DecidableEq, Repr, Inhabited

namespace Encoding

def text : Encoding → String
  | protobuf => "protobuf"
  | json => "json"

/-- The encoding asked for; protobuf if none is named. -/
def ofQuery (asked : Option String) : Except Fault Encoding :=
  let raw := Text.trim (asked.getD "")
  if raw == "" then .ok .protobuf
  else match raw.toLower with
    | "protobuf" | "proto" => .ok .protobuf
    | "json" => .ok .json
    | _ => .error (.unknownEncoding raw)

end Encoding
end EventGateway.Wire
