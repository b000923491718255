import EventGateway.CloseCode
import EventGateway.Json.Refusal
/-!
# What is wrong with a frame or an opening request
-/
namespace EventGateway.Wire

inductive Fault where
  | json (why : Json.Refusal)
  | binary
  | emptyEnvelope
  | multipleVariants (count : Nat)
  | unknownVariant (tag : Nat)
  | truncated (tag : Nat)
  | invalidWireType (tag wireType : Nat)
  | frameTooLarge (size limit : Nat)
  | unknownEncoding (text : String)
  | invalidVersion (text : String)
  | unsupportedVersion (text : String)
  | unwritable (why : String)
deriving DecidableEq, Repr

namespace Fault

def message : Fault → String
  | json why => "Malformed JSON envelope: " ++ why.message?.getD ""
  | binary => "Malformed protobuf envelope: "
  | emptyEnvelope => "Envelope has no payload"
  | multipleVariants count =>
    "Envelope has " ++ Text.ofNat count ++ " payload variants, expected exactly one"
  | unknownVariant tag => "Unknown payload tag " ++ Text.ofNat tag
  | truncated tag => "Truncated protobuf field " ++ Text.ofNat tag
  | invalidWireType tag wireType =>
    "Invalid protobuf wire type " ++ Text.ofNat wireType ++ " for field " ++ Text.ofNat tag
  | frameTooLarge size limit =>
    "Frame of " ++ Text.ofNat size ++ " bytes exceeds limit of " ++ Text.ofNat limit
  | unknownEncoding text => "Unknown encoding `" ++ text ++ "`"
  | invalidVersion text => "Invalid protocol version `" ++ text ++ "`"
  | unsupportedVersion text => "Unsupported protocol version `" ++ text ++ "`"
  | unwritable why => "Failed to encode envelope: " ++ why

def closeCode : Fault → CloseCode
  | invalidVersion _ | unsupportedVersion _ => .versionUnsupported
  | unwritable _ => .unknownError
  | _ => .protocolViolation

end Fault
end EventGateway.Wire
