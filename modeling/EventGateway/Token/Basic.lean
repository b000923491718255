import EventGateway.Digest.Sha256
import EventGateway.Failure
import EventGateway.Json.Record
import EventGateway.Text.Base64
import EventGateway.Token.Header
/-!
# Access tokens

A token is a header, claims and a signature, each in base64, with points between them.  The signature is the keyed
digest of the first two parts as they stand.
-/
namespace EventGateway

/-- Times are in seconds of Unix time. -/
structure Claims where
  subject : String
  issuedAt : Int64
  expiresAt : Int64
deriving DecidableEq, Repr

namespace Claims

def user (c : Claims) : Except Failure Snowflake := (Snowflake.parse c.subject).mapError (fun _ => .invalidToken)

def isExpired (now : Int) (c : Claims) : Bool := c.expiresAt.toInt < now

def json (c : Claims) : Json :=
  .ofFields [("sub", .str c.subject), ("iat", .integer c.issuedAt.toInt), ("exp", .integer c.expiresAt.toInt)]

def format : Json.RecordFormat Claims :=
  ⟨["sub", "iat", "exp"], false, fun c name v =>
    match name with
    | "sub" => v.asText.map (fun x => { c with subject := x })
    | "iat" => v.asInt64.map (fun x => { c with issuedAt := x })
    | _ => v.asInt64.map (fun x => { c with expiresAt := x })⟩

def ofJson (v : Json) : Except Json.Refusal Claims := format.readAll format.names ⟨"", 0, 0⟩ v

def read (s : String) : Except Json.Refusal Claims := Json.readText ofJson s

end Claims

namespace Token

/-- A token may be presented with the word Bearer in front of it. -/
def stripBearer (s : String) : String :=
  let token := Text.trimChars s.toList
  match token with
  | 'B' :: 'e' :: 'a' :: 'r' :: 'e' :: 'r' :: rest =>
    if rest.head?.all (· == ' ') then String.ofList (Text.trimLeftChars rest) else String.ofList token
  | _ => String.ofList token

/-! ## Writing -/

def header : Json := .ofFields [("typ", .str "JWT"), ("alg", .str "HS256")]

def encodePart (s : String) : String := String.ofList (Text.Base64.encode s.toUTF8.toList)

def sign (secret message : String) : String :=
  String.ofList (Text.Base64.encode (Digest.hmac secret.toUTF8.toList message.toUTF8.toList))

def write (secret : String) (c : Claims) : String :=
  let message := encodePart header.render ++ "." ++ encodePart c.json.render
  message ++ "." ++ sign secret message

/-- A token for a user that is issued at `now` and lasts `lifetime` seconds. -/
def issue (secret : String) (now : Int) (lifetime : Int64) (user : Snowflake) : String :=
  write secret ⟨user.text, Int64.ofInt now, Int64.ofInt (now + lifetime.toInt)⟩

/-! ## Reading -/

/-- What a token must not say: for whom it is. -/
structure Restriction where
  audience : Bool

/-- A text, or a list of texts. -/
def isAudience : Json → Bool
  | .text _ => true
  | .array items => items.all (· matches .text _)
  | _ => false

/-- **A claim that cannot be read is no claim**, as long as a reader gets past it. -/
def heard (v : Json) : Except Json.Refusal Bool :=
  match v.reach (maxDepth - 1) with
  | .full => .ok true
  | .past => .ok false
  | .stuck => .error .malformed

/-- A claim that should be a number: an array or an object is looked at no further than its opening bracket. -/
def asTime : Json → Except Json.Refusal Unit
  | .array items => if items.isEmpty then .ok () else .error .malformed
  | .object members => if members.isEmpty then .ok () else .error .malformed
  | v => (heard v).map (fun _ => ())

def restrictionFormat : Json.RecordFormat Restriction :=
  ⟨["exp", "nbf", "sub", "iss", "aud"], false, fun r name v =>
    match name with
    | "aud" => (heard v).map (fun known => { r with audience := known && isAudience v })
    | "exp" | "nbf" => (asTime v).map (fun _ => r)
    | _ => (heard v).map (fun _ => r)⟩

/-- Claims are an object and no array. -/
def readClaims : Json → Except Json.Refusal (Claims × Restriction)
  | .object members => do
    let c ← Claims.ofJson (.object members)
    let r ← restrictionFormat.read ⟨false⟩ (.object members)
    return (c, r.state)
  | _ => .error .malformed

def readPart (read : Json → Except Json.Refusal α) (s : String) : Option α := do
  (Json.readBytes read (← Text.Base64.decode s.toList)).toOption

/-- Seconds for which an expired token is still accepted. -/
def leeway : Int := 60

/-- **Of a token that is expired and wrong in no other way, the client is told that it is expired**; of one that is for
somebody else too. -/
def check (now : Int) (c : Claims) (r : Restriction) : Except Failure Claims :=
  if c.expiresAt < 0 then .error .invalidToken
  else if c.expiresAt.toInt < now - leeway then .error .tokenExpired
  else if r.audience then .error .invalidToken
  else .ok c

/-- The claims of a token whose header and signature are right. -/
def verify (secret : String) (token : String) : Option (Claims × Restriction) := do
  match Text.splitOn '.' token with
  | [head, payload, signature] =>
    readPart readHeader head
    guard (signature = sign secret (head ++ "." ++ payload))
    readPart readClaims payload
  | _ => none

/-- `now` is in seconds of Unix time. -/
def validate (secret : String) (now : Int) (presented : String) : Except Failure Claims :=
  let token := stripBearer presented
  if token = "" then .error .missingAuth
  else match verify secret token with
    | none => .error .invalidToken
    | some (c, r) => check now c r

end Token
end EventGateway
