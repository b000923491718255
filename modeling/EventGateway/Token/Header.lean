import EventGateway.Json.Record
/-!
# The header of a token

A header names the algorithm, which is HMAC with SHA-256 for every token that is accepted here.  Its other parts say
where the key might be found.  They are not used, but a header in which one of them is malformed is no header.
-/
namespace EventGateway.Token

open Json (Refusal RecordFormat)

/-- A text, or null. -/
def asNote : Json → Except Refusal Unit
  | .null => .ok ()
  | v => v.asText.map (fun _ => ())

/-- A list of texts, or null. -/
def asNotes : Json → Except Refusal Unit
  | .null => .ok ()
  | v => (v.asList Json.asText).map (fun _ => ())

def oneOf (words : List String) : Json → Except Refusal Unit :=
  Json.asWord (fun s => if words.contains s then some () else none)

/-! ## Keys -/

/-- The algorithm of a key may be any; the name of a member may also have an empty object as its value. -/
def asKeyAlgorithm : Json → Except Refusal Unit
  | .null => .ok ()
  | .object [(some _, .object [])] => .ok ()
  | v => v.asWord (fun _ => some ())

/-- What may be said of a key of any kind. -/
def keyFormat : RecordFormat Unit :=
  ⟨["use", "key_ops", "alg", "kid", "x5u", "x5c", "x5t", "x5t#S256"], false, fun _ name v =>
    match name with
    | "key_ops" | "x5c" => asNotes v
    | "alg" => asKeyAlgorithm v
    | _ => asNote v⟩

def curves : List String := ["P-256", "P-384", "P-521", "Ed25519"]

/-- A kind of key and what a key of this kind consists of. -/
def kindFormat (kind : String) (parts : List String) : RecordFormat Unit :=
  ⟨"kty" :: parts, false, fun _ name v =>
    match name with
    | "kty" => oneOf [kind] v
    | "crv" => oneOf curves v
    | _ => v.asText.map (fun _ => ())⟩

def kinds : List (RecordFormat Unit) :=
  [kindFormat "EC" ["crv", "x", "y"], kindFormat "RSA" ["n", "e"], kindFormat "oct" ["k"],
    kindFormat "OKP" ["crv", "x"]]

/-- How deep the parts of a token may be nested. -/
def maxDepth : Nat := 127

/-- A key is an object.  It is read in full before any part of it is looked at, and has to be of one of the kinds; what
belongs to another kind is passed over. -/
def asKey : Json → Except Refusal Unit
  | .null => .ok ()
  | .object members => do
    let v : Json := .object members
    if !v.readable (maxDepth - 1) then throw .malformed
    let _ ← keyFormat.read () v
    if kinds.any (fun f => (f.readAll f.names () v).isOk) then return () else throw .malformed
  | _ => .error .malformed

/-! ## Headers -/

def headerFormat : RecordFormat Unit :=
  ⟨["typ", "alg", "cty", "jku", "jwk", "kid", "x5u", "x5c", "x5t", "x5t#S256"], false, fun _ name v =>
    match name with
    | "alg" => oneOf ["HS256"] v
    | "jwk" => asKey v
    | "x5c" => asNotes v
    | _ => asNote v⟩

/-- Of an object only the algorithm is required; an array has to be complete. -/
def readHeader (v : Json) : Except Refusal Unit :=
  headerFormat.readAll (match v with | .array _ => headerFormat.names | _ => ["alg"]) () v

end EventGateway.Token
