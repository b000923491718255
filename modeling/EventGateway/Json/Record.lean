import EventGateway.Json.Refusal
import EventGateway.Json.Scan
import EventGateway.Text.Utf8
/-!
# Reading records

A record is written as an object with one member for each part, in any order, or as an array of its parts in the order
of their declaration.  It is read part by part in the order of the text, so the first objection is the one that counts.
-/
namespace EventGateway.Json

/-! ## Single values -/

def asText : Json → Except Refusal String
  | .text s => .ok s
  | _ => .error .malformed

/-- An integer between two bounds; a number written with a point, an exponent or as negative zero is none. -/
def asInteger (low high : Int) : Json → Except Refusal Int
  | .integer n => if low ≤ n ∧ n ≤ high then .ok n else .error .malformed
  | _ => .error .malformed

def asUInt16 (v : Json) : Except Refusal UInt16 :=
  (v.asInteger 0 (UInt16.size - 1 : Nat)).map (UInt16.ofNat ·.toNat)

def asUInt32 (v : Json) : Except Refusal UInt32 :=
  (v.asInteger 0 (UInt32.size - 1 : Nat)).map (UInt32.ofNat ·.toNat)

def asUInt64 (v : Json) : Except Refusal UInt64 :=
  (v.asInteger 0 (UInt64.size - 1 : Nat)).map (UInt64.ofNat ·.toNat)

def asInt64 (v : Json) : Except Refusal Int64 :=
  (v.asInteger Int64.minValue.toInt Int64.maxValue.toInt).map Int64.ofInt

def asList (read : Json → Except Refusal α) : Json → Except Refusal (List α)
  | .array items => items.mapM read
  | _ => .error .malformed

/-- A value that is passed over is only checked for its syntax. -/
def pass (v : Json) : Except Refusal Unit := if v.whole then .ok () else .error .malformed

/-! ## Records -/

/-- How the parts of a record are read: `names` in the order of declaration, `part` to take one in, and whether a name
that is none of them is refused. -/
structure RecordFormat (σ : Type) where
  names : List String
  strict : Bool
  part : σ → String → Json → Except Refusal σ

/-- A record read so far, and the names of the parts that were there. -/
structure Progress (σ : Type) where
  state : σ
  seen : List String

namespace RecordFormat

variable {σ : Type}

/-- One member.  A part given twice is refused before its value is looked at. -/
def member (f : RecordFormat σ) (p : Progress σ) : Option String × Json → Except Refusal (Progress σ)
  | (none, _) => .error .malformed
  | (some name, v) =>
    if f.names.contains name then
      if p.seen.contains name then .error .malformed
      else do return ⟨← f.part p.state name v, name :: p.seen⟩
    else if f.strict then .error .malformed
    else do v.pass; return p

/-- The items of an array under the names still to come; an item too many is refused. -/
def positional (f : RecordFormat σ) : List String → List Json → Progress σ → Except Refusal (Progress σ)
  | _, [], p => .ok p
  | [], _ :: _, _ => .error .malformed
  | name :: names, v :: rest, p => do
    positional f names rest ⟨← f.part p.state name v, name :: p.seen⟩

def read (f : RecordFormat σ) (start : σ) : Json → Except Refusal (Progress σ)
  | .object members => members.foldlM f.member ⟨start, []⟩
  | .array items => f.positional f.names items ⟨start, []⟩
  | _ => .error .malformed

/-- A record with all the parts in `required`. -/
def readAll (f : RecordFormat σ) (required : List String) (start : σ) (v : Json) : Except Refusal σ := do
  let p ← f.read start v
  if required.all p.seen.contains then return p.state else throw .malformed

end RecordFormat

/-- A word of a closed list, alone or as the name of a member whose value is null. -/
def asWord (read : String → Option α) : Json → Except Refusal α
  | .text s => (read s).elim (.error .malformed) .ok
  | .object [(some s, .null)] => (read s).elim (.error .malformed) .ok
  | _ => .error .malformed

/-! ## Whole texts -/

/-- **A source that is one document and nothing else.**  What stands behind the document is looked at last. -/
def readSource (read : Json → Except Refusal α) (cs : Source) : Except Refusal α :=
  match scan cs with
  | (v, rest) => do
    let a ← read v
    if rest.any (fun cs => (skipSpace cs).isEmpty) then return a else throw .malformed

def readText (read : Json → Except Refusal α) (s : String) : Except Refusal α := readSource read (s.toList.map some)

/-- A document may be broken in what is passed over. -/
def readBytes (read : Json → Except Refusal α) (bytes : List UInt8) : Except Refusal α :=
  readSource read (Text.Utf8.chars bytes)

/-! ## Ids -/

/-- **An id of a payload** is an unsigned number, written as a text or as a number. -/
def asId : Json → Except Refusal UInt64
  | .text s => (Text.Decimal.readUInt64 s).mapError (fun _ => .badId)
  | .integer n =>
    if 0 ≤ n ∧ n < UInt64.size then .ok (UInt64.ofNat n.toNat)
    else if Int64.minValue.toInt ≤ n ∧ n < 0 then .error .negativeId
    else .error .malformed
  | _ => .error .malformed

/-- **A snowflake** is a signed number written as a text, or a number; an unsigned number past the signed ones stands
for its bits. -/
def asSnowflake : Json → Except Refusal Snowflake
  | .text s => (Snowflake.parse s).mapError .badSnowflake
  | .integer n =>
    if Int64.minValue.toInt ≤ n ∧ n < UInt64.size then .ok ⟨Int64.ofInt n⟩ else .error .malformed
  | _ => .error .malformed

def asScope : Json → Except Refusal Scope
  | .text s => (Scope.parse s).mapError .badScope
  | _ => .error .malformed

def ofSnowflake (s : Snowflake) : Json := str s.text

end EventGateway.Json
