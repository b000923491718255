import EventGateway.Json.Scan
import EventGateway.Text.Blank
import EventGateway.Text.Utf8
import EventGateway.Wire.Encoding
import EventGateway.Wire.Version
/-!
# Opening requests

A client asks for a connection with a request whose query names the encoding and the version that it speaks.
-/
namespace EventGateway

namespace Request

/-- A part of a query: a plus sign is a blank, and a percent sign with two digits is a byte. -/
def formBytes : List UInt8 → List UInt8
  | 0x25 :: a :: b :: rest =>
    match Json.hexValue? (Char.ofNat a.toNat), Json.hexValue? (Char.ofNat b.toNat) with
    | some x, some y => UInt8.ofNat (x * 16 + y) :: formBytes rest
    | _, _ => 0x25 :: formBytes (a :: b :: rest)
  | 0x2B :: rest => 0x20 :: formBytes rest
  | a :: rest => a :: formBytes rest
  | [] => []

def formText (s : String) : String := Text.Utf8.lossy (formBytes s.toUTF8.toList)

/-- The name and the value of a member; without an equals sign the value is empty. -/
def member (s : String) : String × String :=
  match Text.cutAt '=' s with
  | some (name, value) => (formText name, formText value)
  | none => (formText s, "")

def members (query : String) : List (String × String) :=
  ((Text.splitOn '&' query).filter (· ≠ "")).map member

/-- The query of a target, behind the question mark. -/
def queryOf (target : String) : String :=
  match Text.cutAt '?' ((Text.splitOn '#' target).headD "") with
  | some (_, query) => query
  | none => ""

def pathOf (target : String) : String :=
  (Text.splitOn '?' ((Text.splitOn '#' target).headD "")).headD ""

def isHeaderSpace (c : Char) : Bool := c == ' ' || c == '\t'

/-- A client's name for itself counts only if it is plain text; blanks around it are no part of it. -/
def plainAgent (agent : Option String) : Option String := do
  let cs := (← agent).toList
  guard (cs.all (fun c => c == '\t' || (0x20 ≤ c.toNat && c.toNat < 0x7F)))
  return String.ofList ((cs.dropWhile isHeaderSpace).reverse.dropWhile isHeaderSpace).reverse

end Request

/-- Who asks for a connection. -/
structure Peer where
  address : String
  agent : Option String
deriving DecidableEq, Repr

/-- What a client asks for, as it stands in the query. -/
structure Opening where
  encoding : Option String
  version : Option String
deriving DecidableEq, Repr

namespace Opening

/-- The value of a name that may stand in a query once; nothing is wrong with others. -/
def single? (name : String) (members : List (String × String)) : Option (Option String) :=
  match members.filter (·.1 == name) with
  | [] => some none
  | [m] => some (some m.2)
  | _ => none

/-- A query with a known name in it twice is refused. -/
def ofQuery? (query : String) : Option Opening := do
  let members := Request.members query
  return ⟨← single? "encoding" members, ← single? "version" members⟩

/-- **The encoding is looked at before the version.** -/
def negotiate (o : Opening) (versions : Wire.VersionSet) : Except Wire.Fault (Wire.Encoding × Wire.Version) := do
  let encoding ← Wire.Encoding.ofQuery o.encoding
  let version ← versions.resolve o.version
  return (encoding, version)

end Opening
end EventGateway
