import EventGateway.Event.Basic
import EventGateway.Json.Record
import EventGateway.Json.Render
/-!
# Events as documents

An event is a record whose part `type` names what happened; the parts that go with it are all required.  In the form
of an array the name comes first.  Since the name may stand anywhere in an object, the document is read in full before
any other part of it is looked at.
-/
namespace EventGateway

open Json (Refusal)

/-- How deep a document may be nested. -/
def Event.maxDepth : Nat := 127

/-- A status is a word, alone or as the name of a member that says nothing more. -/
def Presence.ofJson (v : Json) : Except Refusal Presence :=
  let word (s : String) := (Presence.parse? s).elim (.error .malformed) .ok
  match v with
  | .text s => word s
  | .object [(some s, .null)] => word s
  | .object [(some s, .object [])] => word s
  | _ => .error .malformed

namespace Event

/-- What is known of an event while its parts are read. -/
structure Parts where
  channel : Snowflake
  message : Snowflake
  user : Snowflake
  content : String
  timestamp : Int64
  status : Presence

def Parts.empty : Parts := ⟨⟨0⟩, ⟨0⟩, ⟨0⟩, "", 0, .initial⟩

def Parts.member (p : Parts) (name : String) (v : Json) : Except Refusal Parts :=
  match name with
  | "channel_id" => v.asSnowflake.map (fun id => { p with channel := id })
  | "message_id" => v.asSnowflake.map (fun id => { p with message := id })
  | "author_id" | "user_id" => v.asSnowflake.map (fun id => { p with user := id })
  | "content" => v.asText.map (fun s => { p with content := s })
  | "timestamp_ms" | "edited_timestamp_ms" => v.asInt64.map (fun t => { p with timestamp := t })
  | "status" => (Presence.ofJson v).map (fun s => { p with status := s })
  | _ => .error .malformed

/-- The parts that go with the name of an event, in the order of declaration, and the event that they make. -/
def shape? : String → Option (List String × (Parts → Event))
  | "MESSAGE_CREATED" => some (["channel_id", "message_id", "author_id", "content", "timestamp_ms"],
      fun p => .messageCreated p.channel p.message p.user p.content p.timestamp)
  | "MESSAGE_UPDATED" => some (["channel_id", "message_id", "content", "edited_timestamp_ms"],
      fun p => .messageUpdated p.channel p.message p.content p.timestamp)
  | "MESSAGE_DELETED" => some (["channel_id", "message_id"], fun p => .messageDeleted p.channel p.message)
  | "TYPING_STARTED" => some (["channel_id", "user_id", "timestamp_ms"],
      fun p => .typingStarted p.channel p.user p.timestamp)
  | "PRESENCE_UPDATED" => some (["user_id", "status"], fun p => .presenceUpdated p.user p.status)
  | _ => none

def isTag (m : Option String × Json) : Bool := m.1 == some "type"

/-- The name of an event and the document of its other parts. -/
def splitTag : Json → Except Refusal (String × Json)
  | .object members =>
    match members.filter isTag with
    | [(_, .text name)] => .ok (name, .object (members.filter (!isTag ·)))
    | _ => .error .malformed
  | .array (.text name :: items) => .ok (name, .array items)
  | _ => .error .malformed

def ofJson (v : Json) : Except Refusal Event :=
  if v.readable maxDepth then do
    let (name, rest) ← splitTag v
    match shape? name with
    | none => .error .malformed
    | some (names, make) => return make (← Json.RecordFormat.readAll ⟨names, false, Parts.member⟩ names .empty rest)
  else .error .malformed

def read (s : String) : Except Refusal Event := Json.readText ofJson s

/-- The parts of an event as they are written. -/
def fields : Event → List (String × Json)
  | messageCreated channel message author content timestamp =>
    [("channel_id", .ofSnowflake channel), ("message_id", .ofSnowflake message), ("author_id", .ofSnowflake author),
      ("content", .str content), ("timestamp_ms", .integer timestamp.toInt)]
  | messageUpdated channel message content timestamp =>
    [("channel_id", .ofSnowflake channel), ("message_id", .ofSnowflake message), ("content", .str content),
      ("edited_timestamp_ms", .integer timestamp.toInt)]
  | messageDeleted channel message => [("channel_id", .ofSnowflake channel), ("message_id", .ofSnowflake message)]
  | typingStarted channel user timestamp =>
    [("channel_id", .ofSnowflake channel), ("user_id", .ofSnowflake user), ("timestamp_ms", .integer timestamp.toInt)]
  | presenceUpdated user status => [("user_id", .ofSnowflake user), ("status", .str status.text)]

def json (e : Event) : Json := .ofFields (("type", .str e.name) :: e.fields)

end Event
end EventGateway
