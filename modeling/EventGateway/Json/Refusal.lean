import EventGateway.Scope.Basic
/-!
# Why a document is refused

Most documents are refused because they do not have the expected shape.  Ids and scopes have objections of their own.
-/
namespace EventGateway.Json

inductive Refusal where
  | malformed
  | negativeId
  | badId
  | badSnowflake (e : Snowflake.ParseError)
  | badScope (e : Scope.ParseError)
deriving DecidableEq, Repr

/-- The wording of an objection; a wrong shape has none of its own. -/
def Refusal.message? : Refusal → Option String
  | .malformed => none
  | .negativeId => some "id must not be negative"
  | .badId => some "invalid id string"
  | .badSnowflake e => some e.message
  | .badScope e => some e.message

end EventGateway.Json
