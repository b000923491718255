import EventGateway.Snowflake.Basic
import EventGateway.Text.Blank
/-!
# Scopes

A scope names one stream of events: a channel, a user, or the presence of everyone.  Its text is `kind:id`, or the
word `presence`.
-/
namespace EventGateway

inductive Scope where
  | channel (id : Snowflake)
  | user (id : Snowflake)
  | presence
deriving DecidableEq, Repr

namespace Scope

def kind : Scope → String
  | .channel _ => "channel"
  | .user _ => "user"
  | .presence => "presence"

def id? : Scope → Option Snowflake
  | .channel id => some id
  | .user id => some id
  | .presence => none

def text (s : Scope) : String :=
  match s.id? with
  | some id => s.kind ++ ":" ++ id.text
  | none => s.kind

/-- Channels come before users, and users before presence. -/
def rank : Scope → Nat
  | .channel _ => 0
  | .user _ => 1
  | .presence => 2

def idBits (s : Scope) : Int64 := (s.id?.getD ⟨0⟩).bits

instance : Ord Scope := ⟨compareLex (compareOn rank) (compareOn idBits)⟩

inductive ParseError where
  | missingSeparator (text : String)
  | unknownKind (kind : String)
  | invalidId (id : String)
deriving DecidableEq, Repr

def ParseError.message : ParseError → String
  | .missingSeparator s => "scope must have the form `kind:id`, got `" ++ s ++ "`"
  | .unknownKind s => "unknown scope kind `" ++ s ++ "`"
  | .invalidId s => "invalid scope id `" ++ s ++ "`"

/-- The id of a scope is a positive number, white space around it aside. -/
def parseId (raw : String) : Option Snowflake :=
  match Snowflake.parse (Text.trim raw) with
  | .ok id => if id.isPositive then some id else none
  | .error _ => none

/-- **The id is looked at before the kind**, so a text wrong in both is refused for its id. -/
def parse (s : String) : Except ParseError Scope :=
  if Text.trim s == "presence" then .ok .presence
  else match Text.cutAt ':' s with
    | none => .error (.missingSeparator s)
    | some (kind, rawId) =>
      match parseId rawId with
      | none => .error (.invalidId rawId)
      | some id =>
        if Text.trim kind == "channel" then .ok (.channel id)
        else if Text.trim kind == "user" then .ok (.user id)
        else .error (.unknownKind (Text.trim kind))

end Scope
end EventGateway
