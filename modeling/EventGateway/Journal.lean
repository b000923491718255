import EventGateway.Text.Decimal
/-!
# The journal

What the gateway tells its operators about its work.
-/
namespace EventGateway

inductive Level where
  | error
  | warn
  | info
  | debug
  | trace
deriving DecidableEq, Repr

namespace Level

def all : List Level := [error, warn, info, debug, trace]

def text : Level → String
  | error => "ERROR"
  | warn => "WARN"
  | info => "INFO"
  | debug => "DEBUG"
  | trace => "TRACE"

/-- The more talkative of two levels has the greater rank. -/
def rank (l : Level) : Nat := l.ctorIdx + 1

end Level

/-- A detail of a note. -/
inductive Detail where
  | text (s : String)
  | number (n : Nat)
deriving DecidableEq, Repr

def Detail.shown : Detail → String
  | text s => s
  | number n => Text.ofNat n

structure Note where
  level : Level
  message : String
  details : List (String × Detail)
deriving DecidableEq, Repr

/-- The message counts as a field. -/
def Note.fields (n : Note) : List String := "message" :: n.details.map (·.1)

/-- The notes taken so far, the latest first. -/
abbrev Journal := List Note

namespace Journal

def write (j : Journal) (level : Level) (message : String) (details : List (String × Detail)) : Journal :=
  ⟨level, message, details⟩ :: j

end Journal
end EventGateway
