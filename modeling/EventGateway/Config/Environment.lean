import EventGateway.Text.Blank
import EventGateway.Text.Lowercase
/-!
# Environments

Where the gateway runs.
-/
namespace EventGateway

inductive Environment where
  | development
  | staging
  | production
deriving DecidableEq, Repr, Inhabited

namespace Environment

def ofWord? : String → Option Environment
  | "development" => some development
  | "staging" => some staging
  | "production" => some production
  | _ => none

def label : Environment → String
  | development => "Development"
  | staging => "Staging"
  | production => "Production"

/-- The case does not matter, nor does white space at the ends. -/
def parse? (s : String) : Option Environment := ofWord? (Text.lower (Text.trim s))

def parse (s : String) : Except String Environment :=
  (parse? s).elim (.error ("unknown environment `" ++ s ++ "`")) .ok

end Environment
end EventGateway
