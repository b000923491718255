/-!
# Sets of characters

A set of characters as the list of its ranges, first and last.
-/
namespace EventGateway.Text

def inRanges (ranges : List (Nat × Nat)) (c : Char) : Bool :=
  ranges.any (fun r => r.1 ≤ c.toNat && c.toNat ≤ r.2)

end EventGateway.Text
