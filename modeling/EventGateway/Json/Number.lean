import EventGateway.Json.Basic
import EventGateway.Text.Decimal
/-!
# Numbers in JSON

A number is read from left to right.  Its digits make a significand of 64 bits; from the first digit on that does not
fit, digits only count as powers of ten.  A number that is no integer becomes a double, and an infinite one is a fault.
-/
namespace EventGateway.Json

open EventGateway.Text

/-- Takes in digits as long as the significand fits into 64 bits, and gives back the rest of them. -/
def absorb (significand : Nat) : List Char → Nat × List Char
  | [] => (significand, [])
  | c :: cs =>
    let next := significand * 10 + Decimal.digitValue c
    if next < UInt64.size then absorb next cs else (significand, c :: cs)

/-- The double nearest to a number, ties to even, if it is finite. -/
def toDouble (n : Nat) : Nat :=
  let unit := 1 <<< (Nat.log2 n - 52)
  let (q, r) := (n / unit, n % unit)
  (if unit < 2 * r ∨ (unit = 2 * r ∧ q % 2 = 1) then q + 1 else q) * unit

/-- The least number whose nearest double is infinite. -/
def doubleLimit : Nat := 1 <<< 1024 - 1 <<< 970

/-- Whether `significand * 10 ^ exponent` is finite as the product of two doubles. -/
def finite (significand : Nat) (exponent : Int) : Bool :=
  if significand = 0 ∨ exponent ≤ 0 then true
  else if 308 < exponent then false
  else toDouble significand * toDouble (Nat.pow 10 exponent.toNat) < doubleLimit

/-- The largest exponent that may be written, but for a number that is zero anyway. -/
def maxExponent : Nat := 2147483647

/-- What digits of an exponent say, or the digits behind the one with which the exponent becomes too large. -/
def exponentOf (e : Nat) : List Char → Except (List Char) Nat
  | [] => .ok e
  | c :: cs =>
    let next := e * 10 + Decimal.digitValue c
    if next ≤ maxExponent then exponentOf next cs else .error cs

/-- A number as it is written: the digits before the point, those behind it, and the exponent. -/
structure Numeral where
  negative : Bool
  whole : List Char
  fraction : List Char
  exponent : Option (Bool × List Char)
deriving DecidableEq, Repr

namespace Numeral

/-- The significand, and the power of ten that the digits leave for it. -/
def parts (n : Numeral) : Nat × Int :=
  let (s, beyond) := absorb 0 n.whole
  let (s, unused) := absorb s n.fraction
  (s, beyond.length - (n.fraction.length - unused.length))

def reachOf (significand : Nat) (exponent : Int) : Reach := if finite significand exponent then .full else .past

/-- How far a reader comes that wants a double. **Where an exponent is too large it stops at once.** -/
def reach (n : Numeral) : Reach :=
  let (s, e) := n.parts
  match n.exponent with
  | none => reachOf s e
  | some (negative, digits) =>
    match exponentOf 0 digits with
    | .ok x => reachOf s (if negative then e - x else e + x)
    | .error rest => if s = 0 ∨ negative then .full else if rest.isEmpty then .past else .stuck

/-- The integer that a number is; **a negative zero is none**. -/
def integer? (n : Numeral) : Option Int :=
  if !n.fraction.isEmpty || n.exponent.isSome then none
  else
    let v := Decimal.value n.whole
    if n.negative then if 0 < v ∧ v ≤ 1 <<< 63 then some (-(v : Int)) else none
    else if v < UInt64.size then some v else none

def json (n : Numeral) : Json := n.integer?.elim (.real n.reach) .integer

end Numeral
end EventGateway.Json
