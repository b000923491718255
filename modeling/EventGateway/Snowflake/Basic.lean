import EventGateway.Text.Decimal
/-!
# Snowflakes

Time-ordered 64-bit identifiers.  From the top: milliseconds since the epoch, ten bits of worker, twelve bits of
sequence.  An id is a signed number; on the wire its bits travel as an unsigned one.
-/
namespace EventGateway

structure Snowflake where
  bits : Int64
deriving DecidableEq, Repr, Inhabited

namespace Snowflake

instance : Ord Snowflake := ⟨fun a b => compare a.bits b.bits⟩

/-- 2024-01-01 00:00:00 UTC, in milliseconds of Unix time. -/
def epoch : Int := 1704067200000

/-- Ten bits of worker. -/
def workers : Nat := 1024

/-- Twelve bits of sequence. -/
def sequences : Nat := 4096

def maxWorker : Nat := workers - 1

/-- Milliseconds since the epoch, before it if negative. -/
def age (s : Snowflake) : Int := s.bits.toInt / (workers * sequences : Nat)

/-- Milliseconds of Unix time. -/
def timestamp (s : Snowflake) : Int := s.age + epoch

def worker (s : Snowflake) : Nat := (s.bits.toInt / sequences % workers).toNat

def sequence (s : Snowflake) : Nat := (s.bits.toInt % sequences).toNat

def isZero (s : Snowflake) : Bool := s.bits == 0

def isPositive (s : Snowflake) : Bool := 0 < s.bits

def toUInt64 (s : Snowflake) : UInt64 := s.bits.toUInt64

def ofUInt64 (n : UInt64) : Snowflake := ⟨n.toInt64⟩

def ofNat (n : Nat) : Snowflake := ⟨Int64.ofNat n⟩

inductive ParseError where
  | invalidFormat
deriving DecidableEq, Repr

def ParseError.message : ParseError → String
  | .invalidFormat => "invalid snowflake format"

def parse (s : String) : Except ParseError Snowflake :=
  match Text.Decimal.readInt64 s with
  | .ok n => .ok ⟨n⟩
  | .error _ => .error .invalidFormat

def text (s : Snowflake) : String := Text.ofInt s.bits.toInt

end Snowflake
end EventGateway
