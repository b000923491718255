/-!
# Varints

An unsigned 64-bit number as groups of seven bits, the lowest group first, each byte but the last with its top bit set.
-/
namespace EventGateway.Wire.Varint

/-- The number of bytes that 64 bits fill. -/
def maxLength : Nat := 10

/-- Reads on at byte number `i`, with `n` read so far. -/
def readFrom (i n : Nat) : List UInt8 → Option (Nat × List UInt8)
  | [] => none
  | b :: rest =>
    if i + 1 = maxLength ∧ 1 < b then none
    else if b < 128 then some (n + b.toNat <<< (7 * i), rest)
    else readFrom (i + 1) (n + (b.toNat % 128) <<< (7 * i)) rest

/-- **Longer spellings than needed are read too**, as long as they keep to ten bytes and 64 bits. -/
def read (bytes : List UInt8) : Option (Nat × List UInt8) := readFrom 0 0 bytes

/-- At most `room + 1` bytes, none of them superfluous. -/
def writeWithin : Nat → Nat → List UInt8
  | 0, n => [UInt8.ofNat n]
  | room + 1, n =>
    if n < 128 then [UInt8.ofNat n] else UInt8.ofNat (n % 128 + 128) :: writeWithin room (n / 128)

def write (n : UInt64) : List UInt8 := writeWithin (maxLength - 1) n.toNat

end EventGateway.Wire.Varint
