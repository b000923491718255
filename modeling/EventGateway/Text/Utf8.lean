/-!
# Reading UTF-8 that may be broken

Bytes that spell no character count as one fault for each longest run that starts a character.
-/
namespace EventGateway.Text.Utf8

def between (low high b : UInt8) : Bool := low ≤ b && b ≤ high

/-- What may follow a first byte: the range of the second byte, and the number of bytes after that. -/
def follow? (a : UInt8) : Option (UInt8 × UInt8 × Nat) :=
  if between 0xC2 0xDF a then some (0x80, 0xBF, 0)
  else if a = 0xE0 then some (0xA0, 0xBF, 1)
  else if a = 0xED then some (0x80, 0x9F, 1)
  else if between 0xE1 0xEF a then some (0x80, 0xBF, 1)
  else if a = 0xF0 then some (0x90, 0xBF, 2)
  else if between 0xF1 0xF3 a then some (0x80, 0xBF, 2)
  else if a = 0xF4 then some (0x80, 0x8F, 2)
  else none

/-- The bits that a first byte contributes. -/
def leading (a : UInt8) : Nat :=
  if a < 0xE0 then a.toNat - 0xC0 else if a < 0xF0 then a.toNat - 0xE0 else a.toNat - 0xF0

/-- Reads on for `count` more bytes. -/
def continued : Nat → Nat → List UInt8 → Option Char × List UInt8
  | 0, n, rest => (some (Char.ofNat n), rest)
  | count + 1, n, b :: rest =>
    if between 0x80 0xBF b then continued count (n * 64 + (b.toNat - 0x80)) rest else (none, b :: rest)
  | _ + 1, _, [] => (none, [])

/-- The character that starts with byte `a`. -/
def readChar (a : UInt8) (rest : List UInt8) : Option Char × List UInt8 :=
  if a < 0x80 then (some (Char.ofNat a.toNat), rest)
  else match follow? a, rest with
    | some (low, high, count), b :: rest =>
      if between low high b then continued count (leading a * 64 + (b.toNat - 0x80)) rest
      else (none, b :: rest)
    | _, _ => (none, rest)

/-- Goes through the bytes; `fuel` bounds the number of characters. -/
def charsFrom : Nat → List UInt8 → List (Option Char)
  | _, [] => []
  | 0, _ :: _ => []
  | fuel + 1, a :: rest =>
    let (c, rest) := readChar a rest
    c :: charsFrom fuel rest

/-- The characters that bytes spell, and `none` for each fault. -/
def chars (bytes : List UInt8) : List (Option Char) := charsFrom bytes.length bytes

def replacement : Char := Char.ofNat 0xFFFD

/-- A text with U+FFFD for each fault. -/
def lossy (bytes : List UInt8) : String := String.ofList ((chars bytes).map (·.getD replacement))

end EventGateway.Text.Utf8
