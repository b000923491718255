/-!
# Decimal integers

A decimal integer in text is an optional sign and at least one digit, and nothing else.  Reading stops at the first
character that is no digit, or that takes the number past a bound.
-/
namespace EventGateway.Text.Decimal

inductive Fault where
  | empty
  | badDigit
  | tooLarge
  | tooSmall
deriving DecidableEq, Repr

def Fault.message : Fault → String
  | .empty => "cannot parse integer from empty string"
  | .badDigit => "invalid digit found in string"
  | .tooLarge => "number too large to fit in target type"
  | .tooSmall => "number too small to fit in target type"

def isDigit (c : Char) : Bool := '0' ≤ c && c ≤ '9'

def digitValue (c : Char) : Nat := c.toNat - 48

/-- Reads on from `n`, never past `high`. -/
def climb (high : Int) : Int → List Char → Except Fault Int
  | n, [] => .ok n
  | n, c :: cs =>
    if !isDigit c then .error .badDigit
    else if high < n * 10 + digitValue c then .error .tooLarge
    else climb high (n * 10 + digitValue c) cs

/-- Reads on from `n`, each digit taken away, never past `low`. -/
def descend (low : Int) : Int → List Char → Except Fault Int
  | n, [] => .ok n
  | n, c :: cs =>
    if !isDigit c then .error .badDigit
    else if n * 10 - digitValue c < low then .error .tooSmall
    else descend low (n * 10 - digitValue c) cs

/-- **A number between two bounds.**  A minus sign is a sign only where the bounds leave room below zero; otherwise it
is a character that is no digit. -/
def read (low high : Int) : List Char → Except Fault Int
  | [] => .error .empty
  | ['+'] => .error .badDigit
  | ['-'] => .error .badDigit
  | '+' :: cs => climb high 0 cs
  | '-' :: cs => if low < 0 then descend low 0 cs else .error .badDigit
  | cs => climb high 0 cs

def readInt64 (s : String) : Except Fault Int64 :=
  (read Int64.minValue.toInt Int64.maxValue.toInt s.toList).map Int64.ofInt

def readUInt64 (s : String) : Except Fault UInt64 :=
  (read 0 (UInt64.size - 1 : Nat) s.toList).map (UInt64.ofNat ·.toNat)

def readUInt32 (s : String) : Except Fault UInt32 :=
  (read 0 (UInt32.size - 1 : Nat) s.toList).map (UInt32.ofNat ·.toNat)

def readUInt16 (s : String) : Except Fault UInt16 :=
  (read 0 (UInt16.size - 1 : Nat) s.toList).map (UInt16.ofNat ·.toNat)

/-- The value of a run of digits. -/
def value (digits : List Char) : Nat := digits.foldl (fun n c => n * 10 + digitValue c) 0

def write (n : Nat) : List Char := Nat.toDigits 10 n

def writeInt : Int → List Char
  | .ofNat n => write n
  | .negSucc n => '-' :: write (n + 1)

end EventGateway.Text.Decimal

namespace EventGateway.Text

def ofNat (n : Nat) : String := String.ofList (Decimal.write n)

def ofInt (n : Int) : String := String.ofList (Decimal.writeInt n)

end EventGateway.Text
