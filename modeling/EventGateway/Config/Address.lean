import EventGateway.Text.Decimal
/-!
# Listen addresses

An address is four numbers with points between them, or up to eight groups of hexadecimal digits in brackets, and a
port behind a colon.  Only its form matters here: each reader answers with what stands behind what it has read.
-/
namespace EventGateway.Address

open EventGateway.Text

def digitIn? (radix : Nat) (c : Char) : Option Nat :=
  let n := if '0' ≤ c ∧ c ≤ '9' then c.toNat - 48
    else if 'a' ≤ c ∧ c ≤ 'z' then c.toNat - 87
    else if 'A' ≤ c ∧ c ≤ 'Z' then c.toNat - 55
    else radix
  if n < radix then some n else none

def isDigitIn (radix : Nat) (c : Char) : Bool := (digitIn? radix c).isSome

/-- At least one digit, and a number up to `max`. -/
def number (radix max : Nat) (cs : List Char) : Option (List Char × List Char) :=
  let digits := cs.takeWhile (isDigitIn radix)
  let value := digits.foldl (fun n c => n * radix + (digitIn? radix c).getD 0) 0
  if digits.isEmpty || max < value then none else some (digits, cs.dropWhile (isDigitIn radix))

def char (c : Char) : List Char → Option (List Char)
  | d :: cs => if c = d then some cs else none
  | [] => none

/-- A number up to 255, with no zero in front. -/
def octet (cs : List Char) : Option (List Char) := do
  let (digits, rest) ← number 10 255 cs
  if digits.length ≤ 3 ∧ (digits.length = 1 ∨ digits.head? ≠ some '0') then some rest else none

def v4 (cs : List Char) : Option (List Char) := do
  octet (← char '.' (← octet (← char '.' (← octet (← char '.' (← octet cs))))))

/-- Up to four hexadecimal digits. -/
def group (cs : List Char) : Option (List Char) := do
  let (digits, rest) ← number 16 0xffff cs
  if digits.length ≤ 4 then some rest else none

/-- Up to `limit` groups with colons between them, the last two of which may be written as four numbers: how many there
are, whether they end with such numbers, and the rest. -/
def groups : Nat → Bool → List Char → Nat × Bool × List Char
  | 0, _, cs => (0, false, cs)
  | limit + 1, first, cs =>
    match (if first then some cs else char ':' cs) with
    | none => (0, false, cs)
    | some inner =>
      match (if 0 < limit then v4 inner else none) with
      | some rest => (2, true, rest)
      | none =>
        match group inner with
        | none => (0, false, cs)
        | some rest =>
          let (n, ended, rest) := groups limit false rest
          (n + 1, ended, rest)

/-- Eight groups, or fewer with two colons in place of the groups that are zero. -/
def v6 (cs : List Char) : Option (List Char) :=
  match groups 8 true cs with
  | (8, _, rest) => some rest
  | (_, true, _) => none
  | (n, false, rest) => do
    let rest ← char ':' (← char ':' rest)
    return (groups (7 - n) true rest).2.2

def scope (cs : List Char) : Option (List Char) :=
  match cs with
  | '%' :: rest => (number 10 0xffffffff rest).map (·.2)
  | _ => some cs

def port (cs : List Char) : Option (List Char) := do
  let (_, rest) ← number 10 0xffff (← char ':' cs)
  return rest

def bracketed (cs : List Char) : Option (List Char) := do
  char ']' (← scope (← v6 (← char '[' cs)))

def isValid (s : String) : Bool :=
  ((v4 s.toList <|> bracketed s.toList).bind port) == some []

end EventGateway.Address
