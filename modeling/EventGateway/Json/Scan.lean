import EventGateway.Json.Number
/-!
# Scanning JSON

From characters to a document.  Strict JSON: white space is the blank, the tab, the line feed and the carriage return;
no number has a leading zero or a bare point; a control character in a text has to be escaped.  Every scanner answers
with what stands behind what it has read, or with nothing where the text stopped being JSON.
-/
namespace EventGateway.Json

open EventGateway.Text

/-- The characters of a source, with `none` where it is broken and spells no character. -/
abbrev Source := List (Option Char)

def isSpace (c : Option Char) : Bool := c == some ' ' || c == some '\t' || c == some '\n' || c == some '\r'

def skipSpace (cs : Source) : Source := cs.dropWhile isSpace

/-! ## Texts -/

def hexValue? (c : Char) : Option Nat :=
  if '0' ≤ c ∧ c ≤ '9' then some (c.toNat - 48)
  else if 'a' ≤ c ∧ c ≤ 'f' then some (c.toNat - 87)
  else if 'A' ≤ c ∧ c ≤ 'F' then some (c.toNat - 55)
  else none

/-- The UTF-16 unit that four hexadecimal digits spell. -/
def unit? (a b c d : Char) : Option Nat := do
  return (((← hexValue? a) * 16 + (← hexValue? b)) * 16 + (← hexValue? c)) * 16 + (← hexValue? d)

def isHighSurrogate (u : Nat) : Bool := 0xD800 ≤ u && u < 0xDC00

def isLowSurrogate (u : Nat) : Bool := 0xDC00 ≤ u && u < 0xE000

def pairOf (high low : Nat) : Char := Char.ofNat (0x10000 + (high - 0xD800) * 1024 + (low - 0xDC00))

/-- The character behind a backslash, but for `u`. -/
def escaped? : Char → Option Char
  | '"' => some '"'
  | '\\' => some '\\'
  | '/' => some '/'
  | 'b' => some '\x08'
  | 'f' => some '\x0c'
  | 'n' => some '\n'
  | 'r' => some '\r'
  | 't' => some '\t'
  | _ => none

/-- What a text spells so far: its characters, the last first, `none` among them where the source is broken; and a high
surrogate that waits for its partner.  There is nothing once a surrogate has been met without one. -/
abbrev Spelling := Option (List (Option Char) × Option Nat)

def Spelling.char (c : Option Char) : Spelling → Spelling
  | some (cs, none) => some (c :: cs, none)
  | _ => none

def Spelling.unit (u : Nat) : Spelling → Spelling
  | some (cs, none) =>
    if isHighSurrogate u then some (cs, some u)
    else if isLowSurrogate u then none
    else some (some (Char.ofNat u) :: cs, none)
  | some (cs, some high) => if isLowSurrogate u then some (some (pairOf high u) :: cs, none) else none
  | none => none

/-- What a text is at its closing quote.  A reader notices a broken source there, and it takes the quote for the partner
of a surrogate; where a surrogate has something else for a partner, the reader has not come to the quote. -/
def Spelling.done : Spelling → Json
  | some (cs, none) => (cs.reverse.mapM id).elim (.garbled .past) (.text <| String.ofList ·)
  | some (_, some _) => .garbled .past
  | none => .garbled .stuck

/-- The rest of a text behind its opening quote. -/
def textBody (seen : Spelling) : Source → Option (Json × Source)
  | [] => none
  | some '"' :: rest => some (seen.done, rest)
  | some '\\' :: some 'u' :: some a :: some b :: some c :: some d :: rest =>
    match unit? a b c d with
    | none => none
    | some u => textBody (seen.unit u) rest
  | some '\\' :: some c :: rest =>
    match escaped? c with
    | none => none
    | some c' => textBody (seen.char c') rest
  | some c :: rest => if c.toNat < 0x20 || c == '\\' then none else textBody (seen.char c) rest
  | none :: rest => textBody (seen.char none) rest

def quoted (cs : Source) : Option (Json × Source) := textBody (some ([], none)) cs

/-- The name of a member. -/
def asName : Json → Option String
  | .text s => some s
  | _ => none

/-! ## Numbers -/

def isDigit (c : Option Char) : Bool := c.any Decimal.isDigit

/-- At least one digit. -/
def digits (cs : Source) : Option (List Char × Source) :=
  if cs.head?.any isDigit then some ((cs.takeWhile isDigit).filterMap id, cs.dropWhile isDigit) else none

/-- Digits with no superfluous zero in front. -/
def wholePart (cs : Source) : Option (List Char × Source) :=
  match digits cs with
  | some ('0' :: _ :: _, _) => none
  | r => r

/-- The digits after a point, none if there is no point. -/
def fraction : Source → Option (List Char × Source)
  | some '.' :: rest => digits rest
  | cs => some ([], cs)

/-- The sign and the digits after an `e`, if there is one. -/
def exponent : Source → Option (Option (Bool × List Char) × Source)
  | some c :: rest =>
    if c == 'e' || c == 'E' then
      match rest with
      | some '-' :: rest => (digits rest).map (fun r => (some (true, r.1), r.2))
      | some '+' :: rest => (digits rest).map (fun r => (some (false, r.1), r.2))
      | rest => (digits rest).map (fun r => (some (false, r.1), r.2))
    else some (none, some c :: rest)
  | rest => some (none, rest)

def unsigned (negative : Bool) (cs : Source) : Option (Json × Source) := do
  let (whole, rest) ← wholePart cs
  let (fraction, rest) ← fraction rest
  let (exponent, rest) ← exponent rest
  return (Numeral.json ⟨negative, whole, fraction, exponent⟩, rest)

def number : Source → Option (Json × Source)
  | some '-' :: cs => unsigned true cs
  | cs => unsigned false cs

/-! ## Values -/

/-- The value and what stands behind it, or a cut. -/
def orCut : Option (Json × Source) → Json × Option Source
  | some (v, rest) => (v, some rest)
  | none => (.cut, none)

def word (spelling : List Char) (v : Json) (cs : Source) : Json × Option Source :=
  if (spelling.map some).isPrefixOf cs then (v, some (cs.drop spelling.length)) else (.cut, none)

mutual

/-- Scans one value; `fuel` bounds the number of steps and is never short where it is at least the length of the
text. -/
def value : Nat → Source → Json × Option Source
  | 0, _ => (.cut, none)
  | fuel + 1, cs =>
    match skipSpace cs with
    | [] => (.cut, none)
    | some '"' :: rest => orCut (quoted rest)
    | some '[' :: rest =>
      match skipSpace rest with
      | some ']' :: rest => (.array [], some rest)
      | rest =>
        let (vs, after) := items fuel rest
        (.array vs, after)
    | some '{' :: rest =>
      match skipSpace rest with
      | some '}' :: rest => (.object [], some rest)
      | rest =>
        let (ms, after) := members fuel rest
        (.object ms, after)
    | some 'n' :: rest => word ['u', 'l', 'l'] .null rest
    | some 't' :: rest => word ['r', 'u', 'e'] (.bool true) rest
    | some 'f' :: rest => word ['a', 'l', 's', 'e'] (.bool false) rest
    | rest => orCut (number rest)

/-- The values of an array, from one of them to the closing bracket. -/
def items : Nat → Source → List Json × Option Source
  | 0, _ => ([.cut], none)
  | fuel + 1, cs =>
    match value fuel cs with
    | (v, none) => ([v], none)
    | (v, some rest) =>
      match skipSpace rest with
      | some ']' :: rest => ([v], some rest)
      | some ',' :: rest =>
        let (vs, after) := items fuel rest
        (v :: vs, after)
      | _ => ([v, .cut], none)

/-- The members of an object, from one of them to the closing brace. -/
def members : Nat → Source → List (Option String × Json) × Option Source
  | 0, _ => ([(none, .cut)], none)
  | fuel + 1, cs =>
    match skipSpace cs with
    | some '"' :: rest =>
      match quoted rest with
      | none => ([(none, .cut)], none)
      | some (name, rest) =>
        let key := asName name
        match skipSpace rest with
        | some ':' :: rest =>
          match value fuel rest with
          | (v, none) => ([(key, v)], none)
          | (v, some rest) =>
            match skipSpace rest with
            | some '}' :: rest => ([(key, v)], some rest)
            | some ',' :: rest =>
              let (ms, after) := members fuel rest
              ((key, v) :: ms, after)
            | _ => ([(key, v), (none, .cut)], none)
        | _ => ([(key, .cut)], none)
    | _ => ([(none, .cut)], none)

end

/-- The document that a source starts with, and what stands behind it. -/
def scan (cs : Source) : Json × Option Source := value (cs.length + 1) cs

end EventGateway.Json
