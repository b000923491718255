import EventGateway.Json.Basic
import EventGateway.Text.Decimal
/-!
# Writing JSON

The compact form: no white space, members in the order they are given.  In a text the quote, the backslash and the
control characters below U+0020 are escaped, five of them by a letter; every other character stands for itself.  What is
known of a value only by how far a reader comes with it has no written form.
-/
namespace EventGateway.Json

open EventGateway.Text

def hexDigit (n : Nat) : Char := Char.ofNat (if n < 10 then 48 + n else 87 + n)

def escape (c : Char) : List Char :=
  if c == '"' then ['\\', '"']
  else if c == '\\' then ['\\', '\\']
  else if c == '\x08' then ['\\', 'b']
  else if c == '\x0c' then ['\\', 'f']
  else if c == '\n' then ['\\', 'n']
  else if c == '\r' then ['\\', 'r']
  else if c == '\t' then ['\\', 't']
  else if c.toNat < 0x20 then ['\\', 'u', '0', '0', hexDigit (c.toNat / 16), hexDigit (c.toNat % 16)]
  else [c]

def quote (s : String) : List Char := '"' :: s.toList.flatMap escape ++ ['"']

mutual

def chars : Json → List Char
  | .null => ['n', 'u', 'l', 'l']
  | .bool true => ['t', 'r', 'u', 'e']
  | .bool false => ['f', 'a', 'l', 's', 'e']
  | .integer n => Decimal.writeInt n
  | .text s => quote s
  | .array items => '[' :: charsOfItems items ++ [']']
  | .object members => '{' :: charsOfMembers members ++ ['}']
  | .real _ | .garbled _ | .cut => []

def charsOfItems : List Json → List Char
  | [] => []
  | [v] => v.chars
  | v :: rest => v.chars ++ ',' :: charsOfItems rest

def charsOfMembers : List (Option String × Json) → List Char
  | [] => []
  | [(key, v)] => quote (key.getD "") ++ ':' :: v.chars
  | (key, v) :: rest => quote (key.getD "") ++ ':' :: v.chars ++ ',' :: charsOfMembers rest

end

def render (v : Json) : String := String.ofList v.chars

end EventGateway.Json
