/-!
# White space

The characters of the Unicode property White_Space, and the texts without them at their ends.
-/
namespace EventGateway.Text

/-- **White space is a property of the standard**: U+0085, the no-break space and the ideographic space have it, the
zero-width space, the byte order mark and the separators U+001C to U+001F do not. -/
def isBlank (c : Char) : Bool :=
  let n := c.toNat
  (9 ≤ n && n ≤ 13) || n == 0x20 || n == 0x85 || n == 0xA0 || n == 0x1680 || (0x2000 ≤ n && n ≤ 0x200A) ||
    n == 0x2028 || n == 0x2029 || n == 0x202F || n == 0x205F || n == 0x3000

def trimLeftChars (cs : List Char) : List Char := cs.dropWhile isBlank

def trimChars (cs : List Char) : List Char := (trimLeftChars (trimLeftChars cs).reverse).reverse

def trimLeft (s : String) : String := String.ofList (trimLeftChars s.toList)

def trim (s : String) : String := String.ofList (trimChars s.toList)

/-- A text of white space alone says nothing. -/
def isAllBlank (s : String) : Bool := s.toList.all isBlank

/-- The text before the first `c`, and the text after it, if `c` stands in `s`. -/
def cutAt (c : Char) (s : String) : Option (String × String) :=
  match s.toList.dropWhile (· != c) with
  | [] => none
  | _ :: after => some (String.ofList (s.toList.takeWhile (· != c)), String.ofList after)

/-- The pieces of a list between the elements that satisfy `p`; one more piece than there are such elements. -/
def splitChars (p : Char → Bool) : List Char → List (List Char)
  | [] => [[]]
  | c :: cs =>
    if p c then [] :: splitChars p cs
    else match splitChars p cs with
      | [] => [[c]]
      | piece :: rest => (c :: piece) :: rest

def splitOn (c : Char) (s : String) : List String := (splitChars (· == c) s.toList).map String.ofList

end EventGateway.Text
