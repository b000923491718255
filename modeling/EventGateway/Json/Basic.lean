/-!
# JSON documents

A document as it stands in a text, numbers and texts taken apart as far as a reader needs it.  Where a text stops being
JSON the tree ends in `cut`: everything before the fault is there, so a reader that works through the tree in order
meets its own objections in the order of the text, and the fault last.
-/
namespace EventGateway

/-- How far a reader comes with a value that it wants to know. -/
inductive Json.Reach where
  /-- It understands the value. -/
  | full
  /-- It does not, but it has got past the value. -/
  | past
  /-- It does not, and it is left in the middle. -/
  | stuck
deriving DecidableEq, Repr

/-- An integer is a number without fraction and exponent that fits into 64 bits, with a sign or without; of other
numbers, and of texts that spell no characters, it is known only how far a reader comes with them.  The name of a member
is `none` if it spells no characters. -/
inductive Json where
  | null
  | bool (b : Bool)
  | integer (n : Int)
  | real (r : Json.Reach)
  | text (s : String)
  | garbled (r : Json.Reach)
  | array (items : List Json)
  | object (members : List (Option String × Json))
  | cut
deriving Repr, Inhabited

namespace Json

def str (s : String) : Json := .text s

def nat (n : Nat) : Json := .integer n

/-- An object with the given members. -/
def ofFields (fields : List (String × Json)) : Json := .object (fields.map (fun f => (some f.1, f.2)))

/-! ## No cut anywhere -/

mutual

def whole : Json → Bool
  | .cut => false
  | .array items => wholeItems items
  | .object members => wholeMembers members
  | _ => true

def wholeItems : List Json → Bool
  | [] => true
  | v :: rest => v.whole && wholeItems rest

def wholeMembers : List (Option String × Json) → Bool
  | [] => true
  | (_, v) :: rest => v.whole && wholeMembers rest

end

/-! ## What can be read in full

Reading a value in full, rather than passing over it, is subject to three more conditions: its texts spell characters,
its numbers are finite as doubles, and it is nested no deeper than `room` levels.  A reader that gets past the fault
leaves the arrays and objects around it as well, as far as nothing else stands in them. -/

mutual

def reach (room : Nat) : Json → Reach
  | .cut => .stuck
  | .real r => r
  | .garbled r => r
  | .array items => if room = 0 then .stuck else reachItems (room - 1) items
  | .object members => if room = 0 then .stuck else reachMembers (room - 1) members
  | _ => .full

def reachItems (room : Nat) : List Json → Reach
  | [] => .full
  | v :: rest =>
    match v.reach room with
    | .full => reachItems room rest
    | .past => if rest.isEmpty then .past else .stuck
    | .stuck => .stuck

def reachMembers (room : Nat) : List (Option String × Json) → Reach
  | [] => .full
  | (none, _) :: _ => .stuck
  | (some _, v) :: rest =>
    match v.reach room with
    | .full => reachMembers room rest
    | .past => if rest.isEmpty then .past else .stuck
    | .stuck => .stuck

end

def readable (room : Nat) (v : Json) : Bool := v.reach room == .full

end Json
end EventGateway
