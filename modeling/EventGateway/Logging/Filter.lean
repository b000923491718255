import EventGateway.Journal
import EventGateway.Text.Blank
/-!
# Which notes are shown

A filter is a list of directives between commas.  A directive is a level, or the name of a part of the program with an
equals sign and a level behind it.  A name may be followed by a span of work and a field in brackets, as in
`name[span{field=value}]=level`: such a directive is about what happens in the span, or about notes with the field.
-/
namespace EventGateway

/-- What the brackets of a directive say: a span, and a field with the value that is asked for. -/
structure Condition where
  span : Option String
  field : Option (String × Option String)
deriving DecidableEq, Repr

/-- Notes of parts whose name begins with `target` are shown up to a rank: none at 0. -/
structure Directive where
  target : String
  condition : Option Condition
  rank : Nat
deriving DecidableEq, Repr

/-! ## Reading -/

namespace Directive

/-- A level by its name, in any case, or by its number. -/
def rank? (s : String) : Option Nat :=
  match Text.Decimal.readUInt32 s with
  | .ok n => if n ≤ 5 then some n.toNat else none
  | .error _ =>
    match s.toLower with
    | "off" => some 0
    | "error" => some 1
    | "warn" => some 2
    | "info" => some 3
    | "debug" => some 4
    | "trace" => some 5
    | _ => none

/-- Without a level, everything is shown. -/
def rankOr (s : String) : Option Nat := if s = "" then some Level.trace.rank else rank? s

/-- A directive begins with a name or a bracket. -/
def isStart (c : Char) : Bool :=
  c == '[' || c == '-' || c == ':' || c == '_' || c.isAlphanum || 128 ≤ c.toNat

/-- A field and the value behind its equals sign, up to the next one. -/
def fieldOf (s : String) : String × Option String :=
  match Text.splitOn '=' s with
  | name :: value :: _ => (name, some value)
  | _ => (s, none)

/-- The condition between brackets, and what follows the closing one. -/
def condition? (inside : List Char) : Option (Condition × List Char) :=
  let span := String.ofList (inside.takeWhile (fun c => c != ']' && c != '\x7b'))
  match inside.dropWhile (fun c => c != ']' && c != '\x7b') with
  | ']' :: rest => some (⟨some span, none⟩, rest)
  | _ :: rest =>
    let field := String.ofList (rest.takeWhile (· != '\x7d'))
    match rest.dropWhile (· != '\x7d') with
    | _ :: ']' :: rest =>
      if field = "" then none else some (⟨if span = "" then none else some span, some (fieldOf field)⟩, rest)
    | _ => none
  | [] => none

/-- **Blanks are part of a name.**  They make no directive of their own, and no level follows a name that begins with
one. -/
def parse? (s : String) : Option Directive :=
  let cs := s.toList
  let plain (c : Char) : Bool := c != '=' && c != '['
  let target := String.ofList (cs.takeWhile plain)
  let ranked (condition : Option Condition) (level : List Char) : Option Directive :=
    if cs.head?.any Text.isBlank then none else (rankOr (String.ofList level)).map (⟨target, condition, ·⟩)
  if !(Text.trimLeftChars cs).head?.any isStart then none
  else match cs.dropWhile plain with
    | [] => some ((rank? s).elim ⟨s, none, Level.trace.rank⟩ (⟨"", none, ·⟩))
    | '=' :: level => ranked none level
    | _ :: inside =>
      match condition? inside with
      | some (condition, '=' :: level) => ranked (some condition) level
      | some (condition, rest) =>
        if rest.all Text.isBlank then some ⟨target, some condition, Level.trace.rank⟩ else none
      | none => none

end Directive

/-- The directives of a filter.  The most exact of those that cover a note counts. -/
abbrev LogFilter := List Directive

namespace LogFilter

def upTo (l : Level) : LogFilter := [⟨"", none, l.rank⟩]

/-- A filter without directives shows nothing. -/
def parse? (s : String) : Option LogFilter := ((Text.splitOn ',' s).filter (· ≠ "")).mapM Directive.parse?

end LogFilter

/-! ## Choosing -/

/-- What a filter sees of a note: the part of the program it comes from, and the names of its fields.  The beginning
and the end of a span count as having every field. -/
structure Origin where
  target : String
  fields : Option (List String)
deriving DecidableEq, Repr

namespace Directive

/-- The fields a note has to have, or nothing if it is not enough to have fields. -/
def required? (d : Directive) : Option (List String) :=
  match d.condition with
  | none => some []
  | some ⟨none, some (field, none)⟩ => some [field]
  | some _ => none

def covers (o : Origin) (d : Directive) : Bool :=
  d.target.toList.isPrefixOf o.target.toList &&
    d.required?.any (fun fields => o.fields.all (fun present => fields.all present.contains))

/-- A longer name is more exact, and of two that are equally long one with a field. -/
def exactness (d : Directive) : Nat × Nat × String :=
  let fields := d.required?.getD []
  (d.target.utf8ByteSize, fields.length, "".intercalate fields)

/-- Between two fields the order of their names decides. -/
def isLessExact (a b : Directive) : Bool :=
  let (m, i, s) := a.exactness
  let (n, j, t) := b.exactness
  m < n || (m == n && (i < j || (i == j && s < t)))

end Directive

namespace LogFilter

/-- Of two directives about the same the later one counts. -/
def best? (o : Origin) (f : LogFilter) : Option Directive :=
  (f.filter (·.covers o)).foldl (fun best d => if best.any d.isLessExact then best else some d) none

def shows (o : Origin) (level : Level) (f : LogFilter) : Bool := (f.best? o).any (fun d => level.rank ≤ d.rank)

end LogFilter
end EventGateway
