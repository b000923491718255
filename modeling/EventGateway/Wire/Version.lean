import EventGateway.Text.Blank
import EventGateway.Wire.Fault
/-!
# Protocol versions

A version has a major number, which fixes the schema, and a revision, which counts compatible additions to it.
-/
namespace EventGateway.Wire

structure Version where
  major : UInt32
  revision : UInt32
deriving DecidableEq, Repr, Inhabited

namespace Version

def text (v : Version) : String := Text.ofNat v.major.toNat ++ "." ++ Text.ofNat v.revision.toNat

/-- The version with its parts named. -/
def label (v : Version) : String :=
  "ProtocolVersion \x7b major: " ++ Text.ofNat v.major.toNat ++ ", revision: " ++ Text.ofNat v.revision.toNat ++ " \x7d"

def le (a b : Version) : Bool := a.major < b.major || (a.major == b.major && a.revision ≤ b.revision)

/-- One `v` may stand in front of a version. -/
def withoutMark : List Char → List Char
  | 'v' :: cs => cs
  | 'V' :: cs => cs
  | cs => cs

def number? (cs : List Char) : Option UInt32 := (Text.Decimal.readUInt32 (String.ofList cs)).toOption

/-- `major[.revision[.patch]]`; the patch has to be a number and counts for nothing, and no revision means 0. -/
def parse? (s : String) : Option Version :=
  match Text.splitChars (· == '.') (withoutMark (Text.trimChars s.toList)) with
  | [major] => do return ⟨← number? major, 0⟩
  | [major, revision] => do return ⟨← number? major, ← number? revision⟩
  | [major, revision, patch] => do
    let v : Version := ⟨← number? major, ← number? revision⟩
    let _ ← number? patch
    return v
  | _ => none

def parse (s : String) : Except Fault Version := (parse? s).elim (.error (.invalidVersion s)) .ok

/-- Puts a version in its place in an ascending list, unless it is there. -/
def insert (v : Version) : List Version → List Version
  | [] => [v]
  | w :: rest => if v == w then w :: rest else if v.le w then v :: w :: rest else w :: insert v rest

end Version

/-- The versions that are spoken, in ascending order. -/
structure VersionSet where
  versions : List Version
  nonempty : versions ≠ []

namespace VersionSet

def ofList? (vs : List Version) : Option VersionSet :=
  let sorted := vs.foldr Version.insert []
  if h : sorted ≠ [] then some ⟨sorted, h⟩ else none

/-- The set that a list of texts spells; the first text that spells no version is refused, and so is an empty list. -/
def parse (texts : List String) : Except Fault VersionSet := do
  let vs ← texts.mapM Version.parse
  (ofList? vs).elim (.error (.invalidVersion "")) .ok

def latest (s : VersionSet) : Version := s.versions.getLast s.nonempty

/-- The greatest version that serves a request: of the major number asked for, and of at least the revision asked
for. -/
def best? (s : VersionSet) (wanted : Version) : Option Version :=
  s.versions.reverse.find? (fun v => v.major == wanted.major && wanted.revision ≤ v.revision)

/-- The version for a request; the latest if none is named. -/
def resolve (s : VersionSet) (asked : Option String) : Except Fault Version := do
  let raw := Text.trim (asked.getD "")
  if raw == "" then return s.latest
  let wanted ← Version.parse raw
  match s.best? wanted with
  | some v => return v
  | none => throw (.unsupportedVersion raw)

end VersionSet
end EventGateway.Wire
