/-!
# Sets of characters

A set of characters as a sorted list of disjoint ranges of code points, with the Boolean
operations.

## Main definitions

* `Verdict.Text.CharSet` — a set of characters.
* `Verdict.Text.CharSet.ofRows` — the reader of a table of hexadecimal ranges.
* `Verdict.Text.NamedSet` — a set that a standard gives one or more names.
-/

namespace Verdict.Text

/-- The greatest code point. -/
def lastCode : Nat := 0x10FFFF

/-- A set of characters: inclusive ranges of code points in ascending order. -/
structure CharSet where
  ranges : List (Nat × Nat)
  deriving Repr, DecidableEq, Inhabited

namespace CharSet

/-- The set without members. -/
def empty : CharSet := ⟨[]⟩

/-- A range without the surrogates in it, which are no characters. -/
def withoutSurrogates (range : Nat × Nat) : List (Nat × Nat) :=
  [(range.1, min range.2 0xD7FF), (max range.1 0xE000, range.2)].filter fun part =>
    part.1 ≤ part.2

/-- The set of all characters. -/
def all : CharSet := ⟨withoutSurrogates (0, lastCode)⟩

/-- Whether a code point is a member. -/
def containsCode (s : CharSet) (code : Nat) : Bool :=
  s.ranges.any fun range => range.1 ≤ code && code ≤ range.2

/-- Whether a character is a member. -/
def contains (s : CharSet) (c : Char) : Bool := s.containsCode c.toNat

/-- Whether the set has no members. -/
def isEmpty (s : CharSet) : Bool := s.ranges.isEmpty

/-- A range and those after it, joined where they touch or overlap; they are sorted by first code
point. -/
def joinFrom (current : Nat × Nat) : List (Nat × Nat) → List (Nat × Nat)
  | [] => [current]
  | next :: rest =>
    if next.1 ≤ current.2 + 1 then joinFrom (current.1, max current.2 next.2) rest
    else current :: joinFrom next rest

/-- Join ranges that touch or overlap, in a list sorted by first code point. -/
def joinRanges : List (Nat × Nat) → List (Nat × Nat)
  | [] => []
  | range :: rest => joinFrom range rest

/-- The set of the code points in any of the ranges. -/
def ofRanges (ranges : List (Nat × Nat)) : CharSet :=
  ⟨joinRanges (ranges.mergeSort fun a b => a.1 < b.1 || (a.1 == b.1 && b.2 ≤ a.2))⟩

/-- The set of one character. -/
def singleton (c : Char) : CharSet := ⟨[(c.toNat, c.toNat)]⟩

/-- The set of the characters from one to another, both included. -/
def range (first last : Char) : CharSet := ⟨[(first.toNat, last.toNat)]⟩

/-- The members of either set. -/
def union (a b : CharSet) : CharSet := ofRanges (a.ranges ++ b.ranges)

/-- The members of any of the sets. -/
def unionAll (sets : List CharSet) : CharSet := ofRanges (sets.flatMap ranges)

/-- The gaps before, between and after sorted ranges, from a given code point on. -/
def gaps (start : Nat) : List (Nat × Nat) → List (Nat × Nat)
  | [] => if start ≤ lastCode then [(start, lastCode)] else []
  | (first, last) :: rest =>
    if start < first then (start, first - 1) :: gaps (last + 1) rest else gaps (last + 1) rest

/-- The characters that are no members. -/
def complement (s : CharSet) : CharSet := ⟨(gaps 0 s.ranges).flatMap withoutSurrogates⟩

/-- The members of both sets. -/
def inter (a b : CharSet) : CharSet := (a.complement.union b.complement).complement

/-- The members of the first set that the second lacks. -/
def diff (a b : CharSet) : CharSet := a.inter b.complement

/-- The members of exactly one of two sets. -/
def symmDiff (a b : CharSet) : CharSet := (a.diff b).union (b.diff a)

end CharSet

/-- The value of one hexadecimal digit. -/
def hexDigit? (c : Char) : Option Nat :=
  if '0' ≤ c ∧ c ≤ '9' then some (c.toNat - '0'.toNat)
  else if 'a' ≤ c ∧ c ≤ 'f' then some (c.toNat - 'a'.toNat + 10)
  else if 'A' ≤ c ∧ c ≤ 'F' then some (c.toNat - 'A'.toNat + 10)
  else none

/-- The value of a non-empty list of hexadecimal digits. -/
def hexValue? (cs : List Char) : Option Nat :=
  if cs.isEmpty then none
  else cs.foldlM (fun n c => (hexDigit? c).map (16 * n + ·)) 0

/-- Split a list at every occurrence of a separator. -/
def splitAtEvery (separator : Char) : List Char → List (List Char)
  | [] => [[]]
  | c :: rest =>
    match splitAtEvery separator rest with
    | part :: parts => if c = separator then [] :: part :: parts else (c :: part) :: parts
    | [] => [[c]]

/-- The set that the rows of a table describe: hexadecimal code points and ranges `first-last` in
ascending order, separated by blanks. -/
def CharSet.ofRows (rows : List String) : CharSet :=
  ⟨(rows.flatMap fun row => splitAtEvery ' ' row.toList).filterMap fun item =>
    match splitAtEvery '-' item with
    | [only] => (hexValue? only).map fun code => (code, code)
    | [first, last] => (hexValue? first).bind fun a => (hexValue? last).map fun b => (a, b)
    | _ => none⟩

/-- A set of characters under the names a standard gives it, in lower case and without
separators. -/
structure NamedSet where
  names : List String
  rows : List String

namespace NamedSet

/-- The members of a named set. -/
def members (s : NamedSet) : CharSet := .ofRows s.rows

/-- The set of a name in a list of named sets. -/
def find? (sets : List NamedSet) (name : String) : Option CharSet :=
  (sets.find? fun s => s.names.contains name).map members

end NamedSet

end Verdict.Text
