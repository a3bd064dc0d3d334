import Verdict.Number.Decimal

/-!
# Integer literals

Rule parameters spell integers in decimal or with a base in front: `0x`, `0o`, `0b` in either case,
or a bare leading zero for octal. Underscores may separate digits, but only beside a base.

## Main definitions

* `Verdict.Literal.natural?` — an unsigned literal of at most 64 bits.
* `Verdict.Literal.integer?` — an optionally signed literal of at most 64 bits.
-/

namespace Verdict.Literal

/-- One more than the greatest unsigned 64-bit number. -/
def naturalLimit : Nat := 2 ^ 64

/-- The magnitude of the least signed 64-bit number. -/
def integerLimit : Nat := 2 ^ 63

/-- The value of a character as a digit of a base, letters of either case standing for ten on. -/
def digitIn? (base : Nat) (c : Char) : Option Nat :=
  let value? :=
    if '0' ≤ c ∧ c ≤ '9' then some (c.toNat - '0'.toNat)
    else if 'a' ≤ c ∧ c ≤ 'z' then some (c.toNat - 'a'.toNat + 10)
    else if 'A' ≤ c ∧ c ≤ 'Z' then some (c.toNat - 'A'.toNat + 10)
    else none
  value?.filter (· < base)

/-- The value of a text all of whose characters are digits of a base; the empty text counts as
zero. -/
def positional? (base : Nat) (cs : List Char) : Option Nat :=
  cs.foldlM (fun n c => (digitIn? base c).map (base * n + ·)) 0

/-- Separate a literal into its base and the digits in that base. -/
def splitBase : List Char → Nat × List Char
  | '0' :: mark :: rest =>
    match mark with
    | 'x' | 'X' => (16, rest)
    | 'o' | 'O' => (8, rest)
    | 'b' | 'B' => (2, rest)
    | _ => (8, mark :: rest)
  | cs => (10, cs)

/-- An unsigned literal: at least one digit once the underscores beside a base are gone, and a
value of at most 64 bits. -/
def natural? (cs : List Char) : Option Nat :=
  let (base, body) := splitBase cs
  let digits := if base = 10 then body else body.filter (· != '_')
  if digits.isEmpty then none else (positional? base digits).filter (· < naturalLimit)

/-- A literal with at most one sign in front, in the range of signed 64-bit numbers. -/
def integer? : List Char → Option Int
  | '-' :: rest => ((natural? rest).filter (· ≤ integerLimit)).map fun n => -(n : Int)
  | '+' :: rest => ((natural? rest).filter (· < integerLimit)).map Int.ofNat
  | cs => ((natural? cs).filter (· < integerLimit)).map Int.ofNat

end Verdict.Literal
