import Verdict.Number.Binary64

/-!
# Reading decimals

The decimal spelling of a floating-point number, and its value in a binary format.

## Main definitions

* `Verdict.Decimal` — a sign, a significand and a power of ten.
* `Verdict.Decimal.round` — the nearest number of a binary format.
* `Verdict.Binary64.parse?` — a decimal, an infinity or the not-a-number from its spelling.
-/

namespace Verdict

/-- Whether a character is an ASCII digit. -/
def isDigit (c : Char) : Bool := '0' ≤ c && c ≤ '9'

/-- The value of a list of ASCII digits read in base ten. -/
def digitsValue (cs : List Char) : Nat :=
  cs.foldl (fun n c => 10 * n + (c.toNat - '0'.toNat)) 0

/-- The number `± significand * 10 ^ exponent`. -/
structure Decimal where
  negative : Bool
  significand : Nat
  exponent : Int
  deriving Repr, DecidableEq

namespace Decimal

/-- The nearest number of a binary format. A magnitude of 400 or more decimal places on either side
of the point is past every format, and is settled without computing the power. -/
def round (format : BinaryFormat) (d : Decimal) : Binary64 :=
  let leading : Int := d.exponent + (Nat.toDigits 10 d.significand).length
  if d.significand = 0 ∨ leading < -400 then .finite d.negative 0 format.minExponent
  else if 400 < leading then .infinite d.negative
  else
    .roundTo format d.negative (d.significand * 10 ^ d.exponent.toNat) (10 ^ (-d.exponent).toNat)

end Decimal

/-- A sign in front of a text, and what follows it. -/
def splitSign : List Char → Bool × List Char
  | '-' :: rest => (true, rest)
  | '+' :: rest => (false, rest)
  | cs => (false, cs)

/-- An exponent part: `e` or `E`, an optional sign, and digits to the end of the text. The empty
text stands for the exponent zero. -/
def exponentPart? : List Char → Option Int
  | [] => some 0
  | mark :: rest =>
    let (negative, digits) := splitSign rest
    if (mark = 'e' ∨ mark = 'E') ∧ !digits.isEmpty ∧ digits.all isDigit then
      some (if negative then -(digitsValue digits : Int) else digitsValue digits)
    else none

/-- An unsigned decimal: digits with an optional point among or beside them, at least one digit,
and an optional exponent part. -/
def unsignedDecimal? (negative : Bool) (cs : List Char) : Option Decimal :=
  let whole := cs.takeWhile isDigit
  let afterWhole := cs.dropWhile isDigit
  let (fraction, rest) :=
    match afterWhole with
    | '.' :: more => (more.takeWhile isDigit, more.dropWhile isDigit)
    | _ => ([], afterWhole)
  if whole.isEmpty && fraction.isEmpty then none
  else
    (exponentPart? rest).map fun exponent =>
      ⟨negative, digitsValue (whole ++ fraction), exponent - fraction.length⟩

/-- A word in any mix of ASCII cases. -/
def matchesWord (cs : List Char) (word : String) : Bool :=
  cs.map Char.toLower == word.toList

/-- A number of a binary format from its decimal spelling, or from one of the words for the
infinities and for what is not a number. -/
def Binary64.parseAs? (format : BinaryFormat) (text : String) : Option Binary64 :=
  let (negative, body) := splitSign text.toList
  if matchesWord body "inf" || matchesWord body "infinity" then some (.infinite negative)
  else if matchesWord body "nan" then some .nan
  else (unsignedDecimal? negative body).map (·.round format)

/-- A double-precision number from its spelling. -/
def Binary64.parse? (text : String) : Option Binary64 :=
  (Binary64.parseAs? .double text)

/-- A single-precision number from its spelling, as the double of the same value. -/
def Binary64.parseSingle? (text : String) : Option Binary64 :=
  (Binary64.parseAs? .single text).map Binary64.widen

end Verdict
