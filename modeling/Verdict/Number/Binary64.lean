/-!
# Binary floating-point numbers

Numbers of the IEEE 754 binary64 format, kept as an exact sign, significand and exponent instead
of a machine word, so that order and rounding are statements about natural numbers.

## Main definitions

* `Verdict.Binary64` — a number of the format, an infinity or the not-a-number.
* `Verdict.Binary64.ofRatio` — the nearest number to a quotient of natural numbers, ties to even.
* `Verdict.Binary64.compare?` — the order of two numbers by the exact values they denote.

## Design

A finite number denotes `± mantissa * 2 ^ exponent`. Rounding always produces the canonical form:
the significand is below `2 ^ 53`, and it is at least `2 ^ 52` unless the exponent is the least one.
The two zeros differ in their sign only and compare equal. The narrower binary32 format is a
parameter of rounding alone: all its numbers are numbers of binary64 too.
-/

namespace Verdict

-- With algebra in scope there is a second instance for powers, of monoids, with the same values.
-- The one of the core library is preferred here, so that a power in a definition and one in a
-- statement about it are one and the same term. (Only the first of the attributes can be scoped.)
attribute [scoped instance (2000)] instPowNat
attribute [default_instance 20000] instPowNat

/-- The shape of a binary format: how many significant bits it keeps, and the least and greatest
power of two that can scale its integral significand. -/
structure BinaryFormat where
  precision : Nat
  minExponent : Int
  maxExponent : Int
  deriving Repr, DecidableEq

namespace BinaryFormat

/-- Double precision. -/
def double : BinaryFormat := ⟨53, -1074, 971⟩

/-- Single precision. -/
def single : BinaryFormat := ⟨24, -149, 104⟩

end BinaryFormat

/-- A binary floating-point number. -/
inductive Binary64 where
  /-- The result of an undefined operation; unordered with every number. -/
  | nan
  /-- An infinity of the given sign. -/
  | infinite (negative : Bool)
  /-- The number `± mantissa * 2 ^ exponent`. -/
  | finite (negative : Bool) (mantissa : Nat) (exponent : Int)
  deriving Repr, DecidableEq, Inhabited

/-- The quotient of two natural numbers rounded to the nearest integer, a half to the even one. -/
def roundDiv (num den : Nat) : Nat :=
  let quotient := num / den
  let twice := 2 * (num % den)
  if den < twice || (den == twice && quotient % 2 == 1) then quotient + 1 else quotient

/-- The quotient `num / den` scaled by `2 ^ (-exponent)`, as a pair of natural numbers. -/
def scaleDown (num den : Nat) (exponent : Int) : Nat × Nat :=
  (num * 2 ^ (-exponent).toNat, den * 2 ^ exponent.toNat)

/-- The exponent of the greatest power of two not above `num / den`, for positive operands. -/
def ratioLog2 (num den : Nat) : Int :=
  let guess : Int := (num.log2 : Int) - den.log2
  let (scaledNum, scaledDen) := scaleDown num den guess
  if scaledNum < scaledDen then guess - 1 else guess

namespace Binary64

/-- The number of a format that is nearest to `± num / den`; what rounds past the greatest one
becomes an infinity. -/
def roundTo (format : BinaryFormat) (negative : Bool) (num den : Nat) : Binary64 :=
  if num = 0 then .finite negative 0 format.minExponent
  else
    let exponent := max (ratioLog2 num den - (format.precision - 1 : Nat)) format.minExponent
    let (scaledNum, scaledDen) := scaleDown num den exponent
    let mantissa := roundDiv scaledNum scaledDen
    let carried := mantissa = 2 ^ format.precision
    let mantissa := if carried then mantissa / 2 else mantissa
    let exponent := if carried then exponent + 1 else exponent
    if format.maxExponent < exponent then .infinite negative
    else .finite negative mantissa exponent

/-- The double-precision number nearest to `± num / den`. -/
def ofRatio (negative : Bool) (num den : Nat) : Binary64 :=
  roundTo .double negative num den

/-- The double-precision number nearest to a natural number. -/
def ofNat (n : Nat) : Binary64 := ofRatio false n 1

/-- The canonical double-precision form of a number of any narrower format. -/
def widen : Binary64 → Binary64
  | .finite negative mantissa exponent =>
    ofRatio negative (mantissa * 2 ^ exponent.toNat) (2 ^ (-exponent).toNat)
  | x => x

/-- Whether a number is one of the two zeros. -/
def isZero : Binary64 → Bool
  | .finite _ mantissa _ => mantissa == 0
  | _ => false

/-- The exact values of two finite numbers, brought to a common scale. -/
def aligned (negative : Bool) (mantissa : Nat) (exponent least : Int) : Int :=
  let magnitude : Int := (mantissa * 2 ^ (exponent - least).toNat : Nat)
  if negative then -magnitude else magnitude

/-- The order of two numbers by their exact values; none when either is not a number. The two
zeros are equal. -/
def compare? : Binary64 → Binary64 → Option Ordering
  | .nan, _ => none
  | _, .nan => none
  | .infinite a, .infinite b =>
    some (if a = b then .eq else if a then .lt else .gt)
  | .infinite a, .finite _ _ _ => some (if a then .lt else .gt)
  | .finite _ _ _, .infinite b => some (if b then .gt else .lt)
  | .finite na ma ea, .finite nb mb eb =>
    let least := min ea eb
    some (compare (aligned na ma ea least) (aligned nb mb eb least))

/-- The same magnitude with the given sign; the not-a-number stays itself. -/
def withSign (negative : Bool) : Binary64 → Binary64
  | .nan => .nan
  | .infinite _ => .infinite negative
  | .finite _ mantissa exponent => .finite negative mantissa exponent

end Binary64

end Verdict
