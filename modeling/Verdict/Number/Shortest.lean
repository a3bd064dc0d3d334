import Verdict.Number.Binary64

/-!
# The shortest decimal text of a number

Of all decimals that read back as a given number, the written one has the fewest digits, and of
those it is the nearest. Between two that are equally near, messages take the larger one, and
documents the one whose last digit is even.

## Main definitions

* `Verdict.shortestDigits` — the digits and the power of ten of a positive number.
* `Verdict.Binary64.text` — positional notation always, as messages show numbers.
* `Verdict.Binary64.diagnosticText` — a fraction part always, exponents for the very large and
  small.
* `Verdict.Binary64.jsonText`, `Verdict.Binary64.yamlText` — the forms of documents.

## Design

The reals that round to `mantissa * 2 ^ exponent` form an interval whose ends belong to it exactly
when the significand is even. If a decimal grid has a point in the interval, one of the two
neighbours of the number on that grid is such a point, so two tests for each digit count are enough.
-/

namespace Verdict

/-- The decimal digits of a natural number. -/
def decimalDigits (n : Nat) : List Char := Nat.toDigits 10 n

/-- A finite number as a quotient, with the ends of the interval of reals that round to it over
the same denominator. -/
structure RoundingInterval where
  low : Nat
  value : Nat
  high : Nat
  den : Nat
  inclusive : Bool

/-- The interval of reals that round to `mantissa * 2 ^ exponent`. Below a power of two the grid is
twice as fine, so there the lower end is nearer. -/
def RoundingInterval.of (mantissa : Nat) (exponent : Int) : RoundingInterval :=
  let scale := 2 ^ exponent.toNat
  let below := if mantissa = 2 ^ 52 ∧ BinaryFormat.double.minExponent < exponent then 1 else 2
  ⟨(4 * mantissa - below) * scale, 4 * mantissa * scale, (4 * mantissa + 2) * scale,
    4 * 2 ^ (-exponent).toNat, mantissa % 2 == 0⟩

/-- Whether `n * unitNum / unitDen` lies in the interval. -/
def RoundingInterval.contains (r : RoundingInterval) (n unitNum unitDen : Nat) : Bool :=
  let point := n * unitNum * r.den
  let low := r.low * unitDen
  let high := r.high * unitDen
  if r.inclusive then low ≤ point && point ≤ high else low < point && point < high

/-- Which of two decimals that are equally near is written. -/
inductive TieRule where
  | larger
  | even
  deriving Repr, DecidableEq

/-- The multiple of `10 ^ power` nearest to the value, if one of the value's two neighbours on
that grid lies in the interval. -/
def RoundingInterval.onGrid? (r : RoundingInterval) (tie : TieRule) (power : Int) : Option Nat :=
  let unitNum := 10 ^ power.toNat
  let unitDen := 10 ^ (-power).toNat
  let floor := r.value * unitDen / (r.den * unitNum)
  let twice := 2 * (r.value * unitDen % (r.den * unitNum))
  let downFits := r.contains floor unitNum unitDen
  let upFits := r.contains (floor + 1) unitNum unitDen
  let goesDown := twice < r.den * unitNum ∨
    (twice = r.den * unitNum ∧ tie = .even ∧ floor % 2 = 0)
  if downFits && upFits then some (if goesDown then floor else floor + 1)
  else if downFits then some floor
  else if upFits then some (floor + 1)
  else none

/-- The power of ten of the leading digit of a positive quotient, searched upward from a lower
bound that is at most `fuel` too small. -/
def leadingPower (num den : Nat) : Nat → Int → Int
  | 0, power => power
  | fuel + 1, power =>
    if num * 10 ^ (-(power + 1)).toNat < den * 10 ^ (power + 1).toNat then power
    else leadingPower num den fuel (power + 1)

/-- The first grid with a hit, from coarse to fine. -/
def RoundingInterval.search (r : RoundingInterval) (tie : TieRule) : Nat → Int → Nat × Int
  | 0, power => (r.value / r.den, power)
  | fuel + 1, power =>
    match r.onGrid? tie power with
    | some n => (n, power)
    | none => r.search tie fuel (power - 1)

/-- Drop trailing zeros of a significand, raising the power of ten. -/
def dropZeros : Nat → Nat × Int → Nat × Int
  | 0, d => d
  | fuel + 1, (n, power) =>
    if n != 0 && n % 10 == 0 then dropZeros fuel (n / 10, power + 1) else (n, power)

/-- The significand and power of ten of the shortest decimal of `mantissa * 2 ^ exponent`. -/
def shortestDigits (tie : TieRule) (mantissa : Nat) (exponent : Int) : Nat × Int :=
  if mantissa = 0 then (0, 0)
  else
    let r := RoundingInterval.of mantissa exponent
    -- The binary logarithm times 0.30103 is the decimal one; two less is a safe start.
    let guess := (exponent + mantissa.log2) * 30103 / 100000 - 2
    let power := leadingPower r.value r.den 6 guess
    dropZeros 20 (r.search tie 18 power)

/-- Digits and a power of ten written without an exponent. -/
def positional (digits : List Char) (power : Int) : List Char :=
  if 0 ≤ power then digits ++ List.replicate power.toNat '0'
  else
    let places := (-power).toNat
    if places < digits.length then
      digits.take (digits.length - places) ++ '.' :: digits.drop (digits.length - places)
    else '0' :: '.' :: List.replicate (places - digits.length) '0' ++ digits

/-- Digits and a power of ten written with one digit before the point and an exponent, which may
show its sign also when it is positive. -/
def scientific (plusSign : Bool) (digits : List Char) (power : Int) : List Char :=
  let exponent : Int := power + digits.length - 1
  let fraction := digits.drop 1
  digits.take 1 ++ (if fraction.isEmpty then [] else '.' :: fraction) ++
    'e' :: (if plusSign ∧ 0 ≤ exponent then ['+'] else []) ++ (toString exponent).toList

/-- How a number is spelled: which digits it has if there is a choice, where positional notation
ends on both sides, whether an integral value keeps a fraction part, whether a positive exponent
shows its sign, and the words for what is no finite number. -/
structure NumberStyle where
  tie : TieRule
  /-- Positional below `10 ^ upper`; always, if none. -/
  upper : Option Int
  /-- Positional from `10 ^ lower` on; always, if none. -/
  lower : Option Int
  fractionAlways : Bool
  plusSign : Bool
  infinityWord : String
  nanWord : String

namespace NumberStyle

/-- Messages show every digit and never an exponent. -/
def message : NumberStyle := ⟨.larger, none, none, false, false, "inf", "NaN"⟩

/-- Diagnostic listings write `1.0`, and exponents from `10 ^ 16` on and below `10 ^ (-4)`. -/
def diagnostic : NumberStyle := ⟨.larger, some 16, some (-4), true, false, "inf", "NaN"⟩

/-- JSON documents write `1.0`, and exponents from `10 ^ 16` on and below `10 ^ (-5)`, those with a
plus sign. -/
def json : NumberStyle := ⟨.even, some 16, some (-5), true, true, "null", "null"⟩

/-- YAML documents write what JSON documents do, but no plus signs. -/
def yaml : NumberStyle := ⟨.even, some 16, some (-5), true, false, ".inf", ".nan"⟩

end NumberStyle

namespace Binary64

/-- The text of a number in a style. -/
def format (style : NumberStyle) : Binary64 → String
  | .nan => style.nanWord
  | .infinite negative => (if negative then "-" else "") ++ style.infinityWord
  | .finite negative mantissa exponent =>
    let (n, power) := shortestDigits style.tie mantissa exponent
    let digits := decimalDigits n
    let leading : Int := power + digits.length - 1
    let inRange := n = 0 ∨
      ((style.upper.all fun upper => leading < upper) ∧
        (style.lower.all fun lower => lower ≤ leading))
    let body :=
      if inRange then
        positional digits power ++ (if style.fractionAlways ∧ 0 ≤ power then ['.', '0'] else [])
      else scientific style.plusSign digits power
    (if negative then "-" else "") ++ String.ofList body

/-- The text of a number in a message. -/
def text (x : Binary64) : String := x.format .message

/-- The text of a number in a diagnostic listing. -/
def diagnosticText (x : Binary64) : String := x.format .diagnostic

/-- The text of a number in a JSON document. -/
def jsonText (x : Binary64) : String := x.format .json

/-- The text of a number in a YAML document. -/
def yamlText (x : Binary64) : String := x.format .yaml

end Binary64

end Verdict
