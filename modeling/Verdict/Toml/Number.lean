import Verdict.Number.Decimal
import Verdict.Number.Literal
import Verdict.Text.CharSet

/-!
# Numbers of TOML

Integers with or without a base in front, and floating-point numbers. Underscores may stand between
digits.

## Main definitions

* `Verdict.Toml.integer?` — the integer of a text.
* `Verdict.Toml.real?` — the floating-point number of a text.
-/

namespace Verdict.Toml

/-- Digits of a base without the underscores between them; there must be a digit at both ends and
on both sides of each underscore. -/
def plainDigits? (base : Nat) (cs : List Char) : Option (List Char) :=
  let parts := Text.splitAtEvery '_' cs
  if parts.all fun part => !part.isEmpty && part.all fun c => (Literal.digitIn? base c).isSome then
    some parts.flatten
  else none

/-- Whether digits start with a zero that does not stand alone. -/
def hasLeadingZero : List Char → Bool
  | '0' :: _ :: _ => true
  | _ => false

/-- An integer of at most 64 bits. -/
def integer? (cs : List Char) : Option Int :=
  let signed := cs.head? == some '-' || cs.head? == some '+'
  let (negative, body) := splitSign cs
  let magnitude? : Option Nat :=
    match body with
    | '0' :: 'x' :: rest => if signed then none else
      (plainDigits? 16 rest).bind (Literal.positional? 16)
    | '0' :: 'o' :: rest => if signed then none else
      (plainDigits? 8 rest).bind (Literal.positional? 8)
    | '0' :: 'b' :: rest => if signed then none else
      (plainDigits? 2 rest).bind (Literal.positional? 2)
    | _ => ((plainDigits? 10 body).filter fun ds => !hasLeadingZero ds).bind
      (Literal.positional? 10)
  magnitude?.bind fun n =>
    if negative then (if n ≤ 2 ^ 63 then some (-(n : Int)) else none)
    else if n < 2 ^ 63 then some n
    else none

/-- A floating-point number: a whole part with a fraction or an exponent, or one of two words. One
that is too great is an error, but one that is too small counts as infinite. -/
def real? (cs : List Char) : Option Binary64 :=
  let (negative, body) := splitSign cs
  if body = ['i', 'n', 'f'] then some (.infinite negative)
  else if body = ['n', 'a', 'n'] then some .nan
  else
    let isMark (c : Char) : Bool := c == 'e' || c == 'E'
    let mantissa := body.takeWhile (!isMark ·)
    let exponent := (body.dropWhile (!isMark ·)).drop 1
    let hasExponent := body.any isMark
    let whole := mantissa.takeWhile (· != '.')
    let fraction := (mantissa.dropWhile (· != '.')).drop 1
    let hasFraction := mantissa.contains '.'
    let (down, digits) := splitSign exponent
    if !hasExponent && !hasFraction then none
    else
      (plainDigits? 10 whole).bind fun whole =>
      (if hasFraction then plainDigits? 10 fraction else some []).bind fun fraction =>
      (if hasExponent then plainDigits? 10 digits else some ['0']).bind fun digits =>
        if hasLeadingZero whole then none
        else
          let power : Int := digitsValue digits
          match (Decimal.mk negative (digitsValue (whole ++ fraction))
              ((if down then -power else power) - fraction.length)).round .double with
          | .infinite false => none
          | x => some x

end Verdict.Toml
