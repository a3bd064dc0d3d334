import Verdict.Data.Node
import Verdict.Number.Decimal
import Verdict.Text.CharSet

/-!
# Reading JSON

Strict JSON: no comments, no trailing commas, nothing after the value. A number past the range of
floating point, half a surrogate pair, and a container inside 127 others are well-formed but have no
value.

## Main definitions

* `Verdict.Json.readNumber` — the value of a number.
* `Verdict.Json.parse?` — the tree of a JSON text.

## Design

Digits are collected as long as they fit 64 bits; the rest only moves the power of ten. The power is
applied by one multiplication or division in floating point, or by several for the smallest
numbers. So the result can differ in the last place from the nearest number.
-/

namespace Verdict

namespace Binary64

/-- The product of two finite numbers, rounded once. -/
def mul : Binary64 → Binary64 → Binary64
  | .finite na ma ea, .finite nb mb eb =>
    let e := ea + eb
    ofRatio (na != nb) (ma * mb * 2 ^ e.toNat) (2 ^ (-e).toNat)
  | _, _ => .nan

/-- The quotient of two finite numbers of which the second is not zero, rounded once. -/
def div : Binary64 → Binary64 → Binary64
  | .finite na ma ea, .finite nb mb eb =>
    let e := ea - eb
    ofRatio (na != nb) (ma * 2 ^ e.toNat) (mb * 2 ^ (-e).toNat)
  | _, _ => .nan

/-- A power of ten, rounded. -/
def powerOfTen (n : Nat) : Binary64 := ofNat (10 ^ n)

end Binary64

namespace Json

/-- White space between tokens. -/
def isSpace (c : Char) : Bool := c == ' ' || c == '\n' || c == '\t' || c == '\r'

/-- Drop white space. -/
def skipSpace (cs : List Char) : List Char := cs.dropWhile isSpace

/-! ### Numbers -/

/-- The greatest unsigned 64-bit number. -/
def maxSignificand : Nat := 2 ^ 64 - 1

/-- Extend a significand by digits as long as it fits 64 bits; the second result is the number of
digits taken. -/
def extend (significand : Nat) : List Char → Nat × Nat
  | [] => (significand, 0)
  | c :: rest =>
    let next := 10 * significand + (c.toNat - '0'.toNat)
    if maxSignificand < next then (significand, 0)
    else
      let (result, taken) := extend next rest
      (result, taken + 1)

/-- Scale a number by a power of ten; none if the result is past the greatest number. Powers below
`10 ^ (-308)` are applied in steps, of which three reach zero from any significand. -/
def scale? : Nat → Binary64 → Int → Option Binary64
  | 0, x, _ => some x
  | fuel + 1, x, exponent =>
    if 0 ≤ exponent then
      if 308 < exponent then (if x.isZero then some x else none)
      else
        match x.mul (.powerOfTen exponent.toNat) with
        | .infinite _ => none
        | product => some product
    else if -308 ≤ exponent then some (x.div (.powerOfTen (-exponent).toNat))
    else if x.isZero then some x
    else scale? fuel (x.div (.powerOfTen 308)) (exponent + 308)

/-- A number from its parts: sign, whole digits, and, where they are written, the digits of the
fraction and the sign and digits of the exponent. Without these a number that fits 64 bits is an
integer; but minus zero is not. -/
def readNumber (negative : Bool) (whole : List Char) (fraction : Option (List Char))
    (exponent : Option (Bool × List Char)) : Node :=
  let (significand, taken) := extend 0 whole
  let dropped := whole.length - taken
  let asFloat (significand : Nat) (power : Int) : Node :=
    match scale? 5 (.ofNat significand) power with
    | some x => .float (if negative then x.withSign true else x)
    | none => .unusable
  if dropped = 0 ∧ fraction.isNone ∧ exponent.isNone then
    if !negative then .int significand
    else if significand = 0 ∨ 2 ^ 63 < significand then asFloat significand 0
    else .int (-(significand : Int))
  else
    let (significand, places) := extend significand (fraction.getD [])
    let power : Int := dropped - places
    match exponent with
    | none => asFloat significand power
    | some (down, digits) =>
      let n : Int := digitsValue digits
      if 2 ^ 31 ≤ n then
        if significand != 0 && !down then .unusable else asFloat 0 0
      else asFloat significand (if down then power - n else power + n)

/-- Digits at the start of a text, of which there must be one. -/
def digits? (cs : List Char) : Option (List Char × List Char) :=
  match cs.takeWhile isDigit with
  | [] => none
  | ds => some (ds, cs.dropWhile isDigit)

/-- The exponent of a number, if there is one; a mark without digits is an error. -/
def exponent? (cs : List Char) : Option (Option (Bool × List Char) × List Char) :=
  match cs with
  | mark :: rest =>
    if mark = 'e' ∨ mark = 'E' then
      let (down, rest) := splitSign rest
      (digits? rest).map fun (ds, rest) => (some (down, ds), rest)
    else some (none, cs)
  | [] => some (none, [])

/-- A number at the start of a text, after its sign. -/
def number? (negative : Bool) (cs : List Char) : Option (Node × List Char) :=
  (digits? cs).bind fun (whole, rest) =>
    if whole.head? = some '0' ∧ 1 < whole.length then none
    else
      let fraction? : Option (Option (List Char) × List Char) :=
        match rest with
        | '.' :: more => (digits? more).map fun (ds, rest) => (some ds, rest)
        | _ => some (none, rest)
      fraction?.bind fun (fraction, rest) =>
        (exponent? rest).map fun (exponent, rest) =>
          (readNumber negative whole fraction exponent, rest)

/-! ### Strings -/

/-- Four hexadecimal digits at the start of a text. -/
def unit? : List Char → Option (Nat × List Char)
  | a :: b :: c :: d :: rest => (Text.hexValue? [a, b, c, d]).map fun n => (n, rest)
  | _ => none

/-- The character of an escape letter. -/
def escapeChar? : Char → Option Char
  | '"' => some '"'
  | '\\' => some '\\'
  | '/' => some '/'
  | 'b' => some '\x08'
  | 'f' => some '\x0c'
  | 'n' => some '\n'
  | 'r' => some '\r'
  | 't' => some '\t'
  | _ => none

/-- A string up to its closing quote; none inside stands for half a surrogate pair. The characters
are collected in reverse. -/
def string? : Nat → List Char → Bool → List Char → Option (Option String × List Char)
  | 0, _, _, _ => none
  | fuel + 1, taken, broken, cs =>
    match cs with
    | [] => none
    | '"' :: rest => some (if broken then none else some (String.ofList taken.reverse), rest)
    | '\\' :: 'u' :: rest =>
      (unit? rest).bind fun (unit, rest) =>
        if 0xD800 ≤ unit ∧ unit ≤ 0xDBFF then
          let low? : Option (Nat × List Char) :=
            match rest with
            | '\\' :: 'u' :: more =>
              (unit? more).bind fun (low, rest) =>
                if 0xDC00 ≤ low ∧ low ≤ 0xDFFF then some (low, rest) else none
            | _ => none
          match low? with
          | some (low, rest) =>
            let code := 0x10000 + (unit - 0xD800) * 0x400 + (low - 0xDC00)
            string? fuel (Char.ofNat code :: taken) broken rest
          | none => string? fuel taken true rest
        else if 0xDC00 ≤ unit ∧ unit ≤ 0xDFFF then string? fuel taken true rest
        else string? fuel (Char.ofNat unit :: taken) broken rest
    | '\\' :: c :: rest =>
      (escapeChar? c).bind fun c => string? fuel (c :: taken) broken rest
    | c :: rest => if c.toNat < 0x20 then none else string? fuel (c :: taken) broken rest

/-! ### Values -/

/-- The deepest nesting of containers that has a value. -/
def nestingLimit : Nat := 127

/-- The name of a member and the colon after it. -/
def memberName? (cs : List Char) : Option (Option String × List Char) :=
  match skipSpace cs with
  | '"' :: rest =>
    (string? (rest.length + 1) [] false rest).bind fun (name, rest) =>
      match skipSpace rest with
      | ':' :: rest => some (name, rest)
      | _ => none
  | _ => none

/-- A container at some depth: past the limit it has no value. -/
def nested (depth : Nat) (n : Node) : Node := if nestingLimit < depth then .unusable else n

mutual

/-- A value at the start of a text, inside `depth` containers. -/
def value? : Nat → Nat → List Char → Option (Node × List Char)
  | 0, _, _ => none
  | fuel + 1, depth, cs =>
    match skipSpace cs with
    | 'n' :: 'u' :: 'l' :: 'l' :: rest => some (.null, rest)
    | 't' :: 'r' :: 'u' :: 'e' :: rest => some (.bool true, rest)
    | 'f' :: 'a' :: 'l' :: 's' :: 'e' :: rest => some (.bool false, rest)
    | '-' :: rest => number? true rest
    | '"' :: rest =>
      (string? (rest.length + 1) [] false rest).map fun (s, rest) =>
        ((s.map Node.str).getD .unusable, rest)
    | '[' :: rest =>
      match skipSpace rest with
      | ']' :: rest => some (nested (depth + 1) (.list .json []), rest)
      | rest =>
        (items? fuel (depth + 1) [] rest).map fun (items, rest) =>
          (nested (depth + 1) (.list .json items), rest)
    | '{' :: rest =>
      match skipSpace rest with
      | '}' :: rest => some (nested (depth + 1) (.dict .json []), rest)
      | rest =>
        (members? fuel (depth + 1) true [] rest).map fun (members, rest) =>
          (nested (depth + 1) ((members.map (Node.dict .json)).getD .unusable), rest)
    | rest => number? false rest

/-- The items of an array up to its closing bracket, collected in reverse. -/
def items? : Nat → Nat → List Node → List Char → Option (List Node × List Char)
  | 0, _, _, _ => none
  | fuel + 1, depth, taken, cs =>
    (value? fuel depth cs).bind fun (item, rest) =>
      match skipSpace rest with
      | ',' :: rest => items? fuel depth (item :: taken) rest
      | ']' :: rest => some ((item :: taken).reverse, rest)
      | _ => none

/-- The members of an object up to its closing brace, collected in reverse; none if a name has no
value as a text. -/
def members? : Nat → Nat → Bool → List (Node × Node) → List Char →
    Option (Option (List (Node × Node)) × List Char)
  | 0, _, _, _, _ => none
  | fuel + 1, depth, named, taken, cs =>
    (memberName? cs).bind fun (name, rest) =>
      (value? fuel depth rest).bind fun (value, rest) =>
        let taken := (.str (name.getD ""), value) :: taken
        let named := named && name.isSome
        match skipSpace rest with
        | ',' :: rest => members? fuel depth named taken rest
        | '}' :: rest => some (if named then some taken.reverse else none, rest)
        | _ => none

end

/-- The tree of a JSON text. -/
def parse? (text : String) : Option Node :=
  let cs := text.toList
  (value? (cs.length + 1) 0 cs).bind fun (n, rest) =>
    if (skipSpace rest).isEmpty then some n else none

end Json

end Verdict
