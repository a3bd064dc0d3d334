import Verdict.Json.Basic
import Verdict.Number.Decimal
import Verdict.Number.Literal

/-!
# Scalars of YAML

A scalar is a text, a style and perhaps a tag. What it stands for depends on all three and on who
asks: a text without quotes can be nothing, a truth value, a number, or itself.

## Main definitions

* `Verdict.Yaml.integer?` — the integer of a text.
* `Verdict.Yaml.real?` — the floating-point number of a text.
* `Verdict.Yaml.meaning?` — what a text without quotes stands for.
* `Verdict.Yaml.Scalar` — a scalar.
* `Verdict.Yaml.Scalar.value?` — what a scalar stands for when nobody asks for anything special.
-/

namespace Verdict.Yaml

/-- Whether a text is made of two or more digits of which the first is a zero; such a text is no
number. -/
def isPaddedDigits (cs : List Char) : Bool :=
  let body := match cs with
    | '-' :: rest => rest
    | '+' :: rest => rest
    | _ => cs
  match body with
  | '0' :: more => !more.isEmpty && more.all isDigit
  | _ => false

/-- The digits of a base as a number; there must be one. -/
def digitsIn? (base : Nat) (cs : List Char) : Option Nat :=
  if cs.isEmpty then none else Literal.positional? base cs

/-- An integer without its sign: in base sixteen, eight or two behind a mark, or in base ten. -/
def magnitude? (padded : Bool) (cs : List Char) : Option Nat :=
  let marked : Option Nat :=
    match cs with
    | '0' :: 'x' :: rest => digitsIn? 16 rest
    | '0' :: 'o' :: rest => digitsIn? 8 rest
    | '0' :: 'b' :: rest => digitsIn? 2 rest
    | _ => none
  marked <|> if padded then none else digitsIn? 10 cs

/-- The integer that a text spells. -/
def integer? (cs : List Char) : Option Int :=
  let padded := isPaddedDigits cs
  match cs with
  | '-' :: rest => (magnitude? padded rest).map fun n => -(n : Int)
  | '+' :: rest => (magnitude? padded rest).map Int.ofNat
  | _ => (magnitude? padded cs).map Int.ofNat

/-- The number that a text spells, which may be infinite or none. -/
def real? (cs : List Char) : Option Binary64 :=
  let unsigned := match cs with
    | '+' :: rest => rest
    | _ => cs
  let doubleSign := match cs with
    | '+' :: '+' :: _ | '+' :: '-' :: _ => true
    | _ => false
  let text := String.ofList unsigned
  if doubleSign then none
  else if [".inf", ".Inf", ".INF"].contains text then some (.infinite false)
  else if ["-.inf", "-.Inf", "-.INF"].contains (String.ofList cs) then some (.infinite true)
  else if [".nan", ".NaN", ".NAN"].contains (String.ofList cs) then some .nan
  else
    match Binary64.parse? text with
    | some (.finite negative mantissa exponent) => some (.finite negative mantissa exponent)
    | _ => none

/-- Whether a text is one of the words for nothing. -/
def isNullWord (s : String) : Bool := ["null", "Null", "NULL", "~"].contains s

/-- The truth value that a text spells. -/
def truth? (s : String) : Option Bool :=
  if ["true", "True", "TRUE"].contains s then some true
  else if ["false", "False", "FALSE"].contains s then some false
  else none

/-- What an integer becomes: it has to fit 64 bits, and one that would fit 128 bits is no number of
another kind either. The outer option is empty for an integer past those. -/
def bounded (n : Int) : Option (Option Json) :=
  if -(2 ^ 63) ≤ n ∧ n < 2 ^ 64 then some (some (.int n))
  else if -(2 ^ 127) ≤ n ∧ n < 2 ^ 128 then some none
  else none

/-- What a text without quotes stands for; none if it is an integer that no JSON value holds. -/
def meaning? (s : String) : Option Json :=
  let cs := s.toList
  if s.isEmpty || isNullWord s then some .null
  else
    match truth? s with
    | some b => some (.bool b)
    | none => ((integer? cs).bind bounded).getD (realOrText cs)
where
  /-- A floating-point number or the text itself, once it is no integer. -/
  realOrText (cs : List Char) : Option Json :=
    if isPaddedDigits cs then some (.str s)
    else
      match real? cs with
      | some x => some (.float x)
      | none => some (.str s)

/-! ### Scalars -/

/-- How a scalar is written. -/
inductive ScalarStyle where
  | plain
  | singleQuoted
  | doubleQuoted
  | literal
  | folded
  deriving Repr, DecidableEq

/-- A scalar. -/
structure Scalar where
  text : String
  style : ScalarStyle := .plain
  tag? : Option String := none
  deriving Repr, DecidableEq

namespace Scalar

/-- The scalar that stands where nothing is written. -/
def blank : Scalar := { text := "" }

/-- The tag of a kind of the language itself. -/
def coreTag (kind : String) : String := "tag:yaml.org,2002:" ++ kind

/-- Whether a scalar is written as nothing. -/
def isBlank (s : Scalar) : Bool := s.text.isEmpty && s.style == .plain

/-- Whether a tag is one of a document's own. -/
def isLocalTag (tag : String) : Bool := tag.toList.head? = some '!'

/-- What a scalar stands for. One with a tag of the language is what the tag says or nothing at all,
one with a tag of its own has no value, and any other one with a tag or quotes is a text. -/
def value? (s : Scalar) : Option Json :=
  match s.tag? with
  | none => if s.style = .plain then meaning? s.text else some (.str s.text)
  | some tag =>
    if tag = coreTag "bool" then (truth? s.text).map .bool
    else if tag = coreTag "int" then ((integer? s.text.toList).bind bounded).join
    else if tag = coreTag "float" then (real? s.text.toList).map .float
    else if tag = coreTag "null" then (if isNullWord s.text then some .null else none)
    else if isLocalTag tag then none
    else some (.str s.text)

/-- Whether a scalar leaves out what may be left out; none if its tag promises so and its text does
not keep the promise. -/
def isAbsent? (s : Scalar) : Option Bool :=
  if s.style != .plain then some false
  else
    match s.tag? with
    | none => some (s.text.isEmpty || isNullWord s.text)
    | some tag =>
      if tag = coreTag "null" then (if isNullWord s.text then some true else none) else some false

/-- Whether a scalar may be read as a kind of value: it has no quotes, or it is a literal text whose
tag says so. -/
def mayBe (s : Scalar) (kind : String) : Bool :=
  s.style == .plain || (s.style == .literal && s.tag? == some (coreTag kind))

/-- The truth value that a scalar gives where one is wanted. -/
def bool? (s : Scalar) : Option Bool := if s.mayBe "bool" then truth? s.text else none

/-- The number that a text gives where one of at most 64 bits without a minus sign is wanted. -/
def unsigned? (text : String) : Option Nat :=
  if text.toList.head? = some '-' then none
  else (integer? text.toList).bind fun n => if n < 2 ^ 64 then some n.toNat else none

/-- The number that a scalar gives where one without a minus sign is wanted. -/
def natural? (s : Scalar) : Option Nat := if s.mayBe "int" then unsigned? s.text else none

/-- The name that a scalar gives where one of several alternatives is wanted: its text, or a tag of
its own with nothing behind it. -/
def alternative? (s : Scalar) : Option String :=
  match s.tag? with
  | some tag =>
    if isLocalTag tag then
      if s.style == .plain && (s.text.isEmpty || isNullWord s.text) then
        some (String.ofList (tag.toList.drop 1))
      else none
    else some s.text
  | none => some s.text

end Scalar

end Verdict.Yaml
