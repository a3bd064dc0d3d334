import Verdict.Number.Decimal
import Verdict.Pattern.Compile
import Verdict.Text.Spacing

/-!
# Log filters

A filter is a list of directives, each of which sets a level for a target, for a span, or for both.
Here it only matters whether a text is a filter.

## Main definitions

* `Verdict.LogFilter.isLevel` — whether a text names a level.
* `Verdict.LogFilter.isDirective` — whether a text is a directive.
* `Verdict.LogFilter.isFilter` — whether a text is a list of directives.
-/

namespace Verdict.LogFilter

/-- The words for levels. -/
def levelWords : List String := ["off", "error", "warn", "info", "debug", "trace"]

/-- Whether a text names a level: by a word in any mix of cases, or by a number up to five. -/
def isLevel (cs : List Char) : Bool :=
  let digits := match cs with
    | '+' :: rest => rest
    | _ => cs
  cs.isEmpty || levelWords.any (fun word => matchesWord cs word) ||
    (!digits.isEmpty && digits.all isDigit && digitsValue digits ≤ 5)

/-- Whether a character is a letter or a number. -/
def isAlphanumeric (c : Char) : Bool :=
  c.isAlphanum || (0x80 ≤ c.toNat &&
    ((Pattern.property "alphabetic").contains c ||
      ["nd", "nl", "no"].any fun name => (Pattern.category name).contains c))

/-- Whether an assertion asks for word characters beyond ASCII. -/
def asksForLetters : Assertion → Bool
  | .wordBoundary word | .notWordBoundary word | .wordStart word | .wordEnd word
  | .wordStartHalf word | .wordEndHalf word => word != Pattern.asciiWord
  | .textStart | .textEnd | .lineStart | .lineEnd | .returnStart | .returnEnd => false

/-- Whether a text is a pattern for values of fields: one of any size, but with no assertion about
word characters beyond ASCII. -/
def isValuePattern (text : String) : Bool :=
  (Pattern.layout? text).any fun l => !l.asserts asksForLetters

/-- Whether a text names a field of a span, and a value for it that is a number or a pattern. -/
def isFieldMatch (cs : List Char) : Bool :=
  match cs.dropWhile (· != '=') with
  | [] => !cs.isEmpty
  | _ :: value =>
    let value := String.ofList (value.takeWhile (· != '='))
    (Binary64.parse? value).isSome || isValuePattern value

/-- Where in a directive a reader is; a position is where the current part starts. -/
inductive Position where
  | start
  | name
  | span
  | field (start : Nat)
  | fields
  | target
  | level (start : Nat)
  | complete
  deriving Repr, DecidableEq

/-- The characters of a text from one position up to another. -/
def slice (cs : List Char) (first last : Nat) : List Char := (cs.drop first).take (last - first)

/-- Read one character of a directive at a position. Parts are cut out of the whole text. -/
def step? (text : List Char) (i : Nat) (c : Char) : Position → Option Position
  | .start =>
    if c = '[' then some .span
    else if ['-', ':', '_'].contains c || isAlphanumeric c then some .name
    else none
  | .name =>
    if c = '=' then some (.level (i + 1))
    else if c = '[' then some .span
    else if c = ',' then some .complete
    else some .name
  | .span =>
    if c = ']' then some .target else if c = '{' then some (.field (i + 1)) else some .span
  | .field start =>
    if c = '}' ∨ c = ',' then
      if isFieldMatch (slice text start i) then
        some (if c = '}' then .fields else .field (i + 1))
      else none
    else some (.field start)
  | .fields => if c = ']' then some .target else none
  | .target => if c = '=' then some (.level (i + 1)) else none
  | .level start =>
    if c = ',' then if isLevel (slice text start i) then some .complete else none
    else some (.level start)
  | .complete => none

/-- Read the characters of a directive from a position on. -/
def scan? (text : List Char) : Nat → List Char → Position → Option Position
  | _, [], position => some position
  | i, c :: rest, position => (step? text i c position).bind (scan? text (i + 1) rest)

/-- Whether a directive may end at a position. -/
def isFinal (text : List Char) : Position → Bool
  | .name => true
  | .target => true
  | .complete => true
  | .level start => isLevel (text.drop start)
  | .start => false
  | .span => false
  | .field _ => false
  | .fields => false

/-- Whether a text is a directive. The blanks around it do not count as its characters, but they
still move the parts that are cut out of it. -/
def isDirective (text : List Char) : Bool :=
  (scan? text 0 (Text.trim text) .start).any (isFinal text)

/-- The parts of a text between commas, after the characters of the current part in reverse. -/
def partsFrom (current : List Char) : List Char → List (List Char)
  | [] => [current.reverse]
  | ',' :: rest => current.reverse :: partsFrom [] rest
  | c :: rest => partsFrom (c :: current) rest

/-- Whether a text is a list of directives between commas; empty parts do not count. -/
def isFilter (text : String) : Bool :=
  ((partsFrom [] text.toList).filter fun part => !part.isEmpty).all isDirective

end Verdict.LogFilter
