import Verdict.Number.Literal
import Verdict.Pattern.Compile
import Verdict.Rule.Basic
import Verdict.Rule.Email
import Verdict.Value.Outline

/-!
# The built-in rules

Seven rules that every registry starts with unless it is asked not to. An absent value never
satisfies `required`. It satisfies all other rules, but for one parameter of `inList`, which goes by
the text of a value: that of an absent one is `<nil>`, and `inList=<nil>` rejects it.

## Main definitions

* `Verdict.Rule.required`, `Verdict.Rule.len`, `Verdict.Rule.min`, `Verdict.Rule.max`,
  `Verdict.Rule.email`, `Verdict.Rule.regexp`, `Verdict.Rule.inList` — what the rules say.
* `Verdict.Measure` — what the rules on size compare.
* `Verdict.Registry.builtins` — the registry that holds them.
-/

namespace Verdict

variable {ρ : Type}

/-- The bounds that the rules on size put on a measure. -/
inductive Bound where
  | exact
  | atLeast
  | atMost
  deriving Repr, DecidableEq

/-- Whether a bound holds for a measure that compares to it as given. What has no order, such as a
number beside something that is none, only violates the exact bound. -/
def Bound.holds : Bound → Option Ordering → Bool
  | .exact, some order => order == .eq
  | .atLeast, some order => order != .lt
  | .atMost, some order => order != .gt
  | .exact, none => false
  | .atLeast, none => true
  | .atMost, none => true

/-- What the rules on size measure of a value. -/
inductive Measure where
  /-- Nothing to measure, which is fine. -/
  | nothing
  /-- A count, or a signed number. -/
  | integer (n : Int)
  | natural (n : Nat)
  | real (x : Binary64)
  /-- A kind of value without a size. -/
  | none
  deriving Repr, DecidableEq

/-- The measure of a value: characters of a text, elements of a sequence, entries of a map, or a
number itself. -/
def Value.measure : Value ρ → Measure
  | .absent => .nothing
  | .str s => .integer s.length
  | .seq items => .integer items.length
  | .map entries => .integer entries.length
  | .int n => .integer n
  | .uint n => .natural n
  | .float x => .real x
  | .bool _ => .none
  | .record _ => .none

/-- The verdict on an order that could be read off a parameter. -/
def Bound.judge (bound : Bound) : Option (Option Ordering) → Outcome
  | some order => .ofBool (bound.holds order)
  | none => .badParameter

/-- Compare the measure of a value to a parameter, read as the same kind of number. -/
def Bound.check (bound : Bound) (v : Value ρ) (param : String) : Outcome :=
  match v.measure with
  | .nothing => .valid
  | .integer n => bound.judge ((Literal.integer? param.toList).map fun p => some (compare n p))
  | .natural n => bound.judge ((Literal.natural? param.toList).map fun p => some (compare n p))
  | .real x => bound.judge ((Binary64.parse? param).map fun p => x.compare? p)
  | .none => .unsupported

namespace Rule

/-- Satisfied by all but the empty value of each kind; records have no empty value. -/
def required (v : Value ρ) (_param : String) : Outcome :=
  .ofBool <|
    match v with
    | .absent => false
    | .bool b => b
    | .int n => n != 0
    | .uint n => n != 0
    | .float x => !x.isZero
    | .str s => !s.isEmpty
    | .seq items => !items.isEmpty
    | .map entries => !entries.isEmpty
    | .record _ => true

/-- Satisfied by a measure equal to the parameter. -/
def len (v : Value ρ) (param : String) : Outcome := Bound.exact.check v param

/-- Satisfied by a measure not below the parameter. -/
def min (v : Value ρ) (param : String) : Outcome := Bound.atLeast.check v param

/-- Satisfied by a measure not above the parameter. -/
def max (v : Value ρ) (param : String) : Outcome := Bound.atMost.check v param

/-- Satisfied by e-mail addresses; judges only texts. -/
def email (v : Value ρ) (_param : String) : Outcome :=
  match v with
  | .absent => .valid
  | .str s => .ofBool (isEmail s)
  | _ => .unsupported

/-- Satisfied by texts of which some part matches the pattern in the parameter. -/
def regexp (v : Value ρ) (param : String) : Outcome :=
  match v with
  | .absent => .valid
  | .str s =>
    match Pattern.compile? param with
    | some pattern => .ofBool (pattern.isMatch s)
    | none => .badParameter
  | _ => .unsupported

/-- What `inList` rejects when it has no parameter. -/
def unlistedWord : String := "Unknown"

/-- Satisfied by all values whose text differs from the parameter. -/
def inList [HasFields ρ] (v : Value ρ) (param : String) : Outcome :=
  .ofBool (v.text != if param.isEmpty then unlistedWord else param)

/-- The built-in rules by name. -/
def builtins [HasFields ρ] : List (String × Rule ρ) :=
  [("required", ⟨0, required⟩), ("len", ⟨1, len⟩), ("min", ⟨2, min⟩), ("max", ⟨3, max⟩),
    ("email", ⟨4, email⟩), ("regexp", ⟨5, regexp⟩), ("inList", ⟨6, inList⟩)]

end Rule

/-- The registry of the built-in rules. -/
def Registry.builtins [HasFields ρ] : Registry ρ := ⟨.ofList Rule.builtins⟩

end Verdict
