import Verdict.Value.Basic

/-!
# Rules and registries

A rule judges a value under a parameter. A registry gives rules their names; the rules of a rule
string are found in it by name.

## Main definitions

* `Verdict.Outcome` — what a rule says of a value.
* `Verdict.Rule` — a rule.
* `Verdict.Registry` — the rules by name.
-/

namespace Verdict

/-- What a rule says of a value. -/
inductive Outcome where
  | valid
  /-- The condition of the rule is not met. -/
  | failed
  /-- The rule cannot judge this kind of value. -/
  | unsupported
  /-- The parameter cannot be read for this kind of value. -/
  | badParameter
  deriving Repr, DecidableEq, Inhabited

/-- Valid or failed, by a condition. -/
def Outcome.ofBool (holds : Bool) : Outcome := if holds then .valid else .failed

/-- A rule over a type of records. Functions cannot be compared, so a rule carries a number: two
rules are one and the same when their numbers agree. -/
structure Rule (ρ : Type) where
  identity : Nat
  check : Value ρ → String → Outcome

/-- Why a change of a registry is refused. -/
inductive RegistryError where
  | emptyName
  deriving Repr, DecidableEq

/-- The wording of a refusal. -/
def RegistryError.message : RegistryError → String
  | .emptyName => "rule name cannot be empty"

/-- The rules by name, in ascending order of the names. -/
structure Registry (ρ : Type) where
  rules : Table (Rule ρ)

namespace Registry

variable {ρ : Type}

/-- The registry without rules. -/
def empty : Registry ρ := ⟨[]⟩

/-- The rule of a name. -/
def get? (r : Registry ρ) (name : String) : Option (Rule ρ) := r.rules.get? name

/-- Whether a name has a rule. -/
def contains (r : Registry ρ) (name : String) : Bool := r.rules.has name

/-- The names in ascending order. -/
def names (r : Registry ρ) : List String := r.rules.keys

/-- The number of rules. -/
def size (r : Registry ρ) : Nat := r.rules.length

/-- Whether there are no rules. -/
def isEmpty (r : Registry ρ) : Bool := r.rules.isEmpty

/-- Give a name a rule, or take its rule away. The empty name is refused. -/
def set (r : Registry ρ) (name : String) (rule? : Option (Rule ρ)) :
    Except RegistryError (Registry ρ) :=
  if name.isEmpty then .error .emptyName
  else
    match rule? with
    | some rule => .ok ⟨r.rules.insert name rule⟩
    | none => .ok ⟨r.rules.erase name⟩

/-- Give a name a rule. -/
def register (r : Registry ρ) (name : String) (rule : Rule ρ) : Except RegistryError (Registry ρ) :=
  r.set name (some rule)

/-- Take the rule of a name away. -/
def remove (r : Registry ρ) (name : String) : Except RegistryError (Registry ρ) :=
  r.set name none

end Registry

end Verdict
