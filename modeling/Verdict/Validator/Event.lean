import Verdict.Errors.Basic

/-!
# Events of a validation

What a validation does beside collecting errors, in order: the rules it runs, the localized messages
it asks for, and the notices it leaves for whoever watches.

## Main definitions

* `Verdict.Notice` — a notice, with its level, its wording and its details.
* `Verdict.Event` — an event.
-/

namespace Verdict

/-- How important a notice is. -/
inductive Level where
  | debug
  | warn
  deriving Repr, DecidableEq

/-- The word for a level. -/
def Level.name : Level → String
  | .debug => "DEBUG"
  | .warn => "WARN"

/-- A notice of a validation. -/
inductive Notice where
  | localized (module lang : String) (entries : Nat)
  | ruleFailed (module field rule : String)
  | unsupportedKind (module field rule kind : String)
  | badParameter (module field rule param kind : String)
  | unboundRules (module field : String) (error : TagError)
  | tooDeep (module path : String) (limit : Nat)
  | descending (module path : String) (depth : Nat)
  deriving Repr, DecidableEq

namespace Notice

/-- The level of a notice: what leaves something unchecked is a warning. -/
def level : Notice → Level
  | .localized .. | .ruleFailed .. | .descending .. => .debug
  | .unsupportedKind .. | .badParameter .. | .unboundRules .. | .tooDeep .. => .warn

/-- The wording of a notice. -/
def message : Notice → String
  | .localized .. => "translation enabled"
  | .ruleFailed .. => "rule failed"
  | .unsupportedKind .. => "rule does not support this kind of value"
  | .badParameter .. => "rule parameter is invalid for this kind of value"
  | .unboundRules .. => "cannot parse rules"
  | .tooDeep .. => "nesting too deep"
  | .descending .. => "descending into record"

/-- The details of a notice, by name. -/
def details : Notice → List (String × String)
  | .localized module lang entries =>
    [("module", module), ("lang", lang), ("entries", toString entries)]
  | .ruleFailed module field rule => [("module", module), ("field", field), ("rule", rule)]
  | .unsupportedKind module field rule kind =>
    [("module", module), ("field", field), ("rule", rule), ("kind", kind)]
  | .badParameter module field rule param kind =>
    [("module", module), ("field", field), ("rule", rule), ("param", param), ("kind", kind)]
  | .unboundRules module field error =>
    [("module", module), ("field", field), ("error", error.message)]
  | .tooDeep module path limit =>
    [("module", module), ("path", path), ("limit", toString limit)]
  | .descending module path depth =>
    [("module", module), ("path", path), ("depth", toString depth)]

end Notice

/-- An event of a validation. -/
inductive Event (ρ : Type) where
  /-- A rule was run on a value. -/
  | checked (tag : Tag ρ) (value : Value ρ)
  /-- The localized messages of a module were asked for. -/
  | requested (lang module : String)
  | noticed (notice : Notice)

namespace Event

variable {ρ : Type}

/-- The notice of an event that is one. -/
def notice? : Event ρ → Option Notice
  | .noticed n => some n
  | _ => none

end Event

end Verdict
