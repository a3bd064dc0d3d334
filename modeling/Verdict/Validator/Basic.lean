import Verdict.Validator.Walk

/-!
# Validators

A validator keeps a configuration and the errors that are pending: those added by hand or by
checking single fields. Validating a record returns the pending errors together with those of the
record, and leaves none pending.

## Main definitions

* `Verdict.Validator` — a validator.
* `Verdict.Validator.validate` — the errors of a record.
* `Verdict.Validator.validateField` — rules on a single value.
* `Verdict.Validator.localize` — messages in a language.
-/

namespace Verdict

variable {ρ : Type}

/-- A configuration with pending errors. -/
structure Validator (ρ : Type) where
  scope : Scope ρ
  errors : Errors

/-- Why there cannot be messages in a language. -/
inductive LanguageError where
  | missingCode
  deriving Repr, DecidableEq

/-- The wording of the error. -/
def LanguageError.message : LanguageError → String
  | .missingCode => "language code not defined"

/-- What an operation of a validator answers, with the validator after it and the events in it. -/
structure Answer (ρ α : Type) where
  result : α
  validator : Validator ρ
  events : Array (Event ρ) := #[]

namespace Validator

/-- A validator for a module with the built-in rules and messages, in no particular language. -/
def new [HasFields ρ] (module : String) : Validator ρ :=
  { scope :=
      { module := module, tagKey := defaultTagKey, registry := .builtins, lang? := none,
        messages := [], provider := .none, defaults := .builtin, maxDepth := defaultMaxDepth,
        depth := 0 }
    errors := .empty }

/-- Take localized messages from another source. -/
def withProvider (v : Validator ρ) (provider : Provider) : Validator ρ :=
  { v with scope := { v.scope with provider := provider } }

/-- Use other default templates. -/
def withDefaults (v : Validator ρ) (defaults : Messages) : Validator ρ :=
  { v with scope := { v.scope with defaults := defaults } }

/-- Use another registry. -/
def withRegistry (v : Validator ρ) (registry : Registry ρ) : Validator ρ :=
  { v with scope := { v.scope with registry := registry } }

/-- Use another nesting limit. -/
def withMaxDepth (v : Validator ρ) (maxDepth : Nat) : Validator ρ :=
  { v with scope := { v.scope with maxDepth := maxDepth } }

/-- Read rule strings under another key. -/
def setTagKey (v : Validator ρ) (key : String) : Validator ρ :=
  { v with scope := { v.scope with tagKey := key } }

/-- Give a name a rule, or take its rule away. -/
def setRule (v : Validator ρ) (name : String) (rule? : Option (Rule ρ)) :
    Except RegistryError (Validator ρ) :=
  (v.scope.registry.set name rule?).map v.withRegistry

/-- Give a name a rule. -/
def registerRule (v : Validator ρ) (name : String) (rule : Rule ρ) :
    Except RegistryError (Validator ρ) :=
  v.setRule name (some rule)

/-- Take the rule of a name away. -/
def removeRule (v : Validator ρ) (name : String) : Except RegistryError (Validator ρ) :=
  v.setRule name none

/-- Turn on messages in a language. Those of the module are asked for at once. -/
def localize (v : Validator ρ) (lang : String) :
    Answer ρ (Except LanguageError Unit) :=
  if lang.isEmpty then { result := .error .missingCode, validator := v }
  else
    let messages := v.scope.provider lang v.scope.module
    { result := .ok ()
      validator := { v with scope := { v.scope with messages := messages, lang? := some lang } }
      events := #[.requested lang v.scope.module,
        .noticed (.localized v.scope.module lang messages.length)] }

/-- Whether messages are localized. -/
def isLocalized (v : Validator ρ) : Bool := v.scope.lang?.isSome

/-- Add a pending error; the first one of a path stays. -/
def addError (v : Validator ρ) (path : String) (error : FieldError) : Validator ρ :=
  { v with errors := v.errors.record path error }

/-- Take a pending error away. -/
def removeError (v : Validator ρ) (path : String) : Option FieldError × Validator ρ :=
  let (removed, errors) := v.errors.remove path
  (removed, { v with errors := errors })

/-- A rule string bound to the rules of the validator. -/
def parseTags (v : Validator ρ) (raw : String) : Except TagError (List (Tag ρ)) :=
  v.scope.registry.parseTags raw

variable [HasFields ρ]

/-- Run rules on a value. The error of the first one that fails is pending under the name; the
answer tells whether none failed. -/
def validateField (v : Validator ρ) (name : String) (value : Value ρ) (tags : List (Tag ρ)) :
    Answer ρ Bool :=
  let (valid, journal) := v.scope.checkField name value tags { errors := v.errors }
  { result := valid, validator := { v with errors := journal.errors }, events := journal.events }

/-- Validate a record. The answer holds the pending errors and those of the record; afterwards no
errors are pending. -/
def validate (v : Validator ρ) (r : ρ) : Answer ρ Errors :=
  let journal := v.scope.walk (v.scope.maxDepth - v.scope.depth) r { errors := v.errors }
  { result := journal.errors, validator := { v with errors := .empty }, events := journal.events }

/-- The diagnostic listing of a validator; its sources of messages are not shown. -/
def listing (v : Validator ρ) : Text.Listing :=
  .fields "Validator"
    [("module", .text v.scope.module), ("tag_key", .text v.scope.tagKey),
      ("registry", v.scope.registry.listing),
      ("lang_code", .option (v.scope.lang?.map .text)),
      ("max_depth", .atom (toString v.scope.maxDepth)), ("errors", v.errors.listing)] true

end Validator

end Verdict
