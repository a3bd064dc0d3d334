import Verdict.Proofs.Errors.History
import Verdict.Proofs.Walk.Flat

/-!
# Runs of a validator

A validator is one state that all its operations share: settings, localized messages and pending
errors. This file says what each operation may change of it, and that nothing else is carried over
from one operation to a later one: once no errors are pending, a validator that has been through any
run of operations validates like one that was just built.

## Main definitions

* `Verdict.Validator.Operation`, `Verdict.Validator.Reply` — one operation, and what it answers.
* `Verdict.Validator.apply`, `Verdict.Validator.run` — one operation, and a run of them.
* `Verdict.Setup` — what is fixed when a validator is built.
* `Verdict.Setup.Reaches` — what every run keeps.
* `Verdict.Validator.Isolated` — what a run leaves of what was before it.

## Main results

* `Verdict.Validator.apply_cases` — all that an operation may do.
* `Verdict.Validator.reaches_run` — the settings of a validator after a run are those of one that
  was just built, with a rule-string key, registry and language.
* `Verdict.Validator.toList_validate_eq_append` — the pending errors, then those of the walk.
* `Verdict.Validator.run_isolated` — what operations change, and that a run leaves no trace.

## Design

All that a walk depends on is its `Scope`, so the law is that every run keeps the scope equal to one
of a new validator. The scope of a new one is written out in `Setup.scope`: its messages are a
function of the language and the module.
-/

namespace Verdict

variable {ρ : Type}

namespace Validator

/-- An operation on a validator. -/
inductive Operation (ρ : Type) where
  | setTagKey (key : String)
  | registerRule (name : String) (rule : Rule ρ)
  | setRule (name : String) (rule? : Option (Rule ρ))
  | removeRule (name : String)
  | localize (lang : String)
  | addError (path : String) (error : FieldError)
  | removeError (path : String)
  | parseTags (raw : String)
  | validateField (name : String) (value : Value ρ) (tags : List (Tag ρ))
  | validate (r : ρ)

/-- What an operation answers. -/
inductive Reply (ρ : Type) where
  | done
  | refusedRule (why : RegistryError)
  | refusedLanguage (why : LanguageError)
  | removed (error? : Option FieldError)
  | parsed (tags : Except TagError (List (Tag ρ)))
  | checked (valid : Bool)
  | validated (errors : Errors)

/-- Whether an operation was refused. -/
def Reply.isRefusal : Reply ρ → Bool
  | .refusedRule _ | .refusedLanguage _ => true
  | _ => false

/-- Whether an operation lacks what it is about: a name for a rule, or the code of a language. -/
def Operation.lacksName : Operation ρ → Bool
  | .registerRule name _ | .setRule name _ | .removeRule name => name.isEmpty
  | .localize lang => lang.isEmpty
  | _ => false

/-- Go on with the validator of a change of the registry, or with the old one if the change is
refused. -/
def afterChange (v : Validator ρ) : Except RegistryError (Validator ρ) → Reply ρ × Validator ρ
  | .ok changed => (.done, changed)
  | .error why => (.refusedRule why, v)

variable [HasFields ρ]

/-- Do one operation. -/
def apply (v : Validator ρ) : Operation ρ → Reply ρ × Validator ρ
  | .setTagKey key => (.done, v.setTagKey key)
  | .registerRule name rule => v.afterChange (v.registerRule name rule)
  | .setRule name rule? => v.afterChange (v.setRule name rule?)
  | .removeRule name => v.afterChange (v.removeRule name)
  | .localize lang =>
    let answer := v.localize lang
    match answer.result with
    | .ok () => (.done, answer.validator)
    | .error why => (.refusedLanguage why, answer.validator)
  | .addError path error => (.done, v.addError path error)
  | .removeError path => (.removed (v.removeError path).1, (v.removeError path).2)
  | .parseTags raw => (.parsed (v.parseTags raw), v)
  | .validateField name value tags =>
    let answer := v.validateField name value tags
    (.checked answer.result, answer.validator)
  | .validate r =>
    let answer := v.validate r
    (.validated answer.result, answer.validator)

/-- Do the operations of a run in order. -/
def run (v : Validator ρ) (operations : List (Operation ρ)) : Validator ρ :=
  operations.foldl (fun v operation => (v.apply operation).2) v

/-- The errors of the walk of a record alone. -/
def walked (v : Validator ρ) (r : ρ) : Errors :=
  (v.scope.walk (v.scope.maxDepth - v.scope.depth) r {}).errors

end Validator

/-- What is fixed when a validator is built. -/
structure Setup where
  module : String
  provider : Provider
  defaults : Messages
  maxDepth : Nat

namespace Setup

/-- A new validator, with the given rule-string key, registry and language. -/
def build [HasFields ρ] (setup : Setup) (tagKey : String) (registry : Registry ρ)
    (lang? : Option String) : Validator ρ :=
  let v := ((((Validator.new setup.module).withProvider setup.provider).withDefaults
    setup.defaults).withMaxDepth setup.maxDepth).withRegistry registry
  let v := v.setTagKey tagKey
  match lang? with
  | some lang => (v.localize lang).validator
  | none => v

/-- The settings of a new validator. The localized messages are those of its module in its language;
there are none without a language. -/
def scope (setup : Setup) (tagKey : String) (registry : Registry ρ) (lang? : Option String) :
    Scope ρ :=
  { module := setup.module
    tagKey := tagKey
    registry := registry
    lang? := lang?
    messages := match lang? with
      | some lang => setup.provider lang setup.module
      | none => []
    provider := setup.provider
    defaults := setup.defaults
    maxDepth := setup.maxDepth
    depth := 0 }

/-- A state of a validator that was built with a setup: its settings are those of a new one,
whatever errors are pending. -/
def Reaches (setup : Setup) (v : Validator ρ) : Prop :=
  ∃ tagKey registry lang?, lang? ≠ some "" ∧ v.scope = setup.scope tagKey registry lang?

variable {setup : Setup} {v : Validator ρ}

/-! ### New validators -/

/-- A new validator has no pending errors. -/
lemma build_errors [HasFields ρ] (setup : Setup) (tagKey : String) (registry : Registry ρ)
    (lang? : Option String) : (setup.build tagKey registry lang?).errors = .empty := by
  cases lang? with
  | none => rfl
  | some lang =>
    rw [build, Validator.localize]
    split_ifs <;> rfl

/-- A language with a code is the one of the new validator.

**Proof sketch.** With a language, the validator is localized after it is built. This is refused for
an empty code only, and otherwise takes the messages from the source. -/
lemma build_scope [HasFields ρ] (setup : Setup) (tagKey : String) (registry : Registry ρ)
    {lang? : Option String} (hlang : lang? ≠ some "") :
    (setup.build tagKey registry lang?).scope = setup.scope tagKey registry lang? := by
  cases lang? with
  | none => rfl
  | some lang =>
    have hcode : lang.isEmpty = false := by
      rw [← Bool.not_eq_true, String.isEmpty_iff]
      rintro rfl
      exact hlang rfl
    rw [build, Validator.localize, hcode]
    rfl

/-- A new validator is in a state that is reached; an empty language code leaves it without a
language. -/
lemma reaches_build [HasFields ρ] (setup : Setup) (tagKey : String) (registry : Registry ρ)
    (lang? : Option String) : setup.Reaches (setup.build tagKey registry lang?) := by
  by_cases hlang : lang? = some ""
  · subst hlang
    exact ⟨tagKey, registry, none, by simp, rfl⟩
  · exact ⟨tagKey, registry, lang?, hlang, setup.build_scope tagKey registry hlang⟩

/-- A validator in a state that is reached has the settings of a new one with its rule-string key,
registry and language. -/
lemma Reaches.build_scope [HasFields ρ] (h : setup.Reaches v) :
    (setup.build v.scope.tagKey v.scope.registry v.scope.lang?).scope = v.scope := by
  obtain ⟨tagKey, registry, lang?, hlang, hscope⟩ := h
  rw [hscope]
  exact setup.build_scope tagKey registry hlang

end Setup

namespace Validator

variable {setup : Setup} {v : Validator ρ}

/-! ### Single operations -/

/-- What an operation that is not refused may change: one of the rule-string key, the registry, the
language with its messages, and the pending errors. -/
inductive Changes (v : Validator ρ) : Validator ρ → Prop where
  | tagKey (key : String) : Changes v (v.setTagKey key)
  | registry (registry : Registry ρ) : Changes v (v.withRegistry registry)
  | language (lang : String) (hlang : lang ≠ "") : Changes v
    { v with
      scope := { v.scope with
        messages := v.scope.provider lang v.scope.module
        lang? := some lang } }
  | errors (errors : Errors) : Changes v { v with errors := errors }

/-- A change of the registry is refused for want of a name, and otherwise changes nothing else.

**Proof sketch.** The registry refuses a change if the name is empty. Otherwise it makes one,
whether the rule is stored or taken out. -/
lemma afterChange_setRule (v : Validator ρ) (name : String) (rule? : Option (Rule ρ)) :
    name.isEmpty = true ∧ v.afterChange (v.setRule name rule?) = (.refusedRule .emptyName, v) ∨
      name.isEmpty = false ∧ ∃ registry,
        v.afterChange (v.setRule name rule?) = (.done, v.withRegistry registry) := by
  have hset : v.setRule name rule? = (v.scope.registry.set name rule?).map v.withRegistry := rfl
  cases hname : name.isEmpty with
  | true =>
    have hrefused : v.scope.registry.set name rule? = .error .emptyName := if_pos hname
    rw [hset, hrefused]
    exact Or.inl ⟨rfl, rfl⟩
  | false =>
    obtain ⟨registry, hregistry⟩ : ∃ registry, v.scope.registry.set name rule? = .ok registry := by
      unfold Registry.set
      rw [if_neg (by simp [hname])]
      cases rule? <;> exact ⟨_, rfl⟩
    rw [hset, hregistry]
    exact Or.inr ⟨rfl, registry, rfl⟩

variable [HasFields ρ]

/-- An operation is refused and changes nothing, if it lacks a name, and otherwise makes one
change.

**Proof sketch.** One case for each operation. The three that change the registry are one case
(`afterChange_setRule`); turning a language on is refused for an empty code; and the others are not
refused, and by definition make one change. -/
lemma apply_cases (v : Validator ρ) (operation : Operation ρ) :
    operation.lacksName = true ∧ (v.apply operation).1.isRefusal = true ∧
        (v.apply operation).2 = v ∨
      operation.lacksName = false ∧ (v.apply operation).1.isRefusal = false ∧
        v.Changes (v.apply operation).2 := by
  have hrule (name : String) (rule? : Option (Rule ρ))
      (hname : operation.lacksName = name.isEmpty)
      (happly : v.apply operation = v.afterChange (v.setRule name rule?)) :
      operation.lacksName = true ∧ (v.apply operation).1.isRefusal = true ∧
          (v.apply operation).2 = v ∨
        operation.lacksName = false ∧ (v.apply operation).1.isRefusal = false ∧
          v.Changes (v.apply operation).2 := by
    rw [happly, hname]
    rcases v.afterChange_setRule name rule? with ⟨hempty, h⟩ | ⟨hempty, registry, h⟩
    · rw [h]
      exact Or.inl ⟨hempty, rfl, rfl⟩
    · rw [h]
      exact Or.inr ⟨hempty, rfl, .registry registry⟩
  cases operation with
  | setTagKey key => exact Or.inr ⟨rfl, rfl, .tagKey key⟩
  | registerRule name rule => exact hrule name (some rule) rfl rfl
  | setRule name rule? => exact hrule name rule? rfl rfl
  | removeRule name => exact hrule name none rfl rfl
  | localize lang =>
    rw [apply, localize, Operation.lacksName]
    cases hlang : lang.isEmpty with
    | true => exact Or.inl ⟨rfl, rfl, rfl⟩
    | false =>
      refine Or.inr ⟨rfl, rfl, .language lang ?_⟩
      rintro rfl
      contradiction
  | addError path error =>
    exact Or.inr ⟨rfl, rfl, .errors _⟩
  | removeError path =>
    exact Or.inr ⟨rfl, rfl, .errors _⟩
  | parseTags raw => exact Or.inr ⟨rfl, rfl, .errors v.errors⟩
  | validateField name value tags =>
    exact Or.inr ⟨rfl, rfl, .errors _⟩
  | validate r => exact Or.inr ⟨rfl, rfl, .errors _⟩

/-! ### Runs -/

omit [HasFields ρ] in
/-- A change leads from one state that is reached to another.

**Proof sketch.** Each change leaves a scope of the same setup: with another rule-string key,
another registry, the messages of another language, or as it was. -/
lemma Changes.reaches {v w : Validator ρ} (hchange : v.Changes w) (h : setup.Reaches v) :
    setup.Reaches w := by
  obtain ⟨tagKey, registry, lang?, hlang, hscope⟩ := h
  cases hchange with
  | tagKey key => exact ⟨key, registry, lang?, hlang, by rw [setTagKey, hscope]; rfl⟩
  | registry registry => exact ⟨tagKey, registry, lang?, hlang, by rw [withRegistry, hscope]; rfl⟩
  | language lang hcode =>
    exact ⟨tagKey, registry, some lang, by simpa using hcode, by rw [hscope]; rfl⟩
  | errors errors => exact ⟨tagKey, registry, lang?, hlang, hscope⟩

/-- So does every operation, refused or not. -/
lemma reaches_apply (h : setup.Reaches v) (operation : Operation ρ) :
    setup.Reaches (v.apply operation).2 := by
  rcases v.apply_cases operation with ⟨-, -, hsame⟩ | ⟨-, -, hchange⟩
  · rwa [hsame]
  · exact hchange.reaches h

/-- So does every run. -/
lemma reaches_run (h : setup.Reaches v) (operations : List (Operation ρ)) :
    setup.Reaches (v.run operations) := by
  induction operations generalizing v with
  | nil => exact h
  | cons operation operations ih => exact ih (reaches_apply h operation)

/-! ### What a validation returns -/

/-- The errors of a walk alone are the first ones of each path. -/
lemma toList_walked (v : Validator ρ) (r : ρ) :
    (v.walked r).toList = Entries.extend [] (v.scope.flatEvents r) := by
  rw [walked, Scope.walk_errors _ _ rfl]
  exact Errors.empty.toList_extend _

/-- A validation returns the pending errors, then those of the walk at other paths.

**Proof sketch.** Adding to the pending errors adds what is new, and this is what is added to none,
less what is at the paths of pending errors (`Entries.extend_eq_append`). -/
lemma toList_validate_eq_append (v : Validator ρ) (r : ρ) :
    (v.validate r).result.toList =
      v.errors.toList ++ (v.walked r).toList.filter fun entry => entry.1 ∉ v.errors.paths := by
  rw [toList_validate, Entries.extend_eq_append, toList_walked]
  rfl

/-- A new validator returns the errors of the walk. -/
lemma result_validate_build (h : setup.Reaches v) (r : ρ) :
    ((setup.build v.scope.tagKey v.scope.registry v.scope.lang?).validate r).result =
      v.walked r := by
  rw [validate, h.build_scope, Setup.build_errors]
  rfl

/-- What holds of a validator that was built with a setup, after any run of operations. -/
structure Isolated (setup : Setup) (v : Validator ρ) : Prop where
  /-- The settings are those of a new validator with this rule-string key, registry and language. -/
  settings : v.scope = (setup.build v.scope.tagKey v.scope.registry v.scope.lang?).scope
  /-- A validation returns the pending errors, then those of the walk, the first of each path. -/
  validate_result : ∀ r, (v.validate r).result.toList =
    v.errors.toList ++ (v.walked r).toList.filter fun entry => entry.1 ∉ v.errors.paths
  /-- Afterwards no errors are pending, and all else is as before. -/
  validate_after : ∀ r, (v.apply (.validate r)).2 = { v with errors := .empty }
  /-- Three operations change nothing but the pending errors. -/
  validateField_after : ∀ name value tags, ∃ errors,
    (v.apply (.validateField name value tags)).2 = { v with errors := errors }
  addError_after : ∀ path error, ∃ errors,
    (v.apply (.addError path error)).2 = { v with errors := errors }
  removeError_after : ∀ path, ∃ errors,
    (v.apply (.removeError path)).2 = { v with errors := errors }
  /-- Reading a rule string changes nothing. -/
  parseTags_after : ∀ raw, (v.apply (.parseTags raw)).2 = v
  /-- Just the operations that lack a name are refused, and they change nothing. -/
  refusal : ∀ operation, (v.apply operation).1.isRefusal = operation.lacksName ∧
    (operation.lacksName = true → (v.apply operation).2 = v)
  /-- While there is a language, the messages are those of the source for it and the module. -/
  messages : ∀ lang, v.scope.lang? = some lang →
    v.scope.messages = setup.provider lang setup.module
  /-- Without pending errors, a validation returns what a new validator returns. -/
  fresh : v.errors.isEmpty = true → ∀ r, (v.validate r).result.same
    ((setup.build v.scope.tagKey v.scope.registry v.scope.lang?).validate r).result = true

/-- **A run of operations leaves no trace** in a validator but its rule-string key, registry,
language and pending errors. Operations change only what is theirs, a refused one nothing; and once
no errors are pending, a validation returns what one of a new validator returns.

**Proof sketch.** Every run keeps the settings those of a new validator with some rule-string key,
registry and language (`reaches_run`), and a walk depends on nothing else. So a validation returns
the pending errors and those of a walk, and without pending errors these are the ones of the new
validator. What a single operation leaves alone is read off its definition, and refusals off
`apply_cases`. -/
theorem run_isolated (setup : Setup) (tagKey : String) (registry : Registry ρ)
    (lang? : Option String) (operations : List (Operation ρ)) :
    Isolated setup ((setup.build tagKey registry lang?).run operations) := by
  have hreaches := reaches_run (setup.reaches_build tagKey registry lang?) operations
  generalize (setup.build tagKey registry lang?).run operations = v at hreaches ⊢
  refine
    { settings := hreaches.build_scope.symm
      validate_result := toList_validate_eq_append v
      validate_after := fun _ => rfl
      validateField_after := fun _ _ _ => ⟨_, rfl⟩
      addError_after := fun _ _ => ⟨_, rfl⟩
      removeError_after := fun _ => ⟨_, rfl⟩
      parseTags_after := fun _ => rfl
      refusal := fun operation => ?_
      messages := fun lang hlang => ?_
      fresh := fun hnone r => ?_ }
  · rcases v.apply_cases operation with ⟨hlacks, hrefusal, hsame⟩ | ⟨hlacks, hrefusal, -⟩
    · exact ⟨by rw [hlacks, hrefusal], fun _ => hsame⟩
    · exact ⟨by rw [hlacks, hrefusal], fun h => by simp [hlacks] at h⟩
  · obtain ⟨tagKey, registry, lang?, -, hscope⟩ := hreaches
    rw [hscope] at hlang ⊢
    obtain rfl : lang? = some lang := hlang
    rfl
  · rw [result_validate_build hreaches, Errors.same_iff, toList_validate_eq_append, Errors.paths,
      Errors.isEmpty_iff.mp hnone]
    simp

/-- A run with a pending error, a language, two refusals and a validation that takes the pending
error with it: afterwards records are validated as by a new validator with the language. -/
theorem run_isolated_localized :
    let messages : Catalog := [("de", [("default.error.required", "$\x7b1\x7d fehlt")])]
    let setup : Setup := ⟨"Order", messages.provider, .builtin, 3⟩
    let v : Validator Record := (setup.build "validate" .builtins none).run
      [.addError "Total" .failed, .localize "de", .localize "", .validate (.plain []),
        .setRule "" none]
    v.scope.lang? = some "de" ∧ v.errors.isEmpty = true ∧
      v.scope.messages = [("default.error.required", "$\x7b1\x7d fehlt")] ∧
      ∀ r, (v.validate r).result.same
        ((setup.build "validate" .builtins (some "de")).validate r).result = true := by
  intro messages setup v
  have hlang : v.scope.lang? = some "de" := rfl
  have hnone : v.errors.isEmpty = true := rfl
  have hisolated : Isolated setup v := run_isolated setup "validate" .builtins none _
  exact ⟨hlang, hnone, hisolated.messages "de" hlang, hisolated.fresh hnone⟩

end Validator

end Verdict
