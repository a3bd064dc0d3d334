import Verdict.Proofs.Table.Lookup
import Verdict.Proofs.Walk.Flat

/-!
# Walks without localized templates for errors

Localized messages hold templates for errors and labels for names. Only templates for errors are
looked for at first, and labels are put into them. So where no template for errors is found, nothing
of the localized messages shows: each record is walked as if there were no language at all.

## Main definitions

* `Verdict.Messages.LacksErrors` — a table has no templates for errors.
* `Verdict.Scope.LacksErrors` — no table that a walk may ask for has any.
* `Verdict.Scope.plain`, `Verdict.Validator.plain` — the same settings without a language and
  without a source of localized messages.

## Main results

* `Verdict.Scope.flatEvents_plain` — the events of a record are those without a language.
* `Verdict.Validator.validate_of_lacksErrors` — so is the result of a validation.
-/

namespace Verdict

variable {ρ : Type}

/-! ### Looking for messages -/

namespace Messages

/-- What the key of every localized template for errors has in it. -/
def errorMark : String := ".error."

/-- A table has no templates for errors. Labels and whatever else it may hold do not count. -/
def LacksErrors (t : Messages) : Prop := ∀ key ∈ t.keys, ¬errorMark.toList <:+: key.toList

instance (t : Messages) : Decidable t.LacksErrors :=
  inferInstanceAs (Decidable (∀ key ∈ t.keys, ¬errorMark.toList <:+: key.toList))

/-- A key with the mark is not found in a table without templates for errors. -/
lemma LacksErrors.format?_eq_none {t : Messages} (h : t.LacksErrors) {key : String}
    (hkey : errorMark.toList <:+: key.toList) (args : List String) : t.format? key args = none := by
  rw [format?, Option.map_eq_none_iff, Option.eq_none_iff_forall_not_mem]
  intro template hfound
  exact h key (List.mem_map_of_mem (Table.mem_of_get? hfound)) hkey

end Messages

/-- A table without templates for errors has no message for a failed rule: neither for its field nor
for any field.

**Proof sketch.** Both keys that a localized message may have hold the mark, so nothing is found
under them, and the default templates are used. These are given the names as they are. -/
lemma resolveMessage_of_lacksErrors {t : Messages} (h : t.LacksErrors) (defaults : Messages)
    (module field rule : String) (args : List String) :
    resolveMessage (some t) defaults module field rule args =
      resolveMessage none defaults module field rule args := by
  have hfield : Messages.errorMark.toList <:+:
      (module ++ "." ++ field ++ ".error." ++ rule).toList := by
    rw [String.toList_append, String.toList_append]
    exact ⟨_, _, rfl⟩
  have hany : Messages.errorMark.toList <:+: ("default.error." ++ rule).toList := by
    rw [String.toList_append]
    exact ⟨"default".toList, rule.toList, rfl⟩
  simp only [resolveMessage, Option.bind_some, h.format?_eq_none hfield, h.format?_eq_none hany,
    Option.bind_none]
  rfl

/-! ### Walks -/

namespace Scope

/-- No table that a walk may ask for in its language has templates for errors: neither the one of
its own module nor that of any module which its source knows. -/
def LacksErrors (s : Scope ρ) : Prop :=
  ∀ lang, s.lang? = some lang →
    s.messages.LacksErrors ∧ ∀ module, Messages.LacksErrors (s.provider lang module)

/-- The same settings without a language and without a source of localized messages. -/
def plain (s : Scope ρ) : Scope ρ := { s with lang? := none, messages := [], provider := .none }

variable {s : Scope ρ}

/-- Without a language, it does not matter what the tables hold. -/
lemma lacksErrors_of_no_language (h : s.lang? = none) : s.LacksErrors := by
  intro lang hlang
  rw [h] at hlang
  contradiction

/-- The records below have no templates for errors either, whatever their modules. -/
lemma LacksErrors.child (h : s.LacksErrors) (path : String) : (s.child path).LacksErrors := by
  intro lang hlang
  have hlang : s.lang? = some lang := hlang
  simp only [Scope.child, hlang]
  exact ⟨(h lang hlang).2 path, (h lang hlang).2⟩

variable [HasFields ρ]

/-- The error for a failed rule is that of the default templates, with the names as they are.

**Proof sketch.** Without a language both sides ask no table. With one, the table has no templates
for errors (`resolveMessage_of_lacksErrors`). -/
lemma resolve_plain (h : s.LacksErrors) (field : String) (tag : Tag ρ) (value : Value ρ) :
    s.plain.resolve field tag value = s.resolve field tag value := by
  rw [resolve, resolve]
  cases hlang : s.lang? with
  | none => rfl
  | some lang =>
    have hmessages := resolveMessage_of_lacksErrors (h lang hlang).1 s.defaults s.module field
      tag.name [value.text, tag.param]
    simp only [Option.map_some, hmessages]
    rfl

/-- The events of a record are those without a language.

**Proof sketch.** Induction on the levels that are left. The messages of a field come from the
default templates on both sides, and the records in its value are walked with the table of their own
module, which has no templates for errors either. -/
lemma flatEvents_plain (h : s.LacksErrors) (r : ρ) : s.plain.flatEvents r = s.flatEvents r := by
  induction hlevels : s.maxDepth - s.depth using Nat.strongRecOn generalizing s r with
  | _ levels ih =>
    have hown (f : Field ρ) : s.plain.ownError? f = s.ownError? f := by
      simp only [ownError?, resolve_plain h]
      rfl
    have hbelow (path : String) (inner : ρ) (hdepth : ¬s.maxDepth ≤ s.depth) :
        (s.plain.child path).flatEvents inner = (s.child path).flatEvents inner := by
      have hchild : s.plain.child path = (s.child path).plain := rfl
      rw [hchild]
      refine ih _ ?_ (h.child path) inner rfl
      simp only [child]
      omega
    rw [flatEvents, flatEvents]
    congr 1
    apply List.flatMap_congr
    intro f _
    rw [fieldEvents, fieldEvents, hown]
    congr 3
    funext path inner
    by_cases hdepth : s.maxDepth ≤ s.depth
    · rw [if_pos hdepth]
      exact if_pos hdepth
    · rw [if_neg hdepth, ← hbelow path inner hdepth]
      exact if_neg hdepth

end Scope

/-! ### Validations -/

namespace Validator

/-- The same validator without a language and without a source of localized messages. -/
def plain (v : Validator ρ) : Validator ρ := { v with scope := v.scope.plain }

variable [HasFields ρ]

/-- **Without localized templates for errors, the source of localized messages cannot be seen.** The
result of a validation is that of the same validator without a language. In particular it does not
depend on the source as long as there is no language; and turning on any language for which the
source has no templates for errors, but maybe labels, does not change it.

**Proof sketch.** The events of a record are those without a language (`Scope.flatEvents_plain`).
For another source, a validator without a language lacks templates in any case, and localizing it
changes the language and the messages only, so both have the result of the validator without a
language. -/
theorem validate_of_lacksErrors (v : Validator ρ) (r : ρ) :
    (v.scope.LacksErrors → (v.validate r).result = (v.plain.validate r).result) ∧
      (v.scope.lang? = none → ∀ provider : Provider,
        ((v.withProvider provider).validate r).result = (v.validate r).result ∧
          ∀ lang, (∀ module, Messages.LacksErrors (provider lang module)) →
            (((v.withProvider provider).localize lang).validator.validate r).result =
              (v.validate r).result) := by
  have hplain (w : Validator ρ) (hw : w.scope.LacksErrors) :
      (w.validate r).result = (w.plain.validate r).result := by
    rw [result_validate, result_validate, plain, Scope.flatEvents_plain hw]
  refine ⟨hplain v, fun hnone provider => ?_⟩
  have hv := hplain v (Scope.lacksErrors_of_no_language hnone)
  have hprovided : ((v.withProvider provider).validate r).result = (v.validate r).result := by
    rw [hv]
    exact hplain _ (Scope.lacksErrors_of_no_language hnone)
  refine ⟨hprovided, fun lang htables => ?_⟩
  rw [localize]
  split_ifs
  · -- a language without a code is refused, and the validator stays as it was
    exact hprovided
  · rw [hv]
    apply hplain
    rintro lang' hlang
    cases hlang
    exact ⟨htables _, htables⟩

/-- A catalog of labels for a record and for one in it, with another table in a language that is not
asked for: the messages are those of the default templates, with the names as they are. -/
theorem validate_labels_only :
    let labels : Messages := [("City.label", "town"), ("Home.City.label", "town"),
      ("Home.label", "address"), ("User.label", "account")]
    let catalog : Catalog := [("de", labels), ("fr", [("default.error.required", "$\x7b1\x7d !")])]
    let v : Validator Record := .new "User"
    let r : Record := .plain
      [⟨"Name", .str "", [("validate", "required")], []⟩,
        ⟨"Home", .record (.plain [⟨"City", .absent, [("validate", "required")], []⟩]), [], []⟩]
    v.scope.lang? = none ∧ (∀ module, Messages.LacksErrors (catalog.provider "de" module)) ∧
      (((v.withProvider catalog.provider).localize "de").validator.validate r).result =
        (v.validate r).result ∧
      v.scope.flatEvents r = [("Name", .message "User Name cannot be blank"),
        ("Home.City", .message "Home City cannot be blank")] := by
  intro labels catalog v r
  have htables : ∀ module, Messages.LacksErrors (catalog.provider "de" module) := by
    intro module
    show Messages.LacksErrors labels
    decide +kernel
  refine ⟨rfl, htables, ?_, by decide +kernel⟩
  exact ((validate_of_lacksErrors v r).2 rfl catalog.provider).2 "de" htables

end Validator

end Verdict
