import Verdict.Proofs.Walk.Flat

/-!
# Rules on a single value

`Verdict.Validator.validateField` runs a list of rules on one value. Its errors go to the pending
ones, which everything else that a validator does shares. Of the four outcomes of a rule only one
counts: this file says that the others leave nothing behind, wherever they stand in the list, and
what the first failure leaves.

## Main definitions

* `Verdict.Tag.DifferInPassed` — two lists of rules that differ in rules that do not fail.
* `Verdict.Validator.Records` — what the failure of a rule makes of a validator.

## Main results

* `Verdict.Tag.DifferInPassed.find?_eq` — such lists have the same first failure.
* `Verdict.Scope.checkField_append_of_failed` — nothing behind a failure is looked at.
* `Verdict.Validator.validateField_first_failure` — only the first failure counts.
-/

namespace Verdict

variable {ρ : Type}

namespace Tag

/-- The second list comes from the first one by putting in rules that do not fail on the value, and
by taking out such rules, anywhere. -/
inductive DifferInPassed (value : Value ρ) : List (Tag ρ) → List (Tag ρ) → Prop where
  | nil : DifferInPassed value [] []
  | keep (tag : Tag ρ) {tags others : List (Tag ρ)} (h : DifferInPassed value tags others) :
    DifferInPassed value (tag :: tags) (tag :: others)
  | insert {tag : Tag ρ} (hpassed : tag.check value ≠ .failed) {tags others : List (Tag ρ)}
    (h : DifferInPassed value tags others) : DifferInPassed value tags (tag :: others)
  | delete {tag : Tag ρ} (hpassed : tag.check value ≠ .failed) {tags others : List (Tag ρ)}
    (h : DifferInPassed value tags others) : DifferInPassed value (tag :: tags) others

/-- Lists that differ in rules that do not fail have the same first failure.

**Proof sketch.** Induction on how the lists differ. A rule that does not fail is not the first
failure, so it may be passed over in either list. -/
lemma DifferInPassed.find?_eq {value : Value ρ} {tags others : List (Tag ρ)}
    (h : DifferInPassed value tags others) :
    (tags.find? fun tag => tag.check value = .failed) =
      others.find? fun tag => tag.check value = .failed := by
  induction h with
  | nil => rfl
  | keep tag _ ih => rw [List.find?_cons, List.find?_cons, ih]
  | insert hpassed _ ih => rw [ih, List.find?_cons_of_neg (by simpa using hpassed)]
  | delete hpassed _ ih => rw [List.find?_cons_of_neg (by simpa using hpassed), ih]

end Tag

namespace Scope

variable [HasFields ρ]

/-- The flag tells whether there is no failure.

**Proof sketch.** Induction on the rules. A failure ends the run with a negative answer, and any
other rule is passed over (`checkField_cons_of_passed`). -/
lemma checkField_fst (s : Scope ρ) (name : String) (value : Value ρ) (tags : List (Tag ρ))
    (j : Journal ρ) : (s.checkField name value tags j).1 =
      (tags.find? fun tag => tag.check value = .failed).isNone := by
  induction tags generalizing j with
  | nil => rfl
  | cons tag tags ih =>
    by_cases hfailed : tag.check value = .failed
    · rw [List.find?_cons_of_pos (by simpa using hfailed), checkField, hfailed]
      rfl
    · obtain ⟨k, -, hrest⟩ := s.checkField_cons_of_passed name hfailed j
      rw [List.find?_cons_of_neg (by simpa using hfailed), hrest, ih]

/-- Nothing behind a failure is looked at.

**Proof sketch.** Induction on the rules before the failure. If one of them fails, then neither run
goes further. -/
lemma checkField_append_of_failed (s : Scope ρ) (name : String) (value : Value ρ)
    (before later : List (Tag ρ)) {tag : Tag ρ} (hfailed : tag.check value = .failed)
    (j : Journal ρ) : s.checkField name value (before ++ tag :: later) j =
      s.checkField name value (before ++ [tag]) j := by
  induction before generalizing j with
  | nil =>
    rw [List.nil_append, List.nil_append, checkField, checkField, hfailed]
  | cons first before ih =>
    rw [List.cons_append, List.cons_append, checkField, checkField]
    cases first.check value with
    | failed => rfl
    | valid | unsupported | badParameter => exact ih _

/-- The error for a rule that failed is made of the name and the parameter of the rule and of the
printed value, and not of the rule itself. -/
lemma resolve_congr (s : Scope ρ) (field : String) {tag other : Tag ρ} {value shown : Value ρ}
    (hname : other.name = tag.name) (hparam : other.param = tag.param)
    (htext : shown.text = value.text) :
    s.resolve field other shown = s.resolve field tag value := by
  rw [resolve, resolve, hname, hparam, htext]

end Scope

namespace Validator

variable [HasFields ρ]

/-- What the failure of a rule on a value makes of a validator: the error for the rule follows the
pending errors, if the name is not empty and has no error yet, and that is all. -/
structure Records (v : Validator ρ) (name : String) (value : Value ρ) (tag : Tag ρ)
    (after : Validator ρ) : Prop where
  scope_eq : after.scope = v.scope
  appended : name ≠ "" → v.errors.contains name = false →
    after.errors.toList = v.errors.toList ++ [(name, v.scope.resolve name tag value)]
  kept : name = "" ∨ v.errors.contains name = true → after = v
  /-- A name has an error if and only if it is among the paths. -/
  contains_iff : v.errors.contains name = true ↔ name ∈ v.errors.paths
  /-- The error would be the same for another rule of this name and parameter and another value that
  is printed alike. -/
  resolve_eq : ∀ (other : Tag ρ) (shown : Value ρ), other.name = tag.name →
    other.param = tag.param → shown.text = value.text →
      v.scope.resolve name other shown = v.scope.resolve name tag value

/-- Recording the error for a rule leaves what the failure of the rule is said to leave. -/
lemma records_addError (v : Validator ρ) (name : String) (value : Value ρ) (tag : Tag ρ) :
    v.Records name value tag (v.addError name (v.scope.resolve name tag value)) where
  scope_eq := rfl
  appended hname hfree := by
    have htaken : ¬(name.isEmpty || v.errors.contains name) = true := by simp [hname, hfree]
    exact Errors.toList_add_of_free htaken _
  kept htaken := by
    rw [addError, Errors.record_of_taken (by simpa using htaken)]
  contains_iff := v.errors.contains_iff name
  resolve_eq _ _ := v.scope.resolve_congr name

/-- The answer tells whether there is no failure. -/
lemma result_validateField (v : Validator ρ) (name : String) (value : Value ρ)
    (tags : List (Tag ρ)) : (v.validateField name value tags).result =
      (tags.find? fun tag => tag.check value = .failed).isNone :=
  v.scope.checkField_fst name value tags _

/-- Afterwards the error for the first failure is added to the validator, if there is one. -/
lemma validator_validateField (v : Validator ρ) (name : String) (value : Value ρ)
    (tags : List (Tag ρ)) : (v.validateField name value tags).validator =
      match tags.find? fun tag => tag.check value = .failed with
      | some tag => v.addError name (v.scope.resolve name tag value)
      | none => v := by
  have hafter : (v.validateField name value tags).validator =
      { v with
        errors := (v.scope.checkField name value tags { errors := v.errors }).2.errors } := rfl
  rw [hafter, Scope.checkField_errors]
  cases tags.find? fun tag => tag.check value = .failed with
  | some tag => rfl
  | none => rfl

/-- **Of the rules that are run on a value only the first failure counts.** The answer is positive
if and only if no rule fails, and then the validator is as before. Otherwise the error for the first
failure is recorded under the name, and no rule behind it matters at all, not even to the events.
Rules that do not fail may be put in and taken out, without a change of the answer or of the
validator.

**Proof sketch.** The answer and the validator are functions of the first failure
(`result_validateField`, `validator_validateField`), and lists that differ in rules that do not fail
have the same one. -/
theorem validateField_first_failure (v : Validator ρ) (name : String) (value : Value ρ)
    (tags : List (Tag ρ)) :
    let answer := v.validateField name value tags
    (answer.result = true ↔ ∀ tag ∈ tags, tag.check value ≠ .failed) ∧
      (answer.result = true → answer.validator = v) ∧
      (∀ before tag later, tags = before ++ tag :: later →
        (∀ earlier ∈ before, earlier.check value ≠ .failed) → tag.check value = .failed →
          v.Records name value tag answer.validator) ∧
      (∀ before tag later others, tags = before ++ tag :: later → tag.check value = .failed →
        v.validateField name value (before ++ tag :: others) = answer) ∧
      ∀ others, Tag.DifferInPassed value tags others →
        (v.validateField name value others).result = answer.result ∧
          (v.validateField name value others).validator = answer.validator := by
  intro answer
  have hresult := v.result_validateField name value tags
  have hafter := v.validator_validateField name value tags
  refine ⟨?_, ?_, ?_, ?_, ?_⟩
  · rw [hresult, Option.isNone_iff_eq_none, List.find?_eq_none]
    simp only [decide_eq_true_eq]
  · intro hpositive
    rw [hresult, Option.isNone_iff_eq_none] at hpositive
    rw [hafter, hpositive]
  · intro before tag later hsplit hbefore hfailed
    have hfirst : (tags.find? fun tag => tag.check value = .failed) = some tag := by
      rw [List.find?_eq_some_iff_append]
      exact ⟨by simpa using hfailed, before, later, hsplit, by simpa using hbefore⟩
    rw [hafter, hfirst]
    exact v.records_addError name value tag
  · intro before tag later others hsplit hfailed
    have hsame : v.scope.checkField name value (before ++ tag :: others) { errors := v.errors } =
        v.scope.checkField name value tags { errors := v.errors } := by
      rw [hsplit, v.scope.checkField_append_of_failed name value before others hfailed,
        v.scope.checkField_append_of_failed name value before later hfailed]
    show v.validateField name value _ = v.validateField name value tags
    rw [validateField, validateField, hsame]
  · intro others hdiffer
    have hsame := hdiffer.find?_eq
    refine ⟨?_, ?_⟩
    · rw [hresult, result_validateField, hsame]
    · rw [hafter, validator_validateField, hsame]

/-- With one error pending, rules that cannot judge a number and rules whose parameters are none are
passed over like one that holds. The rule behind them fails, and its error follows the pending one;
without those before it, or without the one behind it, it would be the same.

**Proof sketch.** The outcomes of the rules are computed. Which error is recorded, and that the
other rules make no difference, is the law applied to these lists. -/
theorem validateField_first_failure_behind_unjudged :
    let pending := Errors.empty.record "Total" .failed
    let v : Validator Record := { Validator.new "Order" with errors := pending }
    let passed : List (Tag Record) :=
      [⟨"email", "", ⟨4, Rule.email⟩⟩, ⟨"max", "oops", ⟨3, Rule.max⟩⟩, ⟨"max", "5", ⟨3, Rule.max⟩⟩]
    let required : Tag Record := ⟨"required", "", ⟨0, Rule.required⟩⟩
    let later : List (Tag Record) := [⟨"min", "1", ⟨2, Rule.min⟩⟩]
    let answer := v.validateField "Count" (.int 0) (passed ++ required :: later)
    passed.map (fun tag => tag.check (.int 0)) = [.unsupported, .badParameter, .valid] ∧
      answer.validator.errors.toList =
        [("Total", .failed), ("Count", .message "Order Count cannot be blank")] ∧
      (v.validateField "Count" (.int 0) (required :: later)).validator = answer.validator ∧
      v.validateField "Count" (.int 0) (passed ++ [required]) = answer := by
  intro pending v passed required later answer
  have hlist : v.errors.toList = [("Total", .failed)] := Errors.empty.toList_record "Total" .failed
  have houtcomes : passed.map (fun tag => tag.check (.int 0)) =
      [.unsupported, .badParameter, .valid] := by decide +kernel
  have hpassed : ∀ tag ∈ passed, tag.check (.int 0) ≠ .failed := by decide +kernel
  have hfailed : required.check (.int 0) = .failed := by decide +kernel
  obtain ⟨-, -, hrecords, hlater, hdiffer⟩ :=
    validateField_first_failure v "Count" (.int 0) (passed ++ required :: later)
  have hresolve : v.scope.resolve "Count" required (.int 0) =
      .message "Order Count cannot be blank" := by decide +kernel
  refine ⟨houtcomes, ?_, (hdiffer _ ?_).2, hlater passed required later [] rfl hfailed⟩
  · have hrecorded := hrecords passed required later rfl hpassed hfailed
    have hfree : v.errors.contains "Count" = false := by
      rw [← Bool.not_eq_true, hrecorded.contains_iff, Errors.paths, hlist]
      decide
    rw [hrecorded.appended (by decide) hfree, hlist, hresolve]
    rfl
  · have hkept : Tag.DifferInPassed (.int 0) (required :: later) (required :: later) :=
      .keep required (.keep _ .nil)
    exact .delete (hpassed _ (by simp [passed])) <| .delete (hpassed _ (by simp [passed])) <|
      .delete (hpassed _ (by simp [passed])) hkept

end Validator

end Verdict
