import Verdict.Proofs.Errors.Merging
import Verdict.Proofs.Rule.Binding
import Verdict.Validator.Basic
import Verdict.Value.Basic

/-!
# The walk as a flat list

A walk collects errors record by record, drops repetitions in each, and merges the records from the
inside out. This file says the same without collections and merges: a walk adds one list of events,
each with its full path, in the order in which the fields are met.

## Main definitions

* `Verdict.Value.found` — what is found in a value, part by part.
* `Verdict.Scope.ownError?` — the error that a field has of its own.
* `Verdict.Scope.flatEvents` — the events of a record.

## Main results

* `Verdict.Scope.walk_errors` — a walk adds the events of its record.
* `Verdict.Validator.validate_eq_flatEvents` — so does a validation, to the pending errors.

## Design

The events are said by the depth of a record and the nesting limit, as they are asked for, and not
by the levels that the walk counts down. They end since a record is entered only while the depth is
below the limit.
-/

namespace Verdict

variable {ρ : Type} [HasFields ρ]

namespace Value

variable {α : Type}

mutual

/-- What is found in a value at a path, given what is found in each record: elements of sequences in
order, and of each entry of a map first the key. -/
def found (inRecord : String → ρ → List α) (path : String) : Value ρ → List α
  | .record r => inRecord path r
  | .seq items => foundInItems inRecord path 0 items
  | .map entries => foundInEntries inRecord path entries
  | .absent | .bool _ | .int _ | .uint _ | .float _ | .str _ => []

/-- What is found in the elements of a sequence from a position on. -/
def foundInItems (inRecord : String → ρ → List α) (path : String) (i : Nat) :
    List (Value ρ) → List α
  | [] => []
  | item :: items =>
    found inRecord (path ++ "[" ++ toString i ++ "]") item ++
      foundInItems inRecord path (i + 1) items

/-- What is found in the entries of a map. -/
def foundInEntries (inRecord : String → ρ → List α) (path : String) :
    List (Value ρ × Value ρ) → List α
  | [] => []
  | (key, value) :: entries =>
    found inRecord (path ++ "[" ++ key.text ++ "](key)") key ++
      found inRecord (path ++ "[" ++ key.text ++ "](value)") value ++
        foundInEntries inRecord path entries

end

mutual

/-- What is found in a value is found in the records that it lists. -/
lemma found_eq_flatMap (inRecord : String → ρ → List α) (path : String) : ∀ v : Value ρ,
    v.found inRecord path = (v.records path).flatMap fun met => inRecord met.1 met.2
  | .record r => by simp [found, records]
  | .seq items => by rw [found, records, foundInItems_eq_flatMap]
  | .map entries => by rw [found, records, foundInEntries_eq_flatMap]
  | .absent | .bool _ | .int _ | .uint _ | .float _ | .str _ => by simp [found, records]

/-- So it is for the elements of a sequence. -/
lemma foundInItems_eq_flatMap (inRecord : String → ρ → List α) (path : String) (i : Nat) :
    ∀ items : List (Value ρ), foundInItems inRecord path i items =
      (recordsOfItems path i items).flatMap fun met => inRecord met.1 met.2
  | [] => by simp [foundInItems, recordsOfItems]
  | item :: items => by
    rw [foundInItems, recordsOfItems, found_eq_flatMap, foundInItems_eq_flatMap,
      List.flatMap_append]

/-- So it is for the entries of a map. -/
lemma foundInEntries_eq_flatMap (inRecord : String → ρ → List α) (path : String) :
    ∀ entries : List (Value ρ × Value ρ), foundInEntries inRecord path entries =
      (recordsOfEntries path entries).flatMap fun met => inRecord met.1 met.2
  | [] => by simp [foundInEntries, recordsOfEntries]
  | (key, value) :: entries => by
    rw [foundInEntries, recordsOfEntries, found_eq_flatMap, found_eq_flatMap,
      foundInEntries_eq_flatMap, List.flatMap_append, List.flatMap_append]
    simp only [String.append_assoc]
    rfl

end

end Value

namespace Field

/-- The rule string of a field under a key; a field without one has the empty string. -/
def rulesUnder (f : Field ρ) (key : String) : String := (f.tag? key).getD ""

/-- The clauses of a field: those attached to it, then those of its rule string. -/
def clauses (f : Field ρ) (key : String) : List (String × String) :=
  (f.specs.map fun spec => (spec.name, spec.param)) ++ Clause.split (f.rulesUnder key)

end Field

namespace Scope

/-- The error that a field has of its own: that of its first clause that cannot be bound, or else
that of its first rule that fails. -/
def ownError? (s : Scope ρ) (f : Field ρ) : Option FieldError :=
  match (f.clauses s.tagKey).find? fun clause => !s.registry.knows clause.1 with
  | some clause => some (.unknownRule clause.1)
  | none =>
    (((f.clauses s.tagKey).filterMap s.registry.tag?).find? fun tag =>
      tag.check f.value = .failed).map fun tag => s.resolve f.name tag f.value

/-- The events of a field: its own error, and what is found in its value. A field with the skip mark
has none. -/
def fieldEvents (s : Scope ρ) (inRecord : String → ρ → Entries) (f : Field ρ) : Entries :=
  if f.rulesUnder s.tagKey = skipMark then []
  else ((s.ownError? f).toList.map fun error => (f.name, error)) ++ f.value.found inRecord f.name

/-- The events of a record, with their paths in it: those of its fields in order. A record inside a
value is refused at the nesting limit; below it, its events come behind the path at which it is met.
What has no path is dropped. -/
def flatEvents (s : Scope ρ) (r : ρ) : Entries :=
  ((HasFields.fields r).flatMap <| s.fieldEvents fun path inner =>
    if s.maxDepth ≤ s.depth then [(path, .depthExceeded s.maxDepth)]
    else Entries.under path ((s.child path).flatEvents inner)).filter fun event => event.1 ≠ ""
termination_by s.maxDepth - s.depth
decreasing_by
  simp only [child]
  omega

/-! ### One field -/

omit [HasFields ρ] in
/-- The rules of a field are bound like one list of clauses. -/
lemma bindField_eq (s : Scope ρ) (f : Field ρ) :
    s.bindField f (f.rulesUnder s.tagKey) = s.registry.bindAll (f.clauses s.tagKey) := by
  rw [Field.clauses, Registry.bindAll_append]
  rfl

/-- The error that a field has of its own is not that of a record beyond the nesting limit. -/
lemma ownError?_ne_depthExceeded {s : Scope ρ} {f : Field ρ} {error : FieldError}
    (h : s.ownError? f = some error) (limit : Nat) : error ≠ .depthExceeded limit := by
  rw [ownError?] at h
  split at h
  · rw [← Option.some.inj h]
    simp
  · obtain ⟨tag, -, rfl⟩ := Option.map_eq_some_iff.mp h
    rw [resolve]
    split <;> simp

/-- A rule that does not fail is passed over, and leaves no error. -/
lemma checkField_cons_of_passed (s : Scope ρ) (name : String) {value : Value ρ} {tag : Tag ρ}
    (hpassed : tag.check value ≠ .failed) (j : Journal ρ) :
    ∃ k : Journal ρ, k.errors = j.errors ∧
      ∀ tags, s.checkField name value (tag :: tags) j = s.checkField name value tags k := by
  cases hcheck : tag.check value with
  | failed => exact absurd hcheck hpassed
  | valid | unsupported | badParameter =>
    refine ⟨_, ?_, fun tags => by rw [checkField, hcheck]⟩
    rfl

/-- Running the rules of a field adds the error of the first one that fails.

**Proof sketch.** Induction on the rules. The first one is passed over and leaves no error, or it
fails and its error is the one that is added. -/
lemma checkField_errors (s : Scope ρ) (name : String) (value : Value ρ) (tags : List (Tag ρ))
    (j : Journal ρ) : (s.checkField name value tags j).2.errors =
      j.errors.extend (((tags.find? fun tag => tag.check value = .failed).map fun tag =>
        s.resolve name tag value).toList.map fun error => (name, error)) := by
  induction tags generalizing j with
  | nil => rfl
  | cons tag tags ih =>
    by_cases hfailed : tag.check value = .failed
    · rw [List.find?_cons_of_pos (by simpa using hfailed), checkField, hfailed]
      rfl
    · obtain ⟨k, hk, hrest⟩ := s.checkField_cons_of_passed name hfailed j
      rw [List.find?_cons_of_neg (by simpa using hfailed), hrest, ih, hk]

omit [HasFields ρ] in
/-- A function that goes through a list and adds errors for each member adds them all. -/
lemma foldl_errors {β : Type} {step : Journal ρ → β → Journal ρ} {events : β → Entries}
    (hstep : ∀ j b, (step j b).errors = j.errors.extend (events b)) (l : List β) (j : Journal ρ) :
    (l.foldl step j).errors = j.errors.extend (l.flatMap events) := by
  induction l generalizing j with
  | nil => rfl
  | cons b l ih => rw [List.foldl_cons, ih, hstep, List.flatMap_cons, Errors.extend_append]

/-- Visiting a field adds its events, if meeting a record adds what is found there.

**Proof sketch.** A field with the skip mark has no events. Otherwise its rules are bound like one
list of clauses, and what is added is the error for the first clause that is unknown, or for the
first rule that fails (`checkField_errors`). The records in the value add what is found in them, one
after the other. -/
lemma visit_errors (s : Scope ρ) {meet : String → ρ → Journal ρ → Journal ρ}
    {inRecord : String → ρ → Entries}
    (hmeet : ∀ path inner j, (meet path inner j).errors = j.errors.extend (inRecord path inner))
    (j : Journal ρ) (f : Field ρ) :
    (s.visit meet j f).errors = j.errors.extend (s.fieldEvents inRecord f) := by
  have hraw : (f.tag? s.tagKey).getD "" = f.rulesUnder s.tagKey := rfl
  rw [visit, fieldEvents, hraw]
  dsimp only
  split_ifs with hskip
  · rfl
  · rw [foldl_errors fun j met => hmeet met.1 met.2 j, ← Value.found_eq_flatMap,
      Errors.extend_append, bindField_eq, Registry.bindAll_eq, ownError?]
    congr 1
    cases (f.clauses s.tagKey).find? fun clause => !s.registry.knows clause.1 with
    | some clause => rfl
    | none => exact checkField_errors s f.name f.value _ j

/-! ### Whole walks -/

omit [HasFields ρ] in
/-- Entering a record adds no errors. -/
lemma enter_errors (s : Scope ρ) (path : String) (j : Journal ρ) :
    (s.enter path j).errors = j.errors := by
  rw [enter]
  cases s.lang? <;> rfl

/-- The events of a record have paths. -/
lemma empty_notMem_flatEvents (s : Scope ρ) (r : ρ) : "" ∉ (s.flatEvents r).paths := by
  rw [flatEvents]
  intro h
  obtain ⟨event, hevent, hpath⟩ := List.mem_map.mp h
  have := (List.mem_filter.mp hevent).2
  simp [hpath] at this

/-- A walk adds the events of its record.

**Proof sketch.** Induction on the levels that are left. Visiting a field adds its events as soon as
meeting a record adds the events found in it (`visit_errors`). Without levels left this is the
refusal. Otherwise the record is walked by itself, which by induction collects the list of its
events, and merging that collection adds the list (`Errors.appendScoped_ofList`). -/
lemma walk_errors (levels : Nat) (s : Scope ρ) (hlevels : levels = s.maxDepth - s.depth) (r : ρ)
    (j : Journal ρ) : (s.walk levels r j).errors = j.errors.extend (s.flatEvents r) := by
  induction levels generalizing s r j with
  | zero =>
    rw [walk, flatEvents, Errors.extend_filter]
    apply foldl_errors
    apply visit_errors
    intro path inner j
    rw [if_pos (by omega), Errors.extend_singleton]
    rfl
  | succ levels ih =>
    rw [walk, flatEvents, Errors.extend_filter]
    apply foldl_errors
    apply visit_errors
    intro path inner j
    have hbelow : levels = (s.child path).maxDepth - (s.child path).depth := by
      simp only [child]
      omega
    dsimp only
    rw [if_neg (by omega), ih _ hbelow, enter_errors]
    exact Errors.appendScoped_ofList _ _ (empty_notMem_flatEvents _ inner)

end Scope

namespace Validator

/-- What is returned by a validation is the pending errors with the events of the record added to
them. -/
lemma result_validate (v : Validator ρ) (r : ρ) :
    (v.validate r).result = v.errors.extend (v.scope.flatEvents r) :=
  v.scope.walk_errors _ rfl r { errors := v.errors }

/-- So the events are added to the list of the pending errors. -/
lemma toList_validate (v : Validator ρ) (r : ρ) :
    (v.validate r).result.toList = Entries.extend v.errors.toList (v.scope.flatEvents r) := by
  rw [result_validate, Errors.toList_extend]

/-- Without pending errors, the error of a path is that of the first event with this path.

**Proof sketch.** No error is at the empty path on either side. At any other path, the first of the
events that are added to nothing counts (`Entries.get?_extend`). -/
lemma get?_validate (v : Validator ρ) (hnone : v.errors.isEmpty = true) (r : ρ) (path : String) :
    (v.validate r).result.get? path = Entries.get? (v.scope.flatEvents r) path := by
  rw [Errors.get?_eq]
  by_cases hpath : path = ""
  · subst hpath
    rw [Entries.get?_eq_none (Errors.empty_notMem _),
      Entries.get?_eq_none (v.scope.empty_notMem_flatEvents r)]
  · rw [toList_validate, Errors.isEmpty_iff.mp hnone, Entries.get?_extend [] _ hpath]
    rfl

/-- Without pending errors, the paths with an error are those of the events. -/
lemma mem_paths_validate (v : Validator ρ) (hnone : v.errors.isEmpty = true) (r : ρ)
    (path : String) :
    path ∈ (v.validate r).result.paths ↔ path ∈ Entries.paths (v.scope.flatEvents r) := by
  rw [Entries.mem_paths_iff, ← get?_validate v hnone, Errors.get?_eq]
  exact Entries.mem_paths_iff

end Validator

end Verdict
