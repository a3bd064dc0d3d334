import Mathlib.Data.List.Find
import Verdict.Proofs.Rule.Builtin
import Verdict.Proofs.Walk.Flat

/-!
# Where validation stops to look

Validation ends on all records, also on those that contain themselves. With the built-in rules it
does not even tell them from finite ones: it enters records up to the nesting limit, and the rules
and messages of the last record that it enters print values, which looks further into them by the
depth of printing. What is below does not matter.

## Main definitions

* `Verdict.Scope.onRecords`, `Verdict.Validator.onRecords` — the same settings over unfolded
  records.

## Main results

* `Verdict.Scope.flatEvents_onRecords` — the events of a record and of its unfolding.
* `Verdict.Validator.validate_cutOff` — records that agree as far as is looked have the same errors.

## Design

Records are on levels, with the record that is validated on level 0 and the records in the values of
a record one level below it. Two records agree down to a level if they unfold to one record there,
so both are compared to their unfolding. An unfolding is a record of another type than what it
unfolds, and rules are functions on values over one type of records. So the validator of an
unfolding is not the same one, but has the built-in rules of the same numbers and all else the same.
-/

namespace Verdict

open Record

variable {ρ : Type} [HasFields ρ]

namespace Value

variable {α : Type} {levels : Nat}

mutual

/-- What is found in a value with its records unfolded. The paths are the same since they show keys
as they print. -/
lemma found_mapRecords (h : printDepth ≤ levels) (inRecord : String → Record → List α)
    (path : String) : ∀ v : Value ρ, (v.mapRecords (unfolding levels)).found inRecord path =
      v.found (fun path r => inRecord path (unfolding levels r)) path
  | .record r => by rw [mapRecords, found, found]
  | .seq items => by rw [mapRecords, found, found, foundInItems_mapRecords h]
  | .map entries => by rw [mapRecords, found, found, foundInEntries_mapRecords h]
  | .absent | .bool _ | .int _ | .uint _ | .float _ | .str _ => by simp only [mapRecords, found]

/-- What is found in the elements of a sequence with their records unfolded. -/
lemma foundInItems_mapRecords (h : printDepth ≤ levels) (inRecord : String → Record → List α)
    (path : String) (i : Nat) : ∀ items : List (Value ρ),
      foundInItems inRecord path i (mapRecordsInItems (unfolding levels) items) =
        foundInItems (fun path r => inRecord path (unfolding levels r)) path i items
  | [] => rfl
  | item :: items => by
    rw [mapRecordsInItems, foundInItems, foundInItems, found_mapRecords h,
      foundInItems_mapRecords h]

/-- What is found in the entries of a map with their records unfolded. -/
lemma foundInEntries_mapRecords (h : printDepth ≤ levels) (inRecord : String → Record → List α)
    (path : String) : ∀ entries : List (Value ρ × Value ρ),
      foundInEntries inRecord path (mapRecordsInEntries (unfolding levels) entries) =
        foundInEntries (fun path r => inRecord path (unfolding levels r)) path entries
  | [] => rfl
  | (key, value) :: entries => by
    rw [mapRecordsInEntries, foundInEntries, foundInEntries, text_mapRecords h, found_mapRecords h,
      found_mapRecords h, foundInEntries_mapRecords h]

end

end Value

namespace Scope

/-- A scope with its rules over unfolded records. -/
def onRecords (s : Scope ρ) : Scope Record :=
  { module := s.module
    tagKey := s.tagKey
    registry := s.registry.onRecords
    lang? := s.lang?
    messages := s.messages
    provider := s.provider
    defaults := s.defaults
    maxDepth := s.maxDepth
    depth := s.depth }

variable {s : Scope ρ} {levels : Nat}

/-- The message of a rule shows its value as it prints. -/
lemma resolve_onRecords (h : printDepth ≤ levels) (name : String) (tag : Tag ρ) (v : Value ρ) :
    s.onRecords.resolve name tag.onRecords (v.mapRecords (unfolding levels)) =
      s.resolve name tag v := by
  rw [resolve, resolve, Value.text_mapRecords h]
  rfl

/-- A field has the same error of its own when the records in its value are unfolded.

**Proof sketch.** The clauses of the field are the same, and so are the ones that are known. Each
rule says the same of the value and of the value with its records unfolded (`Rule.check_onRecords`),
so the first failure is that of the same rule, and its message shows the same text. -/
lemma ownError?_onRecords (hbuiltin : s.registry.OnlyBuiltins) (h : printDepth ≤ levels)
    (f : Field ρ) :
    s.onRecords.ownError? (f.mapRecords (unfolding levels)) = s.ownError? f := by
  have hclauses : (f.mapRecords (unfolding levels)).clauses s.onRecords.tagKey =
      f.clauses s.tagKey := rfl
  have hknown : (fun clause : String × String => !s.onRecords.registry.knows clause.1) =
      fun clause => !s.registry.knows clause.1 := by
    funext clause
    exact congrArg _ (s.registry.knows_onRecords clause.1)
  have htags : (f.clauses s.tagKey).filterMap s.onRecords.registry.tag? =
      ((f.clauses s.tagKey).filterMap s.registry.tag?).map Tag.onRecords := by
    rw [List.map_filterMap]
    congr 1
    funext clause
    exact s.registry.tag?_onRecords clause
  rw [ownError?, ownError?, hclauses, hknown, htags]
  cases (f.clauses s.tagKey).find? fun clause => !s.registry.knows clause.1 with
  | some clause => rfl
  | none =>
    -- each tag says the same of the value and of the value with its records unfolded
    have hcheck : ∀ tag ∈ (f.clauses s.tagKey).filterMap s.registry.tag?,
        tag.onRecords.check (f.mapRecords (unfolding levels)).value = tag.check f.value := by
      intro tag htag
      obtain ⟨clause, -, hclause⟩ := List.mem_filterMap.mp htag
      obtain ⟨builtin, hrule⟩ := hbuiltin.rule_mem hclause
      exact Rule.check_onRecords hrule h f.value tag.param
    have hfind : ((f.clauses s.tagKey).filterMap s.registry.tag?).find?
          ((fun tag => tag.check (f.mapRecords (unfolding levels)).value = .failed) ∘
            Tag.onRecords) =
        ((f.clauses s.tagKey).filterMap s.registry.tag?).find?
          fun tag => tag.check f.value = .failed := by
      apply List.find?_congr
      intro tag htag
      rw [Function.comp_apply, hcheck tag htag]
    dsimp only
    rw [List.find?_map, hfind, Option.map_map]
    apply Option.map_congr
    intro tag _
    exact resolve_onRecords h f.name tag f.value

/-- A field has the same events when the records in its value are unfolded, if so does each of these
records.

**Proof sketch.** Whether the field is skipped is decided by its rules. Its own error is the same,
and the records in its value are met in the same order, at paths that show keys as they print. -/
lemma fieldEvents_onRecords (hbuiltin : s.registry.OnlyBuiltins) (h : printDepth ≤ levels)
    {inUnfolding : String → Record → Entries} {inRecord : String → ρ → Entries}
    (hinner : ∀ path inner, inUnfolding path (unfolding levels inner) = inRecord path inner)
    (f : Field ρ) :
    s.onRecords.fieldEvents inUnfolding (f.mapRecords (unfolding levels)) =
      s.fieldEvents inRecord f := by
  have hrules : (f.mapRecords (unfolding levels)).rulesUnder s.onRecords.tagKey =
      f.rulesUnder s.tagKey := rfl
  have hfound : (f.mapRecords (unfolding levels)).value.found inUnfolding f.name =
      f.value.found inRecord f.name := by
    rw [Field.mapRecords, Value.found_mapRecords h]
    congr 1
    funext path inner
    exact hinner path inner
  rw [fieldEvents, fieldEvents, hrules, ownError?_onRecords hbuiltin h]
  split_ifs with hskip
  · rfl
  · exact congrArg _ hfound

/-- A record and its unfolding have the same events, if the unfolding goes below the records that
can be entered by more than the depth of printing.

**Proof sketch.** Induction on how many levels of records can still be entered. The values of the
fields print alike since the unfolding goes below the record by more than they print. A record in a
value is refused, whatever it is, or it is entered, with one level less to enter and one level less
of the unfolding. -/
lemma flatEvents_onRecords (hbuiltin : s.registry.OnlyBuiltins)
    (h : s.maxDepth - s.depth + printDepth < levels) (r : ρ) :
    s.onRecords.flatEvents (unfolding levels r) = s.flatEvents r := by
  induction hleft : s.maxDepth - s.depth generalizing s levels r with
  | zero =>
    obtain ⟨levels, rfl⟩ : ∃ k, levels = k + 1 := ⟨levels - 1, by omega⟩
    have hrefused : s.maxDepth ≤ s.depth := by omega
    rw [flatEvents, flatEvents, fields_unfolding, List.flatMap_map]
    congr 1
    apply List.flatMap_congr
    intro f _
    apply fieldEvents_onRecords hbuiltin (by omega)
    intro path inner
    rw [if_pos hrefused]
    exact if_pos hrefused
  | succ left ih =>
    obtain ⟨levels, rfl⟩ : ∃ k, levels = k + 1 := ⟨levels - 1, by omega⟩
    have hentered : ¬s.maxDepth ≤ s.depth := by omega
    rw [flatEvents, flatEvents, fields_unfolding, List.flatMap_map]
    congr 1
    apply List.flatMap_congr
    intro f _
    apply fieldEvents_onRecords hbuiltin (by omega)
    intro path inner
    have hchild : (s.child path).maxDepth - (s.child path).depth = left := by
      simp only [child]
      omega
    have hbelow : (s.child path).maxDepth - (s.child path).depth + printDepth < levels := by omega
    have hbuiltin' : (s.child path).registry.OnlyBuiltins := hbuiltin
    rw [if_neg hentered, ← ih hbuiltin' hbelow inner hchild]
    exact if_neg hentered

end Scope

namespace Validator

/-- A validator with its rules over unfolded records. -/
def onRecords (v : Validator ρ) : Validator Record :=
  { scope := v.scope.onRecords, errors := v.errors }

/-- How many levels of records a validation looks at: those it enters, from level 0 to the nesting
limit, and those that print below the last of them. -/
def levelsSeen (v : Validator ρ) : Nat := v.scope.maxDepth + printDepth + 1

/-- **A validation with the built-in rules cannot tell records apart that agree on the levels that
it looks at.** So two such records have the same errors, and a record, though it may contain itself,
has the errors of its finite unfolding.

**Proof sketch.** The events of a record are those of its unfolding (`Scope.flatEvents_onRecords`),
since the levels of the unfolding are one more than can be entered and print. So the record has the
errors of its unfolding, and records with one unfolding have the same. -/
theorem validate_cutOff (v : Validator ρ) (hbuiltin : v.scope.registry.OnlyBuiltins) :
    (∀ r q : ρ, unfolding v.levelsSeen r = unfolding v.levelsSeen q →
        (v.validate r).result = (v.validate q).result) ∧
      ∀ r : ρ,
        (v.validate r).result = (v.onRecords.validate (unfolding v.levelsSeen r)).result := by
  have hunfolding (r : ρ) :
      (v.validate r).result = (v.onRecords.validate (unfolding v.levelsSeen r)).result := by
    have hevents : v.onRecords.scope.flatEvents (unfolding v.levelsSeen r) =
        v.scope.flatEvents r := by
      apply Scope.flatEvents_onRecords hbuiltin
      rw [levelsSeen]
      omega
    rw [result_validate, result_validate, hevents]
    rfl
  refine ⟨fun r q hagree => ?_, hunfolding⟩
  rw [hunfolding r, hunfolding q, hagree]

/-- A record that contains itself has the errors of a finite record, which it unfolds to. -/
theorem validate_cyclic :
    let v : Validator Record := .new "Node"
    let r : Record := .cyclic [⟨"Name", .str "", [("validate", "required,inList=a")], []⟩]
      ⟨"Next", [("validate", "inList=b")], []⟩
    v.scope.registry.OnlyBuiltins ∧ v.levelsSeen = 41 ∧
      (v.validate r).result = (v.validate (unfolding 41 r)).result := by
  intro v r
  have hbuiltin : v.scope.registry.OnlyBuiltins := Registry.onlyBuiltins_builtins
  have hagree : unfolding v.levelsSeen r = unfolding v.levelsSeen (unfolding 41 r) :=
    (unfolding_unfolding le_rfl r).symm
  exact ⟨hbuiltin, rfl, (validate_cutOff v hbuiltin).1 r (unfolding 41 r) hagree⟩

end Validator

end Verdict
