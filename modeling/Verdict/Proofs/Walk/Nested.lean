import Verdict.Proofs.Validator.Runs
import Verdict.Proofs.Walk.Noticed

/-!
# Nested records on their own

A record inside a value is walked in a scope of its own, which is made from the scope around it.
This file says that nothing is handed down but what any new validator may be given: the errors that
a walk collects in a nested record are those that a new validator returns for it, with the path of
the record as its module and with the part of the nesting limit that is left. Only the limit that an
error names is that of the whole walk.

## Main definitions

* `Verdict.Errors.withLimit` — the same errors with another nesting limit in them.
* `Verdict.Scope.deeper` — the same settings deeper inside, under a limit that is as much greater.
* `Verdict.Scope.below` — what is collected in a record that is met.
* `Verdict.Scope.alone` — a new validator for such a record.

## Main results

* `Verdict.Scope.flatEvents_deeper` — what a walk finds does not depend on how deep it starts.
* `Verdict.Scope.below_errors_eq_alone` — what is collected in a nested record.
* `Verdict.Validator.validate_compositional` — validation by parts.

## Design

Scopes at any depth are compared with scopes at depth 0 by moving the depth and the nesting limit
together, so that the levels that are left stay the same.
-/

namespace Verdict

variable {ρ : Type}

/-- The same error; if it is that of a record beyond the nesting limit, another limit is named. -/
def FieldError.withLimit (limit : Nat) : FieldError → FieldError
  | .depthExceeded _ => .depthExceeded limit
  | .message text => .message text
  | .failed => .failed
  | .unknownRule name => .unknownRule name

/-- The same entries with another nesting limit in their errors. -/
def Entries.withLimit (limit : Nat) (l : Entries) : Entries :=
  l.map fun entry => (entry.1, entry.2.withLimit limit)

/-- The index of errors stays in step when other errors are put at the same paths. -/
lemma Errors.indexed_map (e : Errors) (g : FieldError → FieldError) :
    Indexed ((e.entries.map fun entry => (entry.1, g entry.2)).toList.map (·.1)) e.index := by
  rw [Array.toList_map, List.map_map]
  exact e.indexed

/-- The same errors with another nesting limit in them. -/
def Errors.withLimit (limit : Nat) (e : Errors) : Errors where
  entries := e.entries.map fun entry => (entry.1, entry.2.withLimit limit)
  index := e.index
  indexed := e.indexed_map (FieldError.withLimit limit)

/-- The depth at which a record is entered, if an event is the notice of that. -/
def Event.enteredDepth? : Event ρ → Option Nat
  | .noticed (.descending _ _ depth) => some depth
  | .noticed _ | .checked _ _ | .requested _ _ => none

/-! ### Other limits in errors -/

/-- An error of another kind stays. -/
lemma FieldError.withLimit_eq_self {e : FieldError} (h : ∀ limit, e ≠ .depthExceeded limit)
    (limit : Nat) : e.withLimit limit = e := by
  cases e with
  | depthExceeded limit => exact absurd rfl (h limit)
  | message | failed | unknownRule => rfl

/-- Moving paths and naming another limit do not get into each other's way. -/
lemma Entries.withLimit_under (limit : Nat) (scope : String) (l : Entries) :
    withLimit limit (under scope l) = under scope (withLimit limit l) := by
  simp [under, withLimit]

/-- Another limit leaves the paths as they are. -/
lemma Entries.paths_withLimit (limit : Nat) (l : Entries) :
    paths (withLimit limit l) = paths l := by
  simp [paths, withLimit]

/-- Entries are taken out by their paths as well with another limit. -/
lemma Entries.withLimit_filter (limit : Nat) (l : Entries) :
    withLimit limit (l.filter fun entry => entry.1 ≠ "") =
      (withLimit limit l).filter fun entry => entry.1 ≠ "" := by
  rw [withLimit, withLimit, List.filter_map]
  rfl

namespace Errors

variable {limit : Nat}

/-- The entries of a collection with another limit are its entries with another limit. -/
lemma toList_withLimit (e : Errors) :
    (e.withLimit limit).toList = Entries.withLimit limit e.toList := by
  simp [withLimit, toList, Entries.withLimit]

/-- Whether an error is taken does not depend on its limit.

**Proof sketch.** Whether an error is taken is a matter of its path and of the index, and neither
names a limit. -/
lemma withLimit_record (e : Errors) (path : String) (error : FieldError) :
    (e.record path error).withLimit limit =
      (e.withLimit limit).record path (error.withLimit limit) := by
  by_cases htaken : (path.isEmpty || e.contains path) = true
  · have htaken' : (path.isEmpty || (e.withLimit limit).contains path) = true := htaken
    rw [record_of_taken htaken, record_of_taken htaken']
  · have hfree' : ¬(path.isEmpty || (e.withLimit limit).contains path) = true := htaken
    rw [record, record, add, add, dif_neg htaken, dif_neg hfree']
    simp [withLimit]

/-- Adding errors with another limit adds the errors, with another limit. -/
lemma withLimit_extend (e : Errors) (l : Entries) :
    (e.extend l).withLimit limit = (e.withLimit limit).extend (Entries.withLimit limit l) := by
  induction l generalizing e with
  | nil => rfl
  | cons item l ih =>
    have hcons : Entries.withLimit limit (item :: l) =
        (item.1, item.2.withLimit limit) :: Entries.withLimit limit l := rfl
    rw [extend_cons, ih, withLimit_record, hcons, extend_cons]

/-- A collection of a list with other limits is the collection of the list, with other limits. -/
lemma withLimit_ofList (l : Entries) :
    (ofList l).withLimit limit = ofList (Entries.withLimit limit l) := by
  have hempty : empty.withLimit limit = empty := by simp [withLimit, empty]
  rw [ofList, withLimit_extend, hempty, ofList]

end Errors

namespace Scope

/-- The same settings deeper inside, under a nesting limit that is as much greater. -/
def deeper (s : Scope ρ) (k : Nat) : Scope ρ :=
  { s with maxDepth := s.maxDepth + k, depth := s.depth + k }

/-- What a new validator is given for a record that is met at a path. -/
def setupBelow (s : Scope ρ) (path : String) : Setup where
  module := path
  provider := s.provider
  defaults := s.defaults
  maxDepth := s.maxDepth - s.depth - 1

variable [HasFields ρ]

/-- A new validator for a record that is met at a path: the path is its module, and its nesting
limit is what is left below the record. -/
def alone (s : Scope ρ) (path : String) : Validator ρ :=
  (s.setupBelow path).build s.tagKey s.registry s.lang?

/-- What is collected in a record that is met at a path below the nesting limit: the record is
walked in a scope of its own, from no errors on. -/
def below (s : Scope ρ) (path : String) (inner : ρ) (events : Array (Event ρ)) : Journal ρ :=
  (s.child path).walk (s.maxDepth - s.depth - 1) inner { events := events }

/-- Meet a record below the nesting limit: enter it, and merge what is collected in it. -/
def meet (s : Scope ρ) (path : String) (inner : ρ) (j : Journal ρ) : Journal ρ :=
  let j := s.enter path j
  let below := s.below path inner j.events
  { errors := j.errors.appendScoped path below.errors, events := below.events }

/-- Meet a record by merging what a new validator returns for it. -/
def meetAlone (s : Scope ρ) (path : String) (inner : ρ) (j : Journal ρ) : Journal ρ :=
  let below := ((s.alone path).validate inner).result
  { j with errors := j.errors.appendScoped path (below.withLimit s.maxDepth) }

variable {s : Scope ρ}

/-- Below the nesting limit, a walk visits the fields of its record and meets the records in
them.

**Proof sketch.** There is a level left, so the walk meets records by entering them; and the walk
that it makes in each is the one of `below`, with one level less. -/
lemma walk_eq_foldl_meet (hdepth : s.depth < s.maxDepth) (r : ρ) (j : Journal ρ) :
    s.walk (s.maxDepth - s.depth) r j = (HasFields.fields r).foldl (s.visit s.meet) j := by
  obtain ⟨levels, hlevels⟩ : ∃ levels, s.maxDepth - s.depth = levels + 1 :=
    ⟨s.maxDepth - s.depth - 1, by omega⟩
  have hmeet : s.meet = fun path inner j =>
      let j := s.enter path j
      let below := (s.child path).walk levels inner { events := j.events }
      { errors := j.errors.appendScoped path below.errors, events := below.events } := by
    funext path inner j
    rw [meet, below, hlevels]
    rfl
  rw [hlevels, walk, hmeet]

/-! ### Depth and limit together -/

/-- A field that is visited deeper inside has the same events but for the limit, if so has each
record in its value.

**Proof sketch.** The own error of a field is none for being too deep, so that naming another limit
changes nothing in it. In the records of its value it changes what is found as assumed. -/
lemma fieldEvents_deeper {k limit : Nat} {inDeeper inRecord : String → ρ → Entries}
    (hinner : ∀ path inner, inDeeper path inner = Entries.withLimit limit (inRecord path inner))
    (f : Field ρ) :
    (s.deeper k).fieldEvents inDeeper f = Entries.withLimit limit (s.fieldEvents inRecord f) := by
  have hown : (s.deeper k).ownError? f = s.ownError? f := rfl
  have htagKey : (s.deeper k).tagKey = s.tagKey := rfl
  rw [fieldEvents, fieldEvents, hown, htagKey]
  split_ifs with hskip
  · rfl
  · rw [Entries.withLimit, List.map_append, Value.found_eq_flatMap, Value.found_eq_flatMap,
      List.map_flatMap, List.map_map]
    congr 1
    · apply List.map_congr_left
      intro error herror
      have hkind := ownError?_ne_depthExceeded (Option.mem_toList.mp herror)
      rw [Function.comp_apply, FieldError.withLimit_eq_self hkind]
    · apply List.flatMap_congr
      intro met _
      exact hinner met.1 met.2

/-- What a walk finds does not depend on how deep inside it starts, as long as the levels that are
left are the same; only the limit is another one.

**Proof sketch.** Induction on the levels that are left. The errors of the fields themselves know
neither depth nor limit. A record in their values is refused in both walks, and names the limit, or
it is entered in both, in scopes that are apart by the same distance. -/
lemma flatEvents_deeper (s : Scope ρ) (k : Nat) (r : ρ) :
    (s.deeper k).flatEvents r = Entries.withLimit (s.maxDepth + k) (s.flatEvents r) := by
  induction hlevels : s.maxDepth - s.depth using Nat.strongRecOn generalizing s r with
  | _ levels ih =>
    rw [flatEvents, flatEvents, Entries.withLimit_filter, Entries.withLimit, List.map_flatMap]
    congr 1
    apply List.flatMap_congr
    intro f _
    apply fieldEvents_deeper
    intro path inner
    have hlimit : (s.deeper k).maxDepth ≤ (s.deeper k).depth ↔ s.maxDepth ≤ s.depth := by
      simp only [deeper]
      omega
    simp only [hlimit]
    split_ifs with hrefused
    · rfl
    · have hchild : (s.deeper k).child path = (s.child path).deeper k := by
        simp only [child, deeper, Nat.add_right_comm]
      have hlevel : (s.child path).maxDepth - (s.child path).depth < levels := by
        simp only [child]
        omega
      rw [hchild, ih _ hlevel (s.child path) inner rfl, Entries.withLimit_under]
      rfl

/-! ### Nested records -/

/-- The scope of a nested record is that of the new validator for it, deeper inside.

**Proof sketch.** The new validator has the module, the rules and the messages of the nested record,
at depth zero with the levels that are left. Moved deeper by the depth of the nested record, it has
its depth, and the limit of the whole walk. -/
lemma child_eq_deeper (hlang : s.lang? ≠ some "") (hdepth : s.depth < s.maxDepth) (path : String) :
    s.child path = (s.alone path).scope.deeper (s.depth + 1) := by
  have hmaxDepth : s.maxDepth - s.depth - 1 + (s.depth + 1) = s.maxDepth := by omega
  rw [alone, Setup.build_scope _ _ _ hlang]
  cases hcode : s.lang? with
  | none => simp only [child, deeper, Setup.scope, setupBelow, hmaxDepth, Nat.zero_add, hcode]
  | some lang => simp only [child, deeper, Setup.scope, setupBelow, hmaxDepth, Nat.zero_add, hcode]

/-- What is collected in a nested record is what the new validator for it returns.

**Proof sketch.** The scope of the nested record is that of the new validator, deeper inside
(`child_eq_deeper`), so that what is found differs in the limit only (`flatEvents_deeper`). The new
validator has no pending errors, so it returns just that. -/
lemma below_errors_eq_alone (hlang : s.lang? ≠ some "") (hdepth : s.depth < s.maxDepth)
    (path : String) (inner : ρ) (events : Array (Event ρ)) :
    (s.below path inner events).errors =
      ((s.alone path).validate inner).result.withLimit s.maxDepth := by
  have hlevels : s.maxDepth - s.depth - 1 = (s.child path).maxDepth - (s.child path).depth := by
    simp only [child]
    omega
  have hmaxDepth : (s.alone path).scope.maxDepth + (s.depth + 1) = s.maxDepth := by
    have hleft : (s.alone path).scope.maxDepth = s.maxDepth - s.depth - 1 := by
      rw [alone, Setup.build_scope _ _ _ hlang]
      rfl
    omega
  have hevents : (s.child path).flatEvents inner =
      Entries.withLimit s.maxDepth ((s.alone path).scope.flatEvents inner) := by
    rw [child_eq_deeper hlang hdepth, flatEvents_deeper, hmaxDepth]
  have hnew : (s.alone path).errors = Errors.empty := Setup.build_errors _ _ _ _
  rw [below, walk_errors _ _ hlevels, hevents, Validator.result_validate, hnew]
  exact (Errors.withLimit_ofList _).symm

/-- It makes no difference to the errors whether a nested record is walked or validated by a new
validator. -/
lemma meet_errors_eq_meetAlone (hlang : s.lang? ≠ some "") (hdepth : s.depth < s.maxDepth)
    (path : String) (inner : ρ) (j : Journal ρ) :
    (s.meet path inner j).errors = (s.meetAlone path inner j).errors := by
  rw [meet, meetAlone, below_errors_eq_alone hlang hdepth, enter_errors]

/-- A new validator adds what it finds in its record.

**Proof sketch.** What a new validator returns is the collection of the events of the record.
Merging a collection of a list adds the list, with its paths moved (`Errors.appendScoped_ofList`).
-/
lemma meetAlone_errors (path : String) (inner : ρ) (j : Journal ρ) :
    (s.meetAlone path inner j).errors = j.errors.extend (Entries.under path
      (Entries.withLimit s.maxDepth ((s.alone path).scope.flatEvents inner))) := by
  have hnew : (s.alone path).errors = Errors.empty := Setup.build_errors _ _ _ _
  have hpaths : "" ∉ Entries.paths
      (Entries.withLimit s.maxDepth ((s.alone path).scope.flatEvents inner)) := by
    rw [Entries.paths_withLimit]
    exact empty_notMem_flatEvents _ inner
  rw [meetAlone, Validator.result_validate, hnew]
  dsimp only
  rw [← Errors.ofList, Errors.withLimit_ofList, Errors.appendScoped_ofList _ _ hpaths]

/-- In a walk, records are entered at depths within the nesting limit.

**Proof sketch.** Records are entered below the limit, at a depth that is one more than the one
around them. -/
lemma keptBy_enteredDepth (limit : Nat) :
    KeptBy (ρ := ρ) (fun event => ∀ depth ∈ event.enteredDepth?, depth ≤ limit)
      fun s _ => s.maxDepth = limit where
  own event hown depth hdepth := by
    cases event with
    | checked | requested => contradiction
    | noticed n => cases n <;> contradiction
  refused s r _ _ f _ met _ depth hdepth := by contradiction
  entered s r hlimit hbelow f _ met _ := by
    refine ⟨hlimit, fun depth hdepth => ?_, fun lang depth hdepth => by contradiction⟩
    obtain rfl : s.depth + 1 = depth := Option.some.inj hdepth
    omega

end Scope

namespace Validator

variable [HasFields ρ]

/-- **Validation is compositional.** For a validator at any depth below its nesting limit:

* Its walk visits the fields of a record, and merges what is collected in each record that it meets
  in them, under the path at which this is met.
* What is collected there is what a new validator returns for the record that is met, with the path
  as its module, the same rule-string key, registry, sources of messages and language, and the
  nesting limit that is left; only the errors name the limit of the whole walk.
* So a validation visits the fields of its record, and merges what new validators return.
* No record is entered at a depth beyond the nesting limit.

**Proof sketch.** The walk meets records by `meet` (`Scope.walk_eq_foldl_meet`), which collects what
a new validator returns (`Scope.below_errors_eq_alone`). So meeting a record this way or by
`meetAlone` adds the same errors, and visiting all fields does, too. The bound on depths is kept by
every step of a walk (`Scope.keptBy_enteredDepth`). -/
theorem validate_compositional (v : Validator ρ) (hlang : v.scope.lang? ≠ some "")
    (hdepth : v.scope.depth < v.scope.maxDepth) :
    (∀ r j, v.scope.walk (v.scope.maxDepth - v.scope.depth) r j =
        (HasFields.fields r).foldl (v.scope.visit v.scope.meet) j) ∧
      (∀ path inner events, (v.scope.below path inner events).errors =
        ((v.scope.alone path).validate inner).result.withLimit v.scope.maxDepth) ∧
      (∀ r, (v.validate r).result = ((HasFields.fields r).foldl (v.scope.visit v.scope.meetAlone)
        { errors := v.errors }).errors) ∧
      ∀ r, ∀ event ∈ (v.validate r).events, ∀ depth ∈ event.enteredDepth?,
        depth ≤ v.scope.maxDepth := by
  refine ⟨Scope.walk_eq_foldl_meet hdepth, Scope.below_errors_eq_alone hlang hdepth, fun r => ?_,
    fun r => (Scope.keptBy_enteredDepth v.scope.maxDepth).validate v rfl⟩
  have hmeet (path : String) (inner : ρ) (j : Journal ρ) :=
    (Scope.meet_errors_eq_meetAlone hlang hdepth path inner j).trans
      (Scope.meetAlone_errors path inner j)
  rw [validate, Scope.walk_eq_foldl_meet hdepth]
  dsimp only
  rw [Scope.foldl_errors (v.scope.visit_errors hmeet),
    Scope.foldl_errors (v.scope.visit_errors Scope.meetAlone_errors)]

/-- A validator at depth 1 under the limit 2, with a language and a pending error. The new validator
for a record that it meets has no levels left, so the record inside is refused, but the error names
the limit of the whole walk.

**Proof sketch.** The errors of the record alone are computed, and the law says that those under the
place are these with the limit named anew. -/
theorem validate_compositional_localized :
    let catalog : Catalog := [("de", [("default.error.required", "$\x7b0\x7d: $\x7b1\x7d fehlt")])]
    let setup : Setup := ⟨"Order", catalog.provider, .builtin, 2⟩
    let scope : Scope Record :=
      { setup.scope "validate" .builtins (some "de") with depth := 1 }
    let v : Validator Record := ⟨scope, Errors.empty.record "Items[0]" .failed⟩
    let inner : Record := .plain
      [⟨"Name", .absent, [("validate", "required")], []⟩,
        ⟨"Part", .record (.plain []), [], []⟩]
    v.scope.lang? ≠ some "" ∧ v.scope.depth < v.scope.maxDepth ∧
      ((v.scope.alone "Items[0]").validate inner).result.toList =
        [("Name", .message "Items[0]: Name fehlt"), ("Part", .depthExceeded 0)] ∧
      ∀ events, (v.scope.below "Items[0]" inner events).errors.toList =
        [("Name", .message "Items[0]: Name fehlt"), ("Part", .depthExceeded 2)] := by
  intro catalog setup scope v inner
  have hlang : v.scope.lang? ≠ some "" := by decide
  have hdepth : v.scope.depth < v.scope.maxDepth := by decide
  have hevents : (v.scope.alone "Items[0]").scope.flatEvents inner =
      [("Name", .message "Items[0]: Name fehlt"), ("Part", .depthExceeded 0)] := by
    decide +kernel
  have hresult : ((v.scope.alone "Items[0]").validate inner).result.toList =
      [("Name", .message "Items[0]: Name fehlt"), ("Part", .depthExceeded 0)] := by
    rw [toList_validate, hevents]
    decide
  refine ⟨hlang, hdepth, hresult, fun events => ?_⟩
  rw [(validate_compositional v hlang hdepth).2.1, Errors.toList_withLimit, hresult]
  rfl

end Validator

end Verdict
