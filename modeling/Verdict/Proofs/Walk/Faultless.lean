import Verdict.Proofs.Walk.Flat

/-!
# Walks without faults

Three things can go wrong on the way through a record: a rule that is checked fails, the rules of a
field cannot be bound, or a record is refused at the nesting limit. This file says what the way is,
without errors and without paths, and that a validation returns no errors if and only if nothing
goes wrong on it. One exception is made: an error at the empty path is not kept, so what goes wrong
there does not count.

## Main definitions

* `Verdict.Scope.Visits` — the fields that are visited in a record and in the records below it.
* `Verdict.Scope.Checks` — the rules that are checked on a field.
* `Verdict.Scope.Refuses` — the records in a field that are refused.
* `Verdict.Scope.Passes` — nothing goes wrong, as far as it counts.

## Main results

* `Verdict.Scope.flatEvents_eq_nil_iff` — a record without events passes.
* `Verdict.Validator.validate_isEmpty_iff_passes` — so does a record without errors.

## Design

What counts is an argument of `Passes`: a property of paths within their record. So the law that
holds and the law without the exception are one definition at two arguments.
-/

namespace Verdict

variable {ρ : Type} [HasFields ρ]

namespace Scope

/-- A field is visited in the walk of a record: one of the record itself, unless it has the skip
mark, or one of a record that is met in such a field below the nesting limit. The second scope is
that of the record which has the visited field. -/
inductive Visits : Scope ρ → ρ → Scope ρ → Field ρ → Prop where
  | own {s : Scope ρ} {r : ρ} {f : Field ρ} (hf : f ∈ HasFields.fields r)
    (hread : f.rulesUnder s.tagKey ≠ skipMark) : Visits s r s f
  | nested {s : Scope ρ} {r : ρ} {f : Field ρ} {path : String} {inner : ρ} {t : Scope ρ}
    {g : Field ρ} (hf : f ∈ HasFields.fields r) (hread : f.rulesUnder s.tagKey ≠ skipMark)
    (hmet : (path, inner) ∈ f.value.records f.name) (hdepth : s.depth < s.maxDepth)
    (hvisit : Visits (s.child path) inner t g) : Visits s r t g

/-- A rule is checked on a field: all rules of the field can be bound, and none in front of it
fails. -/
def Checks (s : Scope ρ) (f : Field ρ) (tag : Tag ρ) : Prop :=
  ∃ before after, s.bindField f (f.rulesUnder s.tagKey) = .ok (before ++ tag :: after) ∧
    ∀ earlier ∈ before, earlier.check f.value ≠ .failed

/-- The record that is met at a path in a field is refused. -/
def Refuses (s : Scope ρ) (f : Field ρ) (path : String) : Prop :=
  s.maxDepth ≤ s.depth ∧ path ∈ (f.value.records f.name).map (·.1)

/-- Nothing goes wrong at a field, at paths that count: no rule that is checked fails, the rules can
be bound, and no record that is met is refused. -/
structure Faultless (s : Scope ρ) (f : Field ρ) (counts : String → Prop) : Prop where
  rules : ∀ tag, s.Checks f tag → counts f.name → tag.check f.value ≠ .failed
  bound : ∀ e, counts f.name → s.bindField f (f.rulesUnder s.tagKey) ≠ .error e
  depth : ∀ path, s.Refuses f path → ¬counts path

/-- Nothing goes wrong at any field that is visited in the walk of a record, at paths that count. -/
def Passes (s : Scope ρ) (r : ρ) (counts : String → Prop) : Prop :=
  ∀ t f, s.Visits r t f → t.Faultless f counts

variable {s : Scope ρ} {r : ρ} {f : Field ρ}

/-! ### One field -/

omit [HasFields ρ] in
/-- If no rule that is checked fails, then none fails: the first one that fails would be checked.

**Proof sketch.** If a rule fails, then there is a first one that does. In front of it none fails,
so it is checked. -/
lemma forall_checks_iff {tags : List (Tag ρ)}
    (hbind : s.bindField f (f.rulesUnder s.tagKey) = .ok tags) :
    (∀ tag, s.Checks f tag → tag.check f.value ≠ .failed) ↔
      ∀ tag ∈ tags, tag.check f.value ≠ .failed := by
  constructor
  · intro h tag hmem hfailed
    obtain ⟨first, hfirst⟩ : ∃ first, tags.find? (fun tag => tag.check f.value = .failed) =
        some first := by
      rw [← Option.isSome_iff_exists, List.find?_isSome]
      exact ⟨tag, hmem, by simpa using hfailed⟩
    obtain ⟨hfails, before, after, hsplit, hbefore⟩ := List.find?_eq_some_iff_append.mp hfirst
    refine h first ⟨before, after, by rw [hbind, hsplit], fun earlier hearlier => ?_⟩
      (by simpa using hfails)
    simpa using hbefore earlier hearlier
  · rintro h tag ⟨before, after, hsplit, -⟩
    rw [hbind, Except.ok.injEq] at hsplit
    exact h tag (by simp [hsplit])

/-- A field has no error of its own if and only if its rules can be bound and none that is checked
fails.

**Proof sketch.** A field has no error of its own if all its clauses are known, which says that its
rules can be bound, and if then no rule fails, which is said of the checked ones as well
(`forall_checks_iff`). -/
lemma ownError?_eq_none_iff : s.ownError? f = none ↔
    (∀ e, s.bindField f (f.rulesUnder s.tagKey) ≠ .error e) ∧
      ∀ tag, s.Checks f tag → tag.check f.value ≠ .failed := by
  have hbind := s.bindField_eq f
  rw [Registry.bindAll_eq] at hbind
  rw [ownError?]
  cases hunknown : (f.clauses s.tagKey).find? fun clause => !s.registry.knows clause.1 with
  | some clause =>
    rw [hunknown] at hbind
    have hfails : ¬∀ e, s.bindField f (f.rulesUnder s.tagKey) ≠ .error e := fun h => h _ hbind
    simp [hfails]
  | none =>
    rw [hunknown] at hbind
    have hbound : ∀ e, s.bindField f (f.rulesUnder s.tagKey) ≠ .error e := by
      intro e he
      rw [hbind] at he
      contradiction
    dsimp only
    rw [Option.map_eq_none_iff, List.find?_eq_none, forall_checks_iff hbind]
    simp [hbound]

/-- A field that is looked at has no events but at the empty path if and only if it has no error of
its own, or no name, and nothing but at the empty path is found in the records that are met in
it. -/
lemma fieldEvents_unnamed_iff {inRecord : String → ρ → Entries}
    (hread : f.rulesUnder s.tagKey ≠ skipMark) :
    (∀ event ∈ s.fieldEvents inRecord f, event.1 = "") ↔
      (f.name ≠ "" → s.ownError? f = none) ∧
        ∀ met ∈ f.value.records f.name, ∀ event ∈ inRecord met.1 met.2, event.1 = "" := by
  have hown : (∀ event ∈ (s.ownError? f).toList.map fun error => (f.name, error), event.1 = "") ↔
      (f.name ≠ "" → s.ownError? f = none) := by
    cases s.ownError? f with
    | none => simp
    | some error => simp
  rw [fieldEvents, if_neg hread, Value.found_eq_flatMap, List.forall_mem_append, hown,
    List.forall_mem_flatMap]

/-- Nothing goes wrong at a field if and only if it has no error of its own, or its name does not
count, and the records that are met in it are not refused, or not at paths that count.

**Proof sketch.** That the rules are bound and that none that is checked fails is that there is no
error of the field itself (`ownError?_eq_none_iff`); that no record is refused is said of the paths
at which records are met. -/
lemma faultless_iff {counts : String → Prop} : s.Faultless f counts ↔
    (counts f.name → s.ownError? f = none) ∧
      ∀ met ∈ f.value.records f.name, s.maxDepth ≤ s.depth → ¬counts met.1 := by
  rw [ownError?_eq_none_iff]
  constructor
  · intro h
    refine ⟨fun hcounts => ⟨fun e => h.bound e hcounts, fun tag htag => h.rules tag htag hcounts⟩,
      fun met hmet hdepth => h.depth met.1 ⟨hdepth, List.mem_map_of_mem hmet⟩⟩
  · rintro ⟨hown, hmet⟩
    refine ⟨fun tag htag hcounts => (hown hcounts).2 tag htag, fun e hcounts => (hown hcounts).1 e,
      ?_⟩
    rintro path ⟨hdepth, hpath⟩
    obtain ⟨met, hmem, rfl⟩ := List.mem_map.mp hpath
    exact hmet met hmem hdepth

/-! ### Whole walks -/

/-- A record passes if and only if nothing goes wrong at its own fields, and the records that are
met in them below the nesting limit pass.

**Proof sketch.** A visit is of an own field or goes on through a record below the nesting limit,
and these are the two parts. -/
lemma passes_iff {counts : String → Prop} : s.Passes r counts ↔
    ∀ f ∈ HasFields.fields r, f.rulesUnder s.tagKey ≠ skipMark → s.Faultless f counts ∧
      ∀ met ∈ f.value.records f.name, s.depth < s.maxDepth →
        (s.child met.1).Passes met.2 counts := by
  constructor
  · intro h f hf hread
    refine ⟨h s f (.own hf hread), fun met hmet hdepth t g hvisit => ?_⟩
    exact h t g (.nested hf hread hmet hdepth hvisit)
  · intro h t g hvisit
    cases hvisit with
    | own hf hread => exact (h _ hf hread).1
    | nested hf hread hmet hdepth hvisit => exact (h _ hf hread).2 _ hmet hdepth t g hvisit

/-- Events behind a path are not at the empty path. -/
lemma under_unnamed_iff {path : String} {l : Entries} :
    (∀ event ∈ Entries.under path l, event.1 = "") ↔ l = [] := by
  rw [Entries.under, List.forall_mem_map, List.eq_nil_iff_forall_not_mem]
  exact forall₂_congr fun event _ => iff_of_false (Errors.under_ne_empty path event.1) id

/-- A record has no events if and only if it passes, where the empty path does not count.

**Proof sketch.** Induction on the levels that are left. The events of a record are those of its
fields, without the ones at the empty path. At the nesting limit the records in a field are refused,
each at the path at which it is met. Below it their events come behind this path, so none of them is
at the empty path, and by induction there are none if and only if the record passes. -/
lemma flatEvents_eq_nil_iff : s.flatEvents r = [] ↔ s.Passes r (· ≠ "") := by
  induction hlevels : s.maxDepth - s.depth using Nat.strongRecOn generalizing s r with
  | _ levels ih =>
    rw [flatEvents, List.filter_eq_nil_iff, passes_iff, List.forall_mem_flatMap]
    refine forall₂_congr fun f _ => ?_
    simp only [ne_eq, decide_not, Bool.not_eq_true', decide_eq_false_iff_not, not_not]
    by_cases hread : f.rulesUnder s.tagKey = skipMark
    · simp [fieldEvents, hread]
    rw [fieldEvents_unnamed_iff hread, faultless_iff]
    by_cases hlimit : s.maxDepth ≤ s.depth
    · have hbelow : ¬s.depth < s.maxDepth := by omega
      simp only [hlimit, hbelow]
      simp [hread]
    · have hbelow : s.depth < s.maxDepth := by omega
      have hchild (path : String) (inner : ρ) :
          (s.child path).flatEvents inner = [] ↔ (s.child path).Passes inner (· ≠ "") := by
        refine ih _ ?_ rfl
        simp only [child]
        omega
      simp only [hlimit, hbelow, if_false, under_unnamed_iff, hchild]
      simp [hread]

end Scope

namespace Validator

/-- Without pending errors, a validation returns none if and only if there are no events.

**Proof sketch.** The result lists the events added to nothing. Events have paths, so this is
nothing only if there are none. -/
lemma isEmpty_validate_iff (v : Validator ρ) (hnone : v.errors.isEmpty = true)
    (r : ρ) :
    (v.validate r).result.isEmpty = true ↔ v.scope.flatEvents r = [] := by
  rw [Errors.isEmpty_iff] at hnone
  rw [Errors.isEmpty_iff, toList_validate, hnone,
    Entries.extend_eq_nil_iff (v.scope.empty_notMem_flatEvents r)]
  exact and_iff_right rfl

/-- **There are no errors if and only if the record passes.** A validation without pending errors
returns none if and only if its record passes: at no field that is visited, at any depth, did a rule
that was checked fail, could the rules not be bound, or was a record refused. What goes wrong at the
empty path does not count: the error of a field without a name, and the refusal of a record that is
the value of such a field.

**Proof sketch.** There are no errors if and only if there are no events (`isEmpty_validate_iff`),
and no events if and only if nothing goes wrong (`Scope.flatEvents_eq_nil_iff`). -/
theorem validate_isEmpty_iff_passes (v : Validator ρ) (hnone : v.errors.isEmpty = true)
    (r : ρ) :
    (v.validate r).result.isEmpty = true ↔ v.scope.Passes r (· ≠ "") := by
  rw [isEmpty_validate_iff v hnone, Scope.flatEvents_eq_nil_iff]

/-- What goes wrong below a field without a name does count, though the name is all that is in front
of the dot in its path. -/
theorem validate_below_unnamed :
    let v : Validator Record := .new "Document"
    let r : Record := .plain
      [⟨"", .record (.plain [⟨"Name", .str "", [("validate", "required")], []⟩]),
        [("validate", "required")], []⟩]
    v.errors.isEmpty = true ∧
      v.scope.flatEvents r = [(".Name", .message " Name cannot be blank")] ∧
      (v.validate r).result.isEmpty = false ∧ ¬v.scope.Passes r (· ≠ "") := by
  intro v r
  have hevents : v.scope.flatEvents r = [(".Name", .message " Name cannot be blank")] := by
    decide +kernel
  have herrors : ¬(v.validate r).result.isEmpty = true := by
    rw [isEmpty_validate_iff v rfl, hevents]
    simp
  refine ⟨rfl, hevents, by simpa using herrors, ?_⟩
  rwa [validate_isEmpty_iff_passes v rfl r] at herrors

/-- A field without a name loses its error: a rule that is checked on it fails, and the validation
returns no errors. So the law does not hold if all paths count.

**Proof sketch.** There are no events, as the only error would be at the empty path. If all paths
counted, then the field would not pass, since it has an error of its own. -/
theorem validate_unnamed_field :
    let v : Validator Record := .new "Document"
    let r : Record := .plain [⟨"", .absent, [("validate", "required")], []⟩]
    v.errors.isEmpty = true ∧
      ¬((v.validate r).result.isEmpty = true ↔ v.scope.Passes r fun _ => True) := by
  intro v r
  refine ⟨rfl, fun h => ?_⟩
  have hevents : v.scope.flatEvents r = [] := by decide +kernel
  have hvalid : (v.validate r).result.isEmpty = true :=
    (isEmpty_validate_iff v rfl r).mpr hevents
  -- the only field has an error of its own
  let f : Field Record := ⟨"", .absent, [("validate", "required")], []⟩
  have hfaultless := (Scope.passes_iff.mp (h.mp hvalid) f List.mem_cons_self (by decide)).1
  have hown : v.scope.ownError? f ≠ none := by decide +kernel
  exact hown ((Scope.faultless_iff.mp hfaultless).1 trivial)

end Validator

end Verdict
