import Mathlib.Data.List.Basic
import Verdict.Validator.Basic

/-!
# What all events of a walk have in common

A walk leaves events of three kinds: those of checking single fields, the notice that a record is
refused at the nesting limit, and the notice and the request when a record is entered. So a property
of events holds of the whole walk as soon as it holds of these kinds; and what is known of the
records and scopes on the way may be used for the last two.

## Main definitions

* `Verdict.Event.isOwn` — the events of checking a field.
* `Verdict.Scope.KeptBy` — a property of events that every step of a walk keeps.

## Main results

* `Verdict.Scope.KeptBy.visit` — visiting one field keeps the property.
* `Verdict.Scope.KeptBy.walk`, `Verdict.Scope.KeptBy.validate` — so do a walk and a validation.
-/

namespace Verdict

variable {ρ : Type}

namespace Event

/-- Whether an event is one of checking a field: a rule is run, or a notice says what is wrong with
the rules of the field or with one of them. -/
def isOwn : Event ρ → Bool
  | .checked _ _ => true
  | .requested _ _ => false
  | .noticed n =>
    match n with
    | .ruleFailed .. | .unsupportedKind .. | .badParameter .. | .unboundRules .. => true
    | .localized .. | .tooDeep .. | .descending .. => false

end Event

namespace Journal

/-- All events of a journal have a property. -/
def All (P : Event ρ → Prop) (j : Journal ρ) : Prop := ∀ event ∈ j.events, P event

variable {P : Event ρ → Prop} {j : Journal ρ}

/-- One more event with the property. -/
lemma All.event (hj : j.All P) {e : Event ρ} (he : P e) : (j.event e).All P := by
  intro event hevent
  rcases Array.mem_push.mp hevent with hevent | rfl
  · exact hj event hevent
  · exact he

/-- One more notice with the property. -/
lemma All.notice (hj : j.All P) {n : Notice} (hn : P (.noticed n)) : (j.notice n).All P :=
  hj.event hn

/-- An error is no event. -/
lemma All.error (hj : j.All P) (path : String) (e : FieldError) : (j.error path e).All P := hj

end Journal

namespace Scope

variable [HasFields ρ]

/-- A property of events is kept by every step of a walk, where the scopes and records that are
walked are known to be related: it holds of the events of checking a field, and of those at records
in the values of fields, of which the ones that are entered are related to their scopes again. -/
structure KeptBy (P : Event ρ → Prop) (I : Scope ρ → ρ → Prop) : Prop where
  own : ∀ event : Event ρ, event.isOwn = true → P event
  refused : ∀ (s : Scope ρ) (r : ρ), I s r → s.maxDepth ≤ s.depth → ∀ f ∈ HasFields.fields r,
    ∀ met ∈ f.value.records f.name, P (.noticed (.tooDeep s.module met.1 s.maxDepth))
  entered : ∀ (s : Scope ρ) (r : ρ), I s r → s.depth < s.maxDepth → ∀ f ∈ HasFields.fields r,
    ∀ met ∈ f.value.records f.name, I (s.child met.1) met.2 ∧
      P (.noticed (.descending s.module met.1 (s.depth + 1))) ∧ ∀ lang, P (.requested lang met.1)

namespace KeptBy

variable {P : Event ρ → Prop} {I : Scope ρ → ρ → Prop} {s : Scope ρ} {j : Journal ρ}

/-- Running the rules of a field leaves events of checking a field.

**Proof sketch.** Induction on the rules. Each one leaves its run and at most one notice, and these
are events of checking a field. -/
lemma checkField (h : KeptBy P I) (hj : j.All P) (name : String) (value : Value ρ)
    (tags : List (Tag ρ)) : (s.checkField name value tags j).2.All P := by
  induction tags generalizing j with
  | nil => exact hj
  | cons tag tags ih =>
    have hrun : (j.event (.checked tag value)).All P := hj.event (h.own _ rfl)
    rw [Scope.checkField]
    cases tag.check value with
    | valid => exact ih hrun
    | failed => exact (hrun.notice (h.own _ rfl)).error _ _
    | unsupported => exact ih (hrun.notice (h.own _ rfl))
    | badParameter => exact ih (hrun.notice (h.own _ rfl))

/-- Visiting a field keeps the property, if meeting each record in its value does.

**Proof sketch.** A field with the skip mark leaves nothing. Otherwise its rules leave events of
checking a field, or the notice that they cannot be bound, and then the records in its value are
met. -/
lemma visit (h : KeptBy P I) {meet : String → ρ → Journal ρ → Journal ρ} {f : Field ρ}
    (hmeet : ∀ met ∈ f.value.records f.name, ∀ j : Journal ρ, j.All P →
      (meet met.1 met.2 j).All P) (hj : j.All P) : (s.visit meet j f).All P := by
  rw [Scope.visit]
  dsimp only
  split_ifs
  · exact hj
  · refine List.foldlRecOn _ _ ?_ fun j hj met hmet => hmeet met hmet j hj
    split
    · exact h.checkField hj _ _ _
    · exact (hj.notice (h.own _ rfl)).error _ _

/-- Going through fields keeps the property, if meeting each record in their values does. -/
lemma foldl_visit (h : KeptBy P I) {meet : String → ρ → Journal ρ → Journal ρ}
    {fields : List (Field ρ)} (hmeet : ∀ f ∈ fields, ∀ met ∈ f.value.records f.name,
      ∀ j : Journal ρ, j.All P → (meet met.1 met.2 j).All P) (hj : j.All P) :
    (fields.foldl (s.visit meet) j).All P :=
  List.foldlRecOn _ _ hj fun _ hj f hf => h.visit (hmeet f hf) hj

/-- A walk keeps the property.

**Proof sketch.** Induction on the levels that are left. Without any, the records that are met are
refused. Otherwise they are entered, and the walk of each starts with the events that there are
already. -/
lemma walk (h : KeptBy P I) {levels : Nat} {s : Scope ρ} (hlevels : levels = s.maxDepth - s.depth)
    {r : ρ} (hI : I s r) {j : Journal ρ} (hj : j.All P) : (s.walk levels r j).All P := by
  induction levels generalizing s r j with
  | zero =>
    rw [Scope.walk]
    refine h.foldl_visit (fun f hf met hmet j hj => ?_) hj
    exact (hj.notice (h.refused s r hI (by omega) f hf met hmet)).error _ _
  | succ levels ih =>
    rw [Scope.walk]
    refine h.foldl_visit (fun f hf met hmet j hj => ?_) hj
    obtain ⟨hinner, hdescending, hrequested⟩ := h.entered s r hI (by omega) f hf met hmet
    have henter : (s.enter met.1 j).All P := by
      rw [enter]
      cases s.lang? with
      | none => exact hj.notice hdescending
      | some lang => exact (hj.notice hdescending).event (hrequested lang)
    have hbelow : levels = (s.child met.1).maxDepth - (s.child met.1).depth := by
      simp only [child]
      omega
    exact ih hbelow hinner (j := { events := (s.enter met.1 j).events }) henter

/-- A validation leaves events with the property only. -/
lemma validate (h : KeptBy P I) (v : Validator ρ) {r : ρ} (hI : I v.scope r) :
    ∀ event ∈ (v.validate r).events, P event :=
  h.walk rfl hI (j := { errors := v.errors }) fun _ hevent => absurd hevent (Array.not_mem_empty _)

end KeptBy

end Scope

end Verdict
