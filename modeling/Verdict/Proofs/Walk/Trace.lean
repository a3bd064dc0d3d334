import Verdict.Proofs.Walk.Flat

/-!
# What a walk does on the way

Beside its errors, a walk has effects that are seen from outside: it runs rules, it asks for
localized messages, and it leaves warnings. This file says which ones, how often and in which order,
by recursion over the record alone. Debug notices are left out of it.

## Main definitions

* `Verdict.Event.isOutward` — the events that are seen from outside.
* `Verdict.Tag.upToFailure` — the rules of a list that are run on a value.
* `Verdict.Scope.ownTrace` — what checking a field leaves.
* `Verdict.Scope.trace` — what walking a record leaves.

## Main results

* `Verdict.Scope.checkField_outward` — running the rules of a field.
* `Verdict.Scope.walk_outward` — a walk leaves the trace of its record.
* `Verdict.Validator.validate_leaves_trace` — so does a validation.

## Design

The trace is said by the depth of a record and the nesting limit, like the events of
`Verdict.Scope.flatEvents`. It knows nothing of errors, and no journal is passed through it.
-/

namespace Verdict

variable {ρ : Type}

namespace Event

/-- Whether an event is seen from outside: rules that are run, messages that are asked for, and
warnings. -/
def isOutward : Event ρ → Bool
  | .checked _ _ => true
  | .requested _ _ => true
  | .noticed n => n.level = .warn

/-- The tag of an event that is the run of a rule. -/
def tag? : Event ρ → Option (Tag ρ)
  | .checked tag _ => some tag
  | .requested _ _ | .noticed _ => none

end Event

namespace Journal

/-- The events of a journal that are seen from outside. -/
def outward (j : Journal ρ) : List (Event ρ) := j.events.toList.filter Event.isOutward

/-- One more event is seen if it is one of those that are seen from outside. -/
lemma outward_event (j : Journal ρ) (e : Event ρ) :
    (j.event e).outward = j.outward ++ [e].filter Event.isOutward := by
  rw [outward, outward, event, Array.toList_push, List.filter_append]

/-- A notice is seen if it is a warning. -/
lemma outward_notice (j : Journal ρ) (n : Notice) :
    (j.notice n).outward = j.outward ++ if n.level = .warn then [.noticed n] else [] := by
  rw [notice, outward_event]
  by_cases h : n.level = .warn <;> simp [Event.isOutward, h]

/-- An error is no event. -/
@[simp] lemma outward_error (j : Journal ρ) (path : String) (e : FieldError) :
    (j.error path e).outward = j.outward := rfl

end Journal

/-- The rules of a list that are run on a value: all up to and including the first one that
fails. -/
def Tag.upToFailure (value : Value ρ) (tags : List (Tag ρ)) : List (Tag ρ) :=
  tags.take (tags.findIdx (fun tag => tag.check value = .failed) + 1)

namespace Scope

/-- The warning after a rule that cannot judge a value. -/
def warning? (s : Scope ρ) (field : String) (value : Value ρ) (tag : Tag ρ) : Option Notice :=
  match tag.check value with
  | .unsupported => some (.unsupportedKind s.module field tag.name value.kind)
  | .badParameter => some (.badParameter s.module field tag.name tag.param value.kind)
  | .valid | .failed => none

/-- What running a rule leaves: the run itself, then the warning if there is one. -/
def ruleTrace (s : Scope ρ) (field : String) (value : Value ρ) (tag : Tag ρ) : List (Event ρ) :=
  .checked tag value :: (s.warning? field value tag).toList.map .noticed

/-- What checking a field leaves. If one of its clauses cannot be bound this is a warning, and no
rule is run. -/
def ownTrace (s : Scope ρ) (f : Field ρ) : List (Event ρ) :=
  match (f.clauses s.tagKey).find? fun clause => !s.registry.knows clause.1 with
  | some clause => [.noticed (.unboundRules s.module f.name (.unknownRule clause.1))]
  | none =>
    (Tag.upToFailure f.value ((f.clauses s.tagKey).filterMap s.registry.tag?)).flatMap
      (s.ruleTrace f.name f.value)

variable [HasFields ρ]

/-- What visiting a field leaves: what checking it leaves, and what is left by the records that are
met in its value. A field with the skip mark leaves nothing. -/
def fieldTrace (s : Scope ρ) (inRecord : String → ρ → List (Event ρ)) (f : Field ρ) :
    List (Event ρ) :=
  if f.rulesUnder s.tagKey = skipMark then [] else s.ownTrace f ++ f.value.found inRecord f.name

/-- What walking a record leaves: what visiting its fields leaves, in their order. A record inside a
value leaves one warning at the nesting limit. Below it, its localized messages are asked for if
there is a language, and then its own trace follows. -/
def trace (s : Scope ρ) (r : ρ) : List (Event ρ) :=
  (HasFields.fields r).flatMap <| s.fieldTrace fun path inner =>
    if s.maxDepth ≤ s.depth then [.noticed (.tooDeep s.module path s.maxDepth)]
    else (s.lang?.toList.map fun lang => .requested lang path) ++ (s.child path).trace inner
termination_by s.maxDepth - s.depth
decreasing_by
  simp only [child]
  omega

end Scope

/-! ### One field -/

/-- Nothing is run behind a rule that fails. -/
lemma Tag.upToFailure_cons (value : Value ρ) (tag : Tag ρ) (tags : List (Tag ρ)) :
    upToFailure value (tag :: tags) =
      tag :: if tag.check value = .failed then [] else upToFailure value tags := by
  by_cases h : tag.check value = .failed
  · simp [upToFailure, List.findIdx_cons, h]
  · simp [upToFailure, List.findIdx_cons, h]

namespace Scope

variable [HasFields ρ]

/-- Running the rules of a field leaves what each of them does up to the first that fails.

**Proof sketch.** Induction on the rules. The first one is run; if it fails there is a debug notice
and an error, and neither is seen; otherwise its warning comes before the other rules. -/
lemma checkField_outward (s : Scope ρ) (name : String) (value : Value ρ) (tags : List (Tag ρ))
    (j : Journal ρ) : (s.checkField name value tags j).2.outward =
      j.outward ++ (Tag.upToFailure value tags).flatMap (s.ruleTrace name value) := by
  induction tags generalizing j with
  | nil => simp [checkField, Tag.upToFailure]
  | cons tag tags ih =>
    have hrun : (j.event (.checked tag value)).outward = j.outward ++ [.checked tag value] :=
      j.outward_event _
    rw [checkField, Tag.upToFailure_cons, List.flatMap_cons, ruleTrace, warning?]
    cases h : tag.check value with
    | failed => simp [Journal.outward_notice, hrun, Notice.level]
    | valid => simp [ih, hrun]
    | unsupported => simp [ih, Journal.outward_notice, hrun, Notice.level]
    | badParameter => simp [ih, Journal.outward_notice, hrun, Notice.level]

omit [HasFields ρ] in
/-- The rules that are run on a field are the first ones of its clauses, each as often as it stands
there.

**Proof sketch.** Each rule leaves one event that is a run, that of itself. So the runs are the
rules of which traces are left, and these are the first ones of the list. -/
lemma ownTrace_tags_prefix (s : Scope ρ) (f : Field ρ) :
    (s.ownTrace f).filterMap Event.tag? <+: (f.clauses s.tagKey).filterMap s.registry.tag? := by
  have htag (tag : Tag ρ) : (s.ruleTrace f.name f.value tag).filterMap Event.tag? = [tag] := by
    rw [ruleTrace]
    cases s.warning? f.name f.value tag <;> rfl
  rw [ownTrace]
  cases (f.clauses s.tagKey).find? fun clause => !s.registry.knows clause.1 with
  | some clause => exact List.nil_prefix
  | none =>
    dsimp only
    rw [List.filterMap_flatMap]
    simp only [htag, List.flatMap_singleton']
    exact List.take_prefix _ _

omit [HasFields ρ] in
/-- A function that goes through a list and leaves a trace for each member leaves them all, one
after the other. -/
lemma foldl_outward {β : Type} {step : Journal ρ → β → Journal ρ} {trace : β → List (Event ρ)}
    (hstep : ∀ j b, (step j b).outward = j.outward ++ trace b) (l : List β) (j : Journal ρ) :
    (l.foldl step j).outward = j.outward ++ l.flatMap trace := by
  induction l generalizing j with
  | nil => simp
  | cons b l ih => rw [List.foldl_cons, ih, hstep, List.flatMap_cons, List.append_assoc]

/-- Visiting a field leaves its trace, if meeting a record leaves the trace of that.

**Proof sketch.** A field with the skip mark leaves nothing. Otherwise its rules are bound like one
list of clauses; they leave a warning, or the trace of their runs (`checkField_outward`), and then
each record that is met leaves its own. -/
lemma visit_outward (s : Scope ρ) {meet : String → ρ → Journal ρ → Journal ρ}
    {inRecord : String → ρ → List (Event ρ)}
    (hmeet : ∀ path inner j, (meet path inner j).outward = j.outward ++ inRecord path inner)
    (j : Journal ρ) (f : Field ρ) :
    (s.visit meet j f).outward = j.outward ++ s.fieldTrace inRecord f := by
  have hraw : (f.tag? s.tagKey).getD "" = f.rulesUnder s.tagKey := rfl
  rw [visit, fieldTrace, hraw]
  dsimp only
  split_ifs with hskip
  · simp
  · rw [foldl_outward fun j met => hmeet met.1 met.2 j, ← Value.found_eq_flatMap,
      ← List.append_assoc, bindField_eq, Registry.bindAll_eq, ownTrace]
    congr 1
    cases (f.clauses s.tagKey).find? fun clause => !s.registry.knows clause.1 with
    | some clause => simp [Journal.outward_notice, Notice.level]
    | none => exact checkField_outward s f.name f.value _ j

/-! ### Whole walks -/

omit [HasFields ρ] in
/-- Entering a record asks for its localized messages; the debug notice is not seen. -/
lemma enter_outward (s : Scope ρ) (path : String) (j : Journal ρ) :
    (s.enter path j).outward =
      j.outward ++ s.lang?.toList.map fun lang => .requested lang path := by
  rw [enter]
  cases s.lang? with
  | none => simp [Journal.outward_notice, Notice.level]
  | some lang => simp [Journal.outward_event, Journal.outward_notice, Notice.level, Event.isOutward]

/-- A walk leaves the trace of its record.

**Proof sketch.** Induction on the levels that are left. Visiting a field leaves its trace as soon
as meeting a record leaves the trace of that (`visit_outward`). Without levels left this is the
warning of the refusal. Otherwise the record is entered, and by induction its walk leaves its trace
behind the events that there are already. -/
lemma walk_outward (levels : Nat) (s : Scope ρ) (hlevels : levels = s.maxDepth - s.depth) (r : ρ)
    (j : Journal ρ) : (s.walk levels r j).outward = j.outward ++ s.trace r := by
  induction levels generalizing s r j with
  | zero =>
    rw [walk, trace]
    apply foldl_outward
    apply visit_outward
    intro path inner j
    rw [if_pos (by omega), refuse, Journal.outward_error, Journal.outward_notice]
    rfl
  | succ levels ih =>
    rw [walk, trace]
    apply foldl_outward
    apply visit_outward
    intro path inner j
    have hbelow : levels = (s.child path).maxDepth - (s.child path).depth := by
      simp only [child]
      omega
    have hwalk := ih (s.child path) hbelow inner { events := (s.enter path j).events }
    have henter : ({ events := (s.enter path j).events } : Journal ρ).outward =
        (s.enter path j).outward := rfl
    rw [henter, enter_outward, List.append_assoc] at hwalk
    rw [if_neg (by omega)]
    exact hwalk

end Scope

namespace Validator

variable [HasFields ρ]

/-- **What is seen of a validation, in order, is the trace of its record**: for each field without
the skip mark, either one warning that its clauses cannot be bound, or the runs of its rules up to
the first that fails, each followed by a warning if the rule cannot judge the value; and then, for
each record in the value of the field, a warning at the nesting limit, or a request for its
localized messages and its own trace.

The rules that are run on one visit of a field are the first ones of its clauses in their order, so
none of them is run again.

**Proof sketch.** A validation is a walk that starts without events (`Scope.walk_outward`). The
rules that are run on a field are the first ones of its clauses (`Scope.ownTrace_tags_prefix`). -/
theorem validate_leaves_trace (v : Validator ρ) (r : ρ) :
    (v.validate r).events.toList.filter Event.isOutward = v.scope.trace r ∧
      ∀ (s : Scope ρ) (f : Field ρ), (s.ownTrace f).filterMap Event.tag? <+:
        (f.clauses s.tagKey).filterMap s.registry.tag? := by
  refine ⟨?_, fun s f => s.ownTrace_tags_prefix f⟩
  have hwalk := v.scope.walk_outward (v.scope.maxDepth - v.scope.depth) rfl r { errors := v.errors }
  simpa [Journal.outward, validate] using hwalk

end Validator

end Verdict
