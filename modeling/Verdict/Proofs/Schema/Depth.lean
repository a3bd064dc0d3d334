import Mathlib.Order.Bounds.Basic
import Verdict.Proofs.Schema.Bound
import Verdict.Proofs.Schema.Nested
import Verdict.Proofs.Walk.Noticed

/-!
# How deep documents are walked

A document may nest arrays and objects as deep as it likes, but a walk goes into an object only if a
schema describes it, and each step from a record to a record in it uses up one schema. So the walk
goes as deep as schemas are nested, and no deeper; and below what no schema describes it finds
nothing.

## Main definitions

* `Verdict.Schema.Chain` — schemas one inside the other, and how many.
* `Verdict.Schema.nesting` — the length of the longest such chain.
* `Verdict.Place.steps` — a place step by step, from member to member and from item to item.
* `Verdict.Schema.Describes` — a schema describes what a way of such steps leads to.
* `Verdict.Schema.WalkedWithin` — what a validation of a document has to do with its schema.

## Main results

* `Verdict.Schema.isGreatest_nesting` — the longest chain has the length that is computed.
* `Verdict.Schema.walkedWithin_validate` — with a nesting limit for all schemas, nothing is refused.
-/

namespace Verdict

/-- Whether an event is the notice that a record is too deep. -/
def Event.isTooDeep {ρ : Type} : Event ρ → Bool
  | .checked _ _ | .requested _ _ => false
  | .noticed n =>
    match n with
    | .tooDeep .. => true
    | .localized .. | .ruleFailed .. | .unsupportedKind .. | .badParameter ..
    | .unboundRules .. | .descending .. => false

namespace Schema

/-- There is a chain of so many schemas below a schema: the schema of one of its fields, the schema
of a field of that, and so on. -/
inductive Chain : Schema → Nat → Prop where
  | nil (s : Schema) : Chain s 0
  | cons {s inner : Schema} {field : String × FieldSchema} {k : Nat} (hfield : field ∈ s.fields)
    (hinner : field.2.schema? = some inner) (h : Chain inner k) : Chain s (k + 1)

mutual

/-- The length of the longest chain of schemas below a schema. -/
def nesting : Schema → Nat
  | .mk _ fields => nestingInFields fields

/-- The length of the longest chain that starts with the schema of one of the fields. -/
def nestingInFields : List (String × FieldSchema) → Nat
  | [] => 0
  | (_, field) :: fields => max (nestingInField field) (nestingInFields fields)

/-- The length of the longest chain that starts with the schema of a field. -/
def nestingInField : FieldSchema → Nat
  | .bare _ => 0
  | .detailed _ _ schema? => nestingFrom schema?

/-- The length of the longest chain that starts with a schema, if there is one. -/
def nestingFrom : Option Schema → Nat
  | none => 0
  | some s => nesting s + 1

end

/-! ### Chains of schemas -/

variable {s inner : Schema} {field : String × FieldSchema}

/-- The longest chain below a schema starts at one of its fields. -/
lemma nesting_eq (s : Schema) : s.nesting = nestingInFields s.fields := by
  obtain ⟨module?, fields⟩ := s
  rw [nesting, Schema.fields]

/-- The longest chain that starts at a field starts with its schema. -/
lemma nestingInField_eq (f : FieldSchema) : nestingInField f = nestingFrom f.schema? := by
  cases f with
  | bare rules => rfl
  | detailed rules? tags schema? => rfl

/-- No field has a longer chain than all fields together.

**Proof sketch.** Induction on the fields, of whose numbers the greatest is taken. -/
lemma nestingInField_le {fields : List (String × FieldSchema)} (hfield : field ∈ fields) :
    nestingInField field.2 ≤ nestingInFields fields := by
  induction fields with
  | nil => contradiction
  | cons first fields ih =>
    obtain ⟨name, f⟩ := first
    rw [nestingInFields]
    rcases List.mem_cons.mp hfield with rfl | hfield
    · exact Nat.le_max_left _ _
    · exact (ih hfield).trans (Nat.le_max_right _ _)

/-- If there is any chain, one of the fields has the longest.

**Proof sketch.** Induction on the fields. The greatest number is that of the first field or of one
of the others. -/
lemma exists_nestingInField_eq {fields : List (String × FieldSchema)}
    (h : nestingInFields fields ≠ 0) :
    ∃ field ∈ fields, nestingInField field.2 = nestingInFields fields := by
  induction fields with
  | nil => contradiction
  | cons first fields ih =>
    obtain ⟨name, f⟩ := first
    rw [nestingInFields] at h ⊢
    rcases Nat.le_total (nestingInFields fields) (nestingInField f) with hle | hle
    · exact ⟨(name, f), List.mem_cons_self, (Nat.max_eq_left hle).symm⟩
    · rw [Nat.max_eq_right hle] at h ⊢
      obtain ⟨field, hfield, hlongest⟩ := ih h
      exact ⟨field, List.mem_cons_of_mem _ hfield, hlongest⟩

/-- The schema of a field has shorter chains than the schema with the field. -/
lemma nesting_lt (hfield : field ∈ s.fields) (hinner : field.2.schema? = some inner) :
    inner.nesting < s.nesting := by
  have hle := nestingInField_le hfield
  rw [← nesting_eq, nestingInField_eq, hinner, nestingFrom] at hle
  exact hle

/-- A chain is not longer than computed. -/
lemma Chain.le_nesting {k : Nat} (h : s.Chain k) : k ≤ s.nesting := by
  induction h with
  | nil s => exact Nat.zero_le _
  | cons hfield hinner h ih => exact Nat.succ_le_of_lt (ih.trans_lt (nesting_lt hfield hinner))

/-- There is a chain as long as computed.

**Proof sketch.** Induction on the number. If it is not zero, then one of the fields has it
(`exists_nestingInField_eq`), and this field has a schema, whose chain is one shorter. -/
lemma chain_nesting (s : Schema) : s.Chain s.nesting := by
  induction hlength : s.nesting generalizing s with
  | zero => exact .nil s
  | succ k ih =>
    rw [nesting_eq] at hlength
    have hne : nestingInFields s.fields ≠ 0 := by
      rw [hlength]
      exact k.succ_ne_zero
    obtain ⟨field, hfield, hlongest⟩ := exists_nestingInField_eq hne
    rw [hlength, nestingInField_eq] at hlongest
    cases hinner : field.2.schema? with
    | none =>
      rw [hinner, nestingFrom] at hlongest
      contradiction
    | some inner =>
      rw [hinner, nestingFrom] at hlongest
      exact .cons hfield hinner (ih inner (Nat.succ.inj hlongest))

/-- The longest chain of schemas below a schema has the length that is computed. -/
theorem isGreatest_nesting (s : Schema) : IsGreatest {k | s.Chain k} s.nesting :=
  ⟨s.chain_nesting, fun _ h => h.le_nesting⟩

end Schema

/-! ### Steps into a document -/

/-- One step into a document: to the member of a name, or to the item at a position. -/
inductive Place.Step where
  | member (name : String)
  | item (i : Nat)
  deriving Repr, DecidableEq

/-- A place step by step: each leg goes to the member of its name, and then to items. -/
def Place.steps : Place → List Step
  | [] => []
  | leg :: place => .member leg.name :: (leg.positions.map .item ++ steps place)

namespace Schema

/-- A way of steps leads from what a schema describes to what another one describes: nowhere, to an
item of an array, or to the member of a field with a schema. -/
inductive Describes : Schema → List Place.Step → Schema → Prop where
  | here (s : Schema) : Describes s [] s
  | item {s t : Schema} {steps : List Place.Step} (i : Nat) (h : Describes s steps t) :
    Describes s (.item i :: steps) t
  | member {s inner t : Schema} {field : String × FieldSchema} {steps : List Place.Step}
    (hfield : field ∈ s.fields) (hinner : field.2.schema? = some inner)
    (h : Describes inner steps t) : Describes s (.member field.1 :: steps) t

/-- All that a way goes through before its end is described by a schema. -/
def DescribesAbove (s : Schema) (steps : List Place.Step) : Prop :=
  ∀ outer, outer <+: steps → outer ≠ steps → ∃ t, s.Describes outer t

variable {s inner : Schema} {field : String × FieldSchema} {steps : List Place.Step}

/-- A further step in front: what it goes to is described, unless the way ends there. -/
lemma describesAbove_cons {step : Place.Step}
    (h : ∀ outer, outer <+: steps → outer ≠ steps → ∃ t, s.Describes (step :: outer) t) :
    s.DescribesAbove (step :: steps) := by
  intro outer houter hne
  rcases List.prefix_cons_iff.mp houter with rfl | ⟨further, rfl, hfurther⟩
  · exact ⟨s, .here s⟩
  · exact h further hfurther (by simpa using hne)

/-- Items of what a schema describes are described.

**Proof sketch.** Induction on the positions. Each of them is one more step in front, to an item,
which is described by what describes the array. -/
lemma DescribesAbove.items (h : s.DescribesAbove steps) (positions : List Nat) :
    s.DescribesAbove (positions.map .item ++ steps) := by
  induction positions with
  | nil => exact h
  | cons i positions ih =>
    apply describesAbove_cons
    intro outer houter hne
    obtain ⟨t, ht⟩ := ih outer houter hne
    exact ⟨t, .item i ht⟩

/-- So are members with a schema. -/
lemma DescribesAbove.member (hfield : field ∈ s.fields) (hinner : field.2.schema? = some inner)
    (h : inner.DescribesAbove steps) : s.DescribesAbove (.member field.1 :: steps) := by
  apply describesAbove_cons
  intro outer houter hne
  obtain ⟨t, ht⟩ := h outer houter hne
  exact ⟨t, .member hfield hinner ht⟩

/-- A way to a member goes through nothing but the object that has it. -/
lemma describesAbove_member (name : String) : s.DescribesAbove [.member name] := by
  apply describesAbove_cons
  intro outer houter hne
  exact absurd (List.prefix_nil.mp houter) hne

/-! ### Walks of documents -/

variable {d : Json} {r : Record}

/-- A record in the value of a field of a bound document is bound to the schema of this field, which
has shorter chains. -/
lemma exists_bind_of_mem_spots (hbind : s.bind d = .ok r) {f : Field Record}
    (hf : f ∈ HasFields.fields r) {spot : List Nat × Record} (hspot : spot ∈ f.value.spots) :
    ∃ field ∈ s.fields, f.name = field.1 ∧ ∃ inner, field.2.schema? = some inner ∧
      inner.nesting < s.nesting ∧ ∃ item, inner.bind item = .ok spot.2 := by
  obtain ⟨members, -, hfields⟩ := fields_of_bind hbind
  obtain ⟨field, hfield, hname, hvalue⟩ := hfields f hf
  rw [hvalue] at hspot
  obtain ⟨item, inner, -, hinner, hbound⟩ := Json.mem_spots_toValue _ _ spot hspot
  exact ⟨field, hfield, hname, inner, hinner, nesting_lt hfield hinner, item, hbound⟩

/-- With levels for all nested schemas, nothing in a bound document is too deep, and all that is
above an error is described by a schema.

**Proof sketch.** Induction on the levels that are left. A record in the value of a field is bound
to a schema with shorter chains. So there is a level left for it, and its own chains fit into the
levels below it. -/
lemma mem_produced_of_bind (hbind : s.bind d = .ok r) (scope : Scope Record)
    (hlevels : scope.depth + s.nesting ≤ scope.maxDepth) {event : Place × FieldError}
    (h : event ∈ scope.produced r) :
    (∀ limit, event.2 ≠ .depthExceeded limit) ∧ s.DescribesAbove event.1.steps := by
  induction hleft : scope.maxDepth - scope.depth using Nat.strongRecOn
    generalizing scope s d r event with
  | _ levels ih =>
    obtain ⟨f, hf, ⟨error, herror, rfl⟩ | ⟨spot, hspot, h⟩⟩ := Scope.mem_produced_cases h
    · exact ⟨Scope.ownError?_ne_depthExceeded herror, describesAbove_member f.name⟩
    obtain ⟨field, hfield, hname, inner, hinner, hshorter, item, hbound⟩ :=
      exists_bind_of_mem_spots hbind hf hspot
    rcases h with ⟨hlimit, -⟩ | ⟨hdepth, below, hbelow, rfl⟩
    · omega
    · have hchild : (scope.child (Leg.text ⟨f.name, spot.1⟩)).depth + inner.nesting ≤
          (scope.child (Leg.text ⟨f.name, spot.1⟩)).maxDepth := by
        simp only [Scope.child]
        omega
      obtain ⟨hkind, habove⟩ := ih _ (by simp only [Scope.child]; omega) hbound _ hchild hbelow rfl
      refine ⟨hkind, ?_⟩
      rw [Place.steps, hname]
      exact .member hfield hinner (habove.items spot.1)

/-- With levels for all nested schemas, no record in a bound document is refused.

**Proof sketch.** A record that is met in a field is bound to a schema with shorter chains
(`exists_bind_of_mem_spots`), so there is a level left for it, and its chains fit into the levels
below it. -/
lemma keptBy_not_isTooDeep : Scope.KeptBy (fun event : Event Record => event.isTooDeep = false)
    fun scope r => ∃ (s : Schema) (d : Json),
      s.bind d = .ok r ∧ scope.depth + s.nesting ≤ scope.maxDepth where
  own event hown := by
    cases event with
    | checked | requested => rfl
    | noticed n =>
      cases n with
      | tooDeep => contradiction
      | localized | ruleFailed | unsupportedKind | badParameter | unboundRules | descending => rfl
  refused := by
    rintro scope r ⟨s, d, hbind, hlevels⟩ hlimit f hf met hmet
    rw [sequenced_bound.records_eq r ⟨s, d, hbind⟩ f hf] at hmet
    obtain ⟨spot, hspot, -⟩ := List.mem_map.mp hmet
    obtain ⟨field, -, -, inner, -, hshorter, -⟩ := exists_bind_of_mem_spots hbind hf hspot
    omega
  entered := by
    rintro scope r ⟨s, d, hbind, hlevels⟩ hdepth f hf met hmet
    rw [sequenced_bound.records_eq r ⟨s, d, hbind⟩ f hf] at hmet
    obtain ⟨spot, hspot, rfl⟩ := List.mem_map.mp hmet
    obtain ⟨field, -, -, inner, -, hshorter, item, hbound⟩ :=
      exists_bind_of_mem_spots hbind hf hspot
    refine ⟨⟨inner, item, hbound, ?_⟩, rfl, fun _ => rfl⟩
    simp only [Scope.child]
    omega

/-- What a validation of a bound document has to do with its schema, if the nesting limit leaves
levels for all nested schemas. -/
structure WalkedWithin (s : Schema) (v : Validator Record) (r : Record) : Prop where
  /-- Validating adds what is produced, in order, each error at the text of its place; what is
  produced at a field without a name is left out. -/
  result : (v.validate r).result = v.errors.extend
    (((v.scope.produced r).filter fun event => ¬event.1.Unnamed).map located)
  /-- No error is produced for being too deep. -/
  depth : ∀ event ∈ v.scope.produced r, ∀ limit, event.2 ≠ .depthExceeded limit
  /-- No record is refused on the way. -/
  refusal : ∀ event ∈ (v.validate r).events, event.isTooDeep = false
  /-- All that is above an error is described by a schema. So there is no error below what no schema
  describes. -/
  above : ∀ event ∈ v.scope.produced r, ∀ outer, outer <+: event.1.steps →
    outer ≠ event.1.steps → ∃ t, s.Describes outer t

/-- **The nesting of schemas bounds the depth of validation.** Whatever a document nests, if there
are as many levels left as the longest chain of schemas below its schema is long, then nothing in it
is too deep; and no error is produced below what no schema describes.

**Proof sketch.** The longest chain has the length that is computed (`isGreatest_nesting`). What the
validation adds is what is produced, as the records are in sequences
(`Scope.flatEvents_eq_filter_produced`); that nothing of it is too deep, nor below what no schema
describes, is `mem_produced_of_bind`; and that no record is refused is kept by every step
(`keptBy_not_isTooDeep`). -/
theorem walkedWithin_validate (s : Schema) (d : Json) (r : Record) (hbind : s.bind d = .ok r)
    (k : Nat) (hlongest : IsGreatest {k | s.Chain k} k) (v : Validator Record)
    (hlevels : v.scope.depth + k ≤ v.scope.maxDepth) : s.WalkedWithin v r := by
  have hnesting : k = s.nesting := hlongest.unique s.isGreatest_nesting
  rw [hnesting] at hlevels
  exact
    { result := by
        rw [v.result_validate, Scope.flatEvents_eq_filter_produced sequenced_bound v.scope
          ⟨s, d, hbind⟩]
      depth := fun _ hevent => (mem_produced_of_bind hbind v.scope hlevels hevent).1
      refusal := keptBy_not_isTooDeep.validate v ⟨s, d, hbind, hlevels⟩
      above := fun _ hevent => (mem_produced_of_bind hbind v.scope hlevels hevent).2 }

/-- Two schemas below each other and just as many levels: there is an error in an object in arrays
in an object in an array, and none for what is nested in members that no schema describes. -/
theorem walkedWithin_validate_nested :
    let parts := empty.field "Code" (.bare "required")
    let items := (empty.field "Parts" (.nested "" parts)).field "Notes" (.bare "len=1")
    let s := empty.field "Items" (.nested "" items)
    let d : Json := .obj [("Items", .arr
      [.obj [("Parts", .arr [.arr [.obj [("Code", .null), ("Name", .obj [("Code", .null)])]]]),
        ("Notes", .arr [.obj [("Code", .null)], .obj [("Parts", .arr [.obj []])]])]])]
    let v : Validator Record := (Validator.new "Order").withMaxDepth 2
    IsGreatest {k | s.Chain k} 2 ∧ v.scope.depth + 2 ≤ v.scope.maxDepth ∧ ∃ r, s.bind d = .ok r ∧
      s.WalkedWithin v r ∧ (v.scope.produced r).map (·.1.steps) =
        [[.member "Items", .item 0, .member "Parts", .item 0, .item 0, .member "Code"],
          [.member "Items", .item 0, .member "Notes"]] := by
  intro parts items s d v
  have hlongest : IsGreatest {k | s.Chain k} 2 := s.isGreatest_nesting
  have hlevels : v.scope.depth + 2 ≤ v.scope.maxDepth := by decide
  refine ⟨hlongest, hlevels, _, rfl, ?_, ?_⟩
  · exact walkedWithin_validate s d _ rfl 2 hlongest v hlevels
  · decide +kernel

end Schema

end Verdict
