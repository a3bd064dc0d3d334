import Mathlib.Data.List.Forall2
import Verdict.Proofs.Value.Unfolding
import Verdict.Proofs.Walk.Flat

/-!
# Two walks side by side

Two records may differ in the values of fields with the skip mark, at any depth, and agree in all
else. Their walks then go the same way: they visit fields of the same names and rules, and meet
records at the same places. This file says what is visited in both walks together, and how much of
their events is the same if the visited fields have errors of their own that correspond.

## Main definitions

* `Verdict.Value.AlikeUpTo` — values that are alike but for their records, which are related.
* `Verdict.DifferInSkipped` — records that differ in the values of skipped fields only.
* `Verdict.Scope.VisitsBoth` — the fields that are visited at the same place in two walks.

## Main results

* `Verdict.Scope.flatEvents_forall₂` — the events of two such records correspond one by one.

## Design

Records may contain themselves, so what two of them have in common on all levels is not said by
recursion, but by any relation that goes on from records to the records at the same place in them.
-/

namespace Verdict

variable {ρ : Type}

namespace Value

/-- Two values are alike but for their records, and records at the same place are related: both are
made of one value of pairs of related records. -/
def AlikeUpTo (R : ρ → ρ → Prop) (v w : Value ρ) : Prop :=
  ∃ u : Value {pair : ρ × ρ // R pair.1 pair.2},
    u.mapRecords (fun pair => pair.1.1) = v ∧ u.mapRecords (fun pair => pair.1.2) = w

/-- A weaker relation leaves more values alike. -/
lemma AlikeUpTo.mono {R S : ρ → ρ → Prop} (hRS : ∀ r q, R r q → S r q) {v w : Value ρ}
    (h : v.AlikeUpTo R w) : v.AlikeUpTo S w := by
  obtain ⟨u, rfl, rfl⟩ := h
  refine ⟨u.mapRecords fun pair => ⟨pair.1, hRS _ _ pair.2⟩, ?_, ?_⟩
  · rw [mapRecords_mapRecords]
  · rw [mapRecords_mapRecords]

variable {σ : Type} [HasFields ρ]

mutual

/-- Replacing the records of a value in two ways leaves them at the same places.

**Proof sketch.** Induction on the value, its elements and its entries. The records of a sequence or
a map are those of its parts, one after the other. -/
lemma records_forall₂ {R : ρ → ρ → Prop} {g h : σ → ρ} (hR : ∀ r, R (g r) (h r)) :
    ∀ (u : Value σ) (path path' : String), List.Forall₂ (fun met met' => R met.2 met'.2)
      ((u.mapRecords g).records path) ((u.mapRecords h).records path')
  | .record r, path, path' => by
    rw [mapRecords, mapRecords, records, records]
    exact .cons (hR r) .nil
  | .seq items, path, path' => by
    rw [mapRecords, mapRecords, records, records]
    exact recordsOfItems_forall₂ hR items path path' 0
  | .map entries, path, path' => by
    rw [mapRecords, mapRecords, records, records]
    exact recordsOfEntries_forall₂ hR entries path path'
  | .absent, _, _ | .bool _, _, _ | .int _, _, _ | .uint _, _, _ | .float _, _, _
  | .str _, _, _ => by
    simp only [mapRecords, records]
    exact .nil

/-- Replacing the records of the elements of a sequence leaves them at the same places. -/
lemma recordsOfItems_forall₂ {R : ρ → ρ → Prop} {g h : σ → ρ} (hR : ∀ r, R (g r) (h r)) :
    ∀ (items : List (Value σ)) (path path' : String) (i : Nat),
      List.Forall₂ (fun met met' => R met.2 met'.2)
        (recordsOfItems path i (mapRecordsInItems g items))
        (recordsOfItems path' i (mapRecordsInItems h items))
  | [], _, _, _ => .nil
  | item :: items, path, path', i => by
    rw [mapRecordsInItems, mapRecordsInItems, recordsOfItems, recordsOfItems]
    exact List.rel_append (records_forall₂ hR item _ _) (recordsOfItems_forall₂ hR items _ _ _)

/-- Replacing the records of the entries of a map leaves them at the same places. -/
lemma recordsOfEntries_forall₂ {R : ρ → ρ → Prop} {g h : σ → ρ} (hR : ∀ r, R (g r) (h r)) :
    ∀ (entries : List (Value σ × Value σ)) (path path' : String),
      List.Forall₂ (fun met met' => R met.2 met'.2)
        (recordsOfEntries path (mapRecordsInEntries g entries))
        (recordsOfEntries path' (mapRecordsInEntries h entries))
  | [], _, _ => .nil
  | (key, value) :: entries, path, path' => by
    rw [mapRecordsInEntries, mapRecordsInEntries, recordsOfEntries, recordsOfEntries]
    exact List.rel_append
      (List.rel_append (records_forall₂ hR key _ _) (records_forall₂ hR value _ _))
      (recordsOfEntries_forall₂ hR entries _ _)

end

/-- In values that are alike, related records are met in the same order. -/
lemma AlikeUpTo.records_forall₂ {R : ρ → ρ → Prop} {v w : Value ρ} (h : v.AlikeUpTo R w)
    (path path' : String) : List.Forall₂ (fun met met' => R met.2 met'.2)
      (v.records path) (w.records path') := by
  obtain ⟨u, rfl, rfl⟩ := h
  exact Value.records_forall₂ (fun pair => pair.2) u path path'

end Value

/-! ### Records that differ in skipped fields -/

/-- Two fields agree in their names and rules, and in their values up to the records in them. The
values of a field with the skip mark may be any. -/
structure Field.AgreesWith (key : String) (R : ρ → ρ → Prop) (f g : Field ρ) : Prop where
  name_eq : f.name = g.name
  tags_eq : f.tags = g.tags
  specs_eq : f.specs = g.specs
  value : f.rulesUnder key ≠ skipMark → f.value.AlikeUpTo R g.value

/-- Fields agree up to a weaker relation. -/
lemma Field.AgreesWith.mono {key : String} {R S : ρ → ρ → Prop} (hRS : ∀ r q, R r q → S r q)
    {f g : Field ρ} (h : f.AgreesWith key R g) : f.AgreesWith key S g :=
  ⟨h.name_eq, h.tags_eq, h.specs_eq, fun hread => (h.value hread).mono hRS⟩

/-- Fields that agree have the same rule string. -/
lemma Field.AgreesWith.rulesUnder_eq {key : String} {R : ρ → ρ → Prop} {f g : Field ρ}
    (h : f.AgreesWith key R g) : f.rulesUnder key = g.rulesUnder key := by
  rw [rulesUnder, rulesUnder, tag?, tag?, h.tags_eq]

/-- Fields that agree have the same clauses. -/
lemma Field.AgreesWith.clauses_eq {key : String} {R : ρ → ρ → Prop} {f g : Field ρ}
    (h : f.AgreesWith key R g) : f.clauses key = g.clauses key := by
  rw [clauses, clauses, h.rulesUnder_eq, h.specs_eq]

variable [HasFields ρ]

/-- Two records differ in the values of skipped fields only: their own, and those of the records at
the same place in the values of other fields, on all levels. -/
def DifferInSkipped (key : String) (r q : ρ) : Prop :=
  ∃ R : ρ → ρ → Prop, R r q ∧ ∀ r q, R r q →
    List.Forall₂ (Field.AgreesWith key R) (HasFields.fields r) (HasFields.fields q)

/-- The fields of two such records agree, up to records that are such again. -/
lemma DifferInSkipped.fields {key : String} {r q : ρ} (h : DifferInSkipped key r q) :
    List.Forall₂ (Field.AgreesWith key (DifferInSkipped key)) (HasFields.fields r)
      (HasFields.fields q) := by
  obtain ⟨R, hrq, hfields⟩ := h
  exact (hfields r q hrq).imp fun f g hfg => hfg.mono fun r q hrq => ⟨R, hrq, hfields⟩

/-- Two records are such if their fields agree, up to records that are such.

**Proof sketch.** The relation that is asked for holds of these two records, and of all that differ
in skipped fields only; it goes on from the fields of the one pair and of the others alike. -/
lemma differInSkipped_of_fields {key : String} {r q : ρ}
    (h : List.Forall₂ (Field.AgreesWith key (DifferInSkipped key)) (HasFields.fields r)
      (HasFields.fields q)) : DifferInSkipped key r q := by
  refine ⟨fun r' q' => r' = r ∧ q' = q ∨ DifferInSkipped key r' q', .inl ⟨rfl, rfl⟩, ?_⟩
  rintro r' q' (⟨rfl, rfl⟩ | hdiffer)
  · exact h.imp fun f g hfg => hfg.mono fun _ _ => .inr
  · exact hdiffer.fields.imp fun f g hfg => hfg.mono fun _ _ => .inr

namespace Scope

/-- Two fields are visited at the same place in the walks of two records: fields of the records
themselves, unless they have the skip mark, or of records that are met at the same place in such
fields below the nesting limit. The second scope is that of the visited fields. -/
inductive VisitsBoth : Scope ρ → ρ → ρ → Scope ρ → Field ρ → Field ρ → Prop where
  | own {s : Scope ρ} {r q : ρ} {f g : Field ρ}
    (hfields : (f, g) ∈ (HasFields.fields r).zip (HasFields.fields q))
    (hread : f.rulesUnder s.tagKey ≠ skipMark) : VisitsBoth s r q s f g
  | nested {s : Scope ρ} {r q : ρ} {f g : Field ρ} {met met' : String × ρ} {t : Scope ρ}
    {f' g' : Field ρ} (hfields : (f, g) ∈ (HasFields.fields r).zip (HasFields.fields q))
    (hread : f.rulesUnder s.tagKey ≠ skipMark)
    (hmet : (met, met') ∈ (f.value.records f.name).zip (g.value.records g.name))
    (hdepth : s.depth < s.maxDepth)
    (hvisit : VisitsBoth (s.child met.1) met.2 met'.2 t f' g') : VisitsBoth s r q t f' g'

/-- The records in two fields are met at the same paths. -/
def MeetsAlike (f g : Field ρ) : Prop :=
  (f.value.records f.name).map (·.1) = (g.value.records g.name).map (·.1)

/-- Two entries are at one path, and their errors are related. -/
def Correspond (E : FieldError → FieldError → Prop) (event event' : String × FieldError) : Prop :=
  event.1 = event'.1 ∧ E event.2 event'.2

variable {s : Scope ρ} {E : FieldError → FieldError → Prop} {f g : Field ρ}

/-- Fields that agree have events that correspond, if their own errors do, they meet records at the
same paths, and what is found in these corresponds.

**Proof sketch.** The fields have the same rule string, so both are skipped or neither is. Their own
errors come first, at the same path. Then come the events of the records in the values, which are
met in the same order and at the same paths, pair by pair. -/
lemma fieldEvents_forall₂ {R : ρ → ρ → Prop} (hagree : f.AgreesWith s.tagKey R g)
    {inRecord inRecord' : String → ρ → Entries}
    (hown : f.rulesUnder s.tagKey ≠ skipMark → (s.ownError? f).Rel E (s.ownError? g))
    (hmeet : f.rulesUnder s.tagKey ≠ skipMark → MeetsAlike f g)
    (hbelow : f.rulesUnder s.tagKey ≠ skipMark → ∀ met met',
      (met, met') ∈ (f.value.records f.name).zip (g.value.records g.name) → met.1 = met'.1 →
        R met.2 met'.2 →
          List.Forall₂ (Correspond E) (inRecord met.1 met.2) (inRecord' met'.1 met'.2)) :
    List.Forall₂ (Correspond E) (s.fieldEvents inRecord f) (s.fieldEvents inRecord' g) := by
  rw [fieldEvents, fieldEvents, ← hagree.rulesUnder_eq]
  split_ifs with hread
  · exact .nil
  apply List.rel_append
  · have howns := hown hread
    generalize s.ownError? f = error, s.ownError? g = error' at howns
    cases howns with
    | none => exact .nil
    | some herror => exact .cons ⟨hagree.name_eq, herror⟩ .nil
  · rw [Value.found_eq_flatMap, Value.found_eq_flatMap]
    have hrecords := (hagree.value hread).records_forall₂ f.name g.name
    have hpaths : List.Forall₂ (fun met met' : String × ρ => met.1 = met'.1)
        (f.value.records f.name) (g.value.records g.name) := by
      rw [← List.forall₂_map_right_iff, ← List.forall₂_map_left_iff, List.forall₂_eq_eq_eq]
      exact hmeet hread
    obtain ⟨hlength, hrelated⟩ := List.forall₂_iff_zip.mp hrecords
    have hfound : List.Forall₂ (fun met met' =>
        List.Forall₂ (Correspond E) (inRecord met.1 met.2) (inRecord' met'.1 met'.2))
        (f.value.records f.name) (g.value.records g.name) := by
      refine List.forall₂_iff_zip.mpr ⟨hlength, fun hmet => ?_⟩
      exact hbelow hread _ _ hmet ((List.forall₂_iff_zip.mp hpaths).2 hmet) (hrelated hmet)
    exact List.rel_flatMap hfound fun _ _ h => h

/-- The events of two records that differ in skipped fields only correspond one by one, if so do the
errors of the fields that are visited at the same place, and these fields meet records at the same
paths.

**Proof sketch.** Induction on the levels that are left. The own fields of the two records are
visited at the same place. A pair of records in them is refused at the same path, or it is entered
with the same scope, and what is visited at the same place in it is so from above. -/
lemma flatEvents_forall₂ (hE : ∀ e, E e e) {r q : ρ} (hdiffer : DifferInSkipped s.tagKey r q)
    (hown : ∀ t f g, s.VisitsBoth r q t f g → f.AgreesWith t.tagKey (DifferInSkipped t.tagKey) g →
      (t.ownError? f).Rel E (t.ownError? g))
    (hmeet : ∀ t f g, s.VisitsBoth r q t f g → MeetsAlike f g) :
    List.Forall₂ (Correspond E) (s.flatEvents r) (s.flatEvents q) := by
  induction hlevels : s.maxDepth - s.depth using Nat.strongRecOn generalizing s r q with
  | _ levels ih =>
    rw [flatEvents, flatEvents]
    obtain ⟨hlength, hfields⟩ := List.forall₂_iff_zip.mp hdiffer.fields
    have hevents : List.Forall₂ (fun f g => List.Forall₂ (Correspond E)
        (s.fieldEvents (fun path inner =>
          if s.maxDepth ≤ s.depth then [(path, .depthExceeded s.maxDepth)]
          else Entries.under path ((s.child path).flatEvents inner)) f)
        (s.fieldEvents (fun path inner =>
          if s.maxDepth ≤ s.depth then [(path, .depthExceeded s.maxDepth)]
          else Entries.under path ((s.child path).flatEvents inner)) g))
        (HasFields.fields r) (HasFields.fields q) := by
      refine List.forall₂_iff_zip.mpr ⟨hlength, fun {f g} hzip => ?_⟩
      refine fieldEvents_forall₂ (hfields hzip) (fun hread => hown s f g (.own hzip hread)
        (hfields hzip)) (fun hread => hmeet s f g (.own hzip hread)) ?_
      rintro hread ⟨path, inner⟩ ⟨path', inner'⟩ hmet hpath hinner
      obtain rfl : path = path' := hpath
      dsimp only
      split_ifs with hlimit
      · exact .cons ⟨rfl, hE _⟩ .nil
      · have hbelow : s.depth < s.maxDepth := by omega
        have hevents : List.Forall₂ (Correspond E) ((s.child path).flatEvents inner)
            ((s.child path).flatEvents inner') := by
          refine ih _ ?_ (s := s.child path) hinner
            (fun t f' g' hvisit => hown t f' g' (.nested hzip hread hmet hbelow hvisit))
            (fun t f' g' hvisit => hmeet t f' g' (.nested hzip hread hmet hbelow hvisit)) rfl
          simp only [child]
          omega
        rw [Entries.under, Entries.under, List.forall₂_map_left_iff, List.forall₂_map_right_iff]
        exact hevents.imp fun event event' h => ⟨by rw [h.1], h.2⟩
    -- events are left out for their paths, which correspond
    refine List.rel_filter ?_ (List.rel_flatMap hevents fun _ _ h => h)
    rintro event event' ⟨hpath, -⟩
    simp [hpath]

end Scope

end Verdict
