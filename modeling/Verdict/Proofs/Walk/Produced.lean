import Verdict.Proofs.Walk.Flat
import Verdict.Proofs.Walk.Place

/-!
# Events with their places

The events of a record have paths, which are texts. This file says the same events with the places
that these texts are of: the fields that are gone through, and the positions in their values. It
covers records that are met in sequences only, since there are no positions in maps.

## Main definitions

* `Verdict.Value.spots` — the records in a value with their positions.
* `Verdict.Scope.produced` — the events of a record with their places, in order.
* `Verdict.Sequenced` — a property of records that hold other records in sequences only.
* `Verdict.Positioned` — a property that makes places of all that is met in a record.

## Main results

* `Verdict.Scope.flatEvents_eq_filter_produced` — the paths of events are the texts of their places;
  what is produced at a field without a name is dropped.
* `Verdict.Scope.flatEvents_eq_map_produced` — if all fields have names, nothing is dropped.
-/

namespace Verdict

variable {ρ : Type}

namespace Value

mutual

/-- The records in a value, each with its position in every sequence around it. What is in maps is
left out. -/
def spots : Value ρ → List (List Nat × ρ)
  | .record r => [([], r)]
  | .seq items => spotsOfItems 0 items
  | .map _ | .absent | .bool _ | .int _ | .uint _ | .float _ | .str _ => []

/-- The records in the elements of a sequence, of which the first has the given position. -/
def spotsOfItems (i : Nat) : List (Value ρ) → List (List Nat × ρ)
  | [] => []
  | item :: items =>
    (spots item).map (fun spot => (i :: spot.1, spot.2)) ++ spotsOfItems (i + 1) items

end

end Value

variable [HasFields ρ]

namespace Scope

/-- The events of a field with their places: its own error, and what is produced in the records in
its value. A field with the skip mark has none. -/
def fieldProduced (s : Scope ρ) (inRecord : Leg → ρ → List (Place × FieldError)) (f : Field ρ) :
    List (Place × FieldError) :=
  if f.rulesUnder s.tagKey = skipMark then []
  else ((s.ownError? f).toList.map fun error => ([⟨f.name, []⟩], error)) ++
    f.value.spots.flatMap fun spot => inRecord ⟨f.name, spot.1⟩ spot.2

/-- The events of a record with their places: those of its fields in order. A record in a value is
refused at the nesting limit; below it, the way to its events goes through the record. -/
def produced (s : Scope ρ) (r : ρ) : List (Place × FieldError) :=
  (HasFields.fields r).flatMap <| s.fieldProduced fun leg inner =>
    if s.maxDepth ≤ s.depth then [([leg], .depthExceeded s.maxDepth)]
    else ((s.child leg.text).produced inner).map fun event => (leg :: event.1, event.2)
termination_by s.maxDepth - s.depth
decreasing_by
  simp only [child]
  omega

end Scope

/-- In the values of a record with the property, records are in sequences only, and these records
have the property too. -/
structure Sequenced (P : ρ → Prop) : Prop where
  records_eq : ∀ r, P r → ∀ f ∈ HasFields.fields r, f.value.records f.name =
    f.value.spots.map fun spot => (Leg.text ⟨f.name, spot.1⟩, spot.2)
  nested : ∀ r, P r → ∀ f ∈ HasFields.fields r, ∀ spot ∈ f.value.spots, P spot.2

/-- All that is met in a record with the property has a place: the records in it are in sequences,
and besides its fields have names. -/
structure Positioned (P : ρ → Prop) : Prop extends Sequenced P where
  name_ne_empty : ∀ r, P r → ∀ f ∈ HasFields.fields r, f.name ≠ ""

/-- A place ends at a field without a name. The path of such a place within its record is empty. -/
def Place.Unnamed (place : Place) : Prop := place.getLast? = some ⟨"", []⟩

instance (place : Place) : Decidable place.Unnamed :=
  inferInstanceAs (Decidable (place.getLast? = some ⟨"", []⟩))

/-- The text of a place with a single leg is that of the leg. -/
lemma Place.text_singleton (leg : Leg) : text [leg] = leg.text := String.append_empty

/-- A place with a single leg has the empty path if and only if it is a field without a name. -/
lemma Place.text_singleton_eq_empty_iff {leg : Leg} : text [leg] = "" ↔ Place.Unnamed [leg] := by
  obtain ⟨name, positions⟩ := leg
  rw [text_singleton, Leg.text, String.append_eq_empty_iff]
  cases positions with
  | nil => simp [positionsText, Unnamed]
  | cons i positions => simp [positionsText, Unnamed]

/-- Whether a place ends at a field without a name does not depend on where it starts. -/
lemma Place.unnamed_cons_iff {leg : Leg} {place : Place} (h : place ≠ []) :
    Place.Unnamed (leg :: place) ↔ place.Unnamed := by
  rw [Unnamed, Unnamed, List.getLast?_cons_of_ne_nil h]

/-- An event with the text of its place. -/
def located (event : Place × FieldError) : String × FieldError := (event.1.text, event.2)

/-- If a text is that of one place only, its error is the first one at this place.

**Proof sketch.** Induction on the events. An event has the text of the place if and only if it is
at the place, so both sides take the same event. -/
lemma get?_map_located {events : List (Place × FieldError)} {place : Place}
    (hplace : ∀ event ∈ events, event.1.text = place.text → event.1 = place) :
    Entries.get? (events.map located) place.text =
      (events.find? fun event => event.1 = place).map (·.2) := by
  induction events with
  | nil => rfl
  | cons event events ih =>
    obtain ⟨hevent, hevents⟩ := List.forall_mem_cons.mp hplace
    rw [List.map_cons, Entries.get?_cons, ih hevents]
    have htext : (located event).1 = place.text ↔ event.1 = place :=
      ⟨hevent, congrArg Place.text⟩
    by_cases heq : event.1 = place
    · rw [List.find?_cons_of_pos (by simpa using heq), if_pos (htext.mpr heq)]
      rfl
    · rw [List.find?_cons_of_neg (by simpa using heq), if_neg (mt htext.mp heq)]

/-- Taking events out by their paths or by their places is the same, where the empty path is that of
the places without a name at their end. -/
lemma filter_map_located {events : List (Place × FieldError)}
    (h : ∀ event ∈ events, event.1.text = "" ↔ event.1.Unnamed) :
    ((events.map located).filter fun event => event.1 ≠ "") =
      (events.filter fun event => ¬event.1.Unnamed).map located := by
  rw [List.filter_map]
  congr 1
  apply List.filter_congr
  intro event hevent
  simp only [Function.comp_apply, located, ne_eq, h event hevent]

namespace Scope

variable {s : Scope ρ} {r : ρ} {f : Field ρ}

/-- An event of a field is its own error, or it is produced in a record in its value. -/
lemma mem_fieldProduced {inRecord : Leg → ρ → List (Place × FieldError)}
    {event : Place × FieldError} (h : event ∈ s.fieldProduced inRecord f) :
    (∃ error, s.ownError? f = some error ∧ event = ([⟨f.name, []⟩], error)) ∨
      ∃ spot ∈ f.value.spots, event ∈ inRecord ⟨f.name, spot.1⟩ spot.2 := by
  rw [fieldProduced] at h
  split_ifs at h
  · contradiction
  · rcases List.mem_append.mp h with h | h
    · obtain ⟨error, herror, rfl⟩ := List.mem_map.mp h
      exact Or.inl ⟨error, Option.mem_toList.mp herror, rfl⟩
    · exact Or.inr (List.mem_flatMap.mp h)

/-- An event is the own error of a field of the record; or it is the refusal of a record in the
value of a field, at the nesting limit; or, below it, it goes on through such a record.

**Proof sketch.** An event of the record is one of a field: its own error, or one in a record in its
value. There, at the nesting limit, it is the refusal; below it, it is an event of that record
behind the leg. -/
lemma mem_produced_cases {event : Place × FieldError} (h : event ∈ s.produced r) :
    ∃ f ∈ HasFields.fields r,
      (∃ error, s.ownError? f = some error ∧ event = ([⟨f.name, []⟩], error)) ∨
        ∃ spot ∈ f.value.spots,
          s.maxDepth ≤ s.depth ∧ event = ([⟨f.name, spot.1⟩], .depthExceeded s.maxDepth) ∨
            s.depth < s.maxDepth ∧
              ∃ below ∈ (s.child (Leg.text ⟨f.name, spot.1⟩)).produced spot.2,
                event = (⟨f.name, spot.1⟩ :: below.1, below.2) := by
  rw [produced] at h
  obtain ⟨f, hf, h⟩ := List.mem_flatMap.mp h
  refine ⟨f, hf, (mem_fieldProduced h).imp_right ?_⟩
  rintro ⟨spot, hspot, h⟩
  refine ⟨spot, hspot, ?_⟩
  split_ifs at h with hlimit
  · exact Or.inl ⟨hlimit, List.mem_singleton.mp h⟩
  · obtain ⟨below, hbelow, rfl⟩ := List.mem_map.mp h
    exact Or.inr ⟨by omega, below, hbelow, rfl⟩

/-- The place of an event starts at a field of the record. There it ends, or it ends at a record in
the value of the field that is refused, or it goes on through a record in the value. -/
lemma mem_produced {event : Place × FieldError} (h : event ∈ s.produced r) :
    ∃ f ∈ HasFields.fields r, event.1 = [⟨f.name, []⟩] ∨ ∃ spot ∈ f.value.spots,
      event.1 = [⟨f.name, spot.1⟩] ∨ s.depth < s.maxDepth ∧
        ∃ below ∈ (s.child (Leg.text ⟨f.name, spot.1⟩)).produced spot.2,
          event.1 = ⟨f.name, spot.1⟩ :: below.1 := by
  obtain ⟨f, hf, h⟩ := mem_produced_cases h
  refine ⟨f, hf, ?_⟩
  rcases h with ⟨error, -, rfl⟩ | ⟨spot, hspot, ⟨-, rfl⟩ | ⟨hdepth, below, hbelow, rfl⟩⟩
  · exact Or.inl rfl
  · exact Or.inr ⟨spot, hspot, Or.inl rfl⟩
  · exact Or.inr ⟨spot, hspot, Or.inr ⟨hdepth, below, hbelow, rfl⟩⟩

/-- Every event has a place within the record. -/
lemma ne_nil_of_mem_produced {event : Place × FieldError} (h : event ∈ s.produced r) :
    event.1 ≠ [] := by
  obtain ⟨f, -, h | ⟨spot, -, h | ⟨-, below, -, h⟩⟩⟩ := mem_produced h <;> simp [h]

/-- The events of a field that have paths have the texts of their places as paths, if this is so in
the records in its value.

**Proof sketch.** The own error of a field is at the place of the field, whose text is its name, and
this is empty just if the field has no name. For the records in its value it is assumed; they are
met at the texts of the legs to them. -/
lemma fieldEvents_eq_filter_map {inRecord : String → ρ → Entries}
    {inLeg : Leg → ρ → List (Place × FieldError)}
    (hrecords : f.value.records f.name =
      f.value.spots.map fun spot => (Leg.text ⟨f.name, spot.1⟩, spot.2))
    (hbelow : ∀ spot ∈ f.value.spots,
      ((inRecord (Leg.text ⟨f.name, spot.1⟩) spot.2).filter fun event => event.1 ≠ "") =
        ((inLeg ⟨f.name, spot.1⟩ spot.2).filter fun event => ¬event.1.Unnamed).map located) :
    ((s.fieldEvents inRecord f).filter fun event => event.1 ≠ "") =
      ((s.fieldProduced inLeg f).filter fun event => ¬event.1.Unnamed).map located := by
  rw [fieldEvents, fieldProduced]
  split_ifs
  · rfl
  · have hown : ((s.ownError? f).toList.map fun error => (f.name, error)) =
        ((s.ownError? f).toList.map fun error => ([⟨f.name, []⟩], error)).map located := by
      simp [Function.comp_def, located, Place.text_singleton, Leg.text, positionsText]
    rw [Value.found_eq_flatMap, hrecords, hown, List.filter_append, List.filter_append,
      List.map_append, List.flatMap_map, List.filter_flatMap, List.filter_flatMap,
      List.map_flatMap]
    congr 1
    · apply filter_map_located
      rintro event hevent
      obtain ⟨error, -, rfl⟩ := List.mem_map.mp hevent
      exact Place.text_singleton_eq_empty_iff
    · exact List.flatMap_congr hbelow

/-- The events of a record have the texts of their places as paths. What is produced at a field
without a name has the empty path in the record of this field, and is dropped.

**Proof sketch.** Induction on the levels that are left. The events in a record in the value of a
field come behind the text of the leg to this record and a dot, and there the text of the whole
place has them, since no event is at the record itself. Behind the dot no path is empty, so what is
dropped further out is only what ends at the field. -/
lemma flatEvents_eq_filter_produced {P : ρ → Prop} (hP : Sequenced P) (s : Scope ρ) {r : ρ}
    (hr : P r) :
    s.flatEvents r = ((s.produced r).filter fun event => ¬event.1.Unnamed).map located := by
  induction hlevels : s.maxDepth - s.depth using Nat.strongRecOn generalizing s r with
  | _ levels ih =>
    rw [flatEvents, produced, List.filter_flatMap, List.filter_flatMap, List.map_flatMap]
    apply List.flatMap_congr
    intro f hf
    apply fieldEvents_eq_filter_map (hP.records_eq r hr f hf)
    intro spot hspot
    split_ifs with hlimit
    · have hrefused : [(Leg.text ⟨f.name, spot.1⟩, FieldError.depthExceeded s.maxDepth)] =
          [([⟨f.name, spot.1⟩], FieldError.depthExceeded s.maxDepth)].map located := by
        simp [located, Place.text_singleton]
      rw [hrefused]
      apply filter_map_located
      intro event hevent
      rw [List.mem_singleton.mp hevent]
      exact Place.text_singleton_eq_empty_iff
    · have hbelow := ih _ (by simp only [child]; omega) (s.child (Leg.text ⟨f.name, spot.1⟩))
        (hP.nested r hr f hf spot hspot) rfl
      have hpaths : ∀ event ∈ Entries.under (Leg.text ⟨f.name, spot.1⟩)
          ((s.child (Leg.text ⟨f.name, spot.1⟩)).flatEvents spot.2),
          decide (event.1 ≠ "") = true := by
        rw [Entries.under, List.forall_mem_map]
        intro event _
        exact decide_eq_true (Errors.under_ne_empty _ event.1)
      -- a leg in front does not change what is dropped
      have hdropped : ((s.child (Leg.text ⟨f.name, spot.1⟩)).produced spot.2).filter
            ((fun event : Place × FieldError => decide ¬event.1.Unnamed) ∘
              fun event => (⟨f.name, spot.1⟩ :: event.1, event.2)) =
          ((s.child (Leg.text ⟨f.name, spot.1⟩)).produced spot.2).filter
            fun event => ¬event.1.Unnamed := by
        apply List.filter_congr
        intro event hevent
        simp only [Function.comp_apply, Place.unnamed_cons_iff (ne_nil_of_mem_produced hevent)]
      rw [List.filter_eq_self.mpr hpaths, hbelow, Entries.under, List.map_map, List.filter_map,
        hdropped, List.map_map]
      apply List.map_congr_left
      intro event hevent
      have hplace := ne_nil_of_mem_produced (List.mem_of_mem_filter hevent)
      simp [located, Place.text_cons hplace]

/-- If all fields have names, no place ends at a field without one.

**Proof sketch.** Induction on the levels that are left. A place that ends at a field or at a record
in its value ends at a name, and any other place ends where it does in that record. -/
lemma not_unnamed_of_mem_produced {P : ρ → Prop} (hP : Positioned P) (s : Scope ρ) {r : ρ}
    (hr : P r) {event : Place × FieldError} (h : event ∈ s.produced r) : ¬event.1.Unnamed := by
  induction hlevels : s.maxDepth - s.depth using Nat.strongRecOn generalizing s r event with
  | _ levels ih =>
    obtain ⟨f, hf, h⟩ := mem_produced h
    have hname := hP.name_ne_empty r hr f hf
    rcases h with h | ⟨spot, hspot, h | ⟨hdepth, below, hbelow, h⟩⟩
    · simp [h, Place.Unnamed, hname]
    · simp [h, Place.Unnamed, hname]
    · rw [h, Place.unnamed_cons_iff (ne_nil_of_mem_produced hbelow)]
      exact ih _ (by simp only [child]; omega) _ (hP.nested r hr f hf spot hspot) hbelow rfl

/-- The paths of the events of a record are the texts of their places, if all fields have names. -/
lemma flatEvents_eq_map_produced {P : ρ → Prop} (hP : Positioned P) (s : Scope ρ) {r : ρ}
    (hr : P r) : s.flatEvents r = (s.produced r).map located := by
  rw [flatEvents_eq_filter_produced hP.toSequenced s hr, List.filter_eq_self.mpr]
  intro event hevent
  exact decide_eq_true (not_unnamed_of_mem_produced hP s hr hevent)

end Scope

end Verdict
