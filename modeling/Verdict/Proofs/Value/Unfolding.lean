import Mathlib.Data.List.Basic
import Verdict.Value.Outline
import Verdict.Value.Basic

/-!
# Finite unfoldings

Any record can be unfolded into a finite one down to some level: records below that level are left
in place, but lose their fields. Two records with one unfolding agree in all that is above. What is
printed of a value looks only so far, so it is the same for the value with its records unfolded.

## Main definitions

* `Verdict.Value.mapRecords` — a value with each record in it replaced.
* `Verdict.Record.unfolding` — the finite unfolding of a record.

## Main results

* `Verdict.Value.outlineWithin_mapRecords`, `text_mapRecords` — what is printed of a value with its
  records unfolded far enough.
* `Verdict.Record.unfolding_unfolding` — unfolding twice.
-/

namespace Verdict

variable {ρ σ τ : Type}

namespace Value

mutual

/-- A value with each record in it replaced. -/
def mapRecords (g : ρ → σ) : Value ρ → Value σ
  | .absent => .absent
  | .bool b => .bool b
  | .int n => .int n
  | .uint n => .uint n
  | .float x => .float x
  | .str s => .str s
  | .seq items => .seq (mapRecordsInItems g items)
  | .map entries => .map (mapRecordsInEntries g entries)
  | .record r => .record (g r)

/-- The elements of a sequence with each record in them replaced. -/
def mapRecordsInItems (g : ρ → σ) : List (Value ρ) → List (Value σ)
  | [] => []
  | item :: items => mapRecords g item :: mapRecordsInItems g items

/-- The entries of a map with each record in them replaced. -/
def mapRecordsInEntries (g : ρ → σ) : List (Value ρ × Value ρ) → List (Value σ × Value σ)
  | [] => []
  | (key, value) :: entries =>
    (mapRecords g key, mapRecords g value) :: mapRecordsInEntries g entries

end

/-- The elements are replaced one by one. -/
@[simp] lemma mapRecordsInItems_eq_map (g : ρ → σ) (items : List (Value ρ)) :
    mapRecordsInItems g items = items.map (mapRecords g) := by
  induction items with
  | nil => rfl
  | cons item items ih => rw [mapRecordsInItems, ih, List.map_cons]

/-- The entries are replaced one by one. -/
@[simp] lemma mapRecordsInEntries_eq_map (g : ρ → σ) (entries : List (Value ρ × Value ρ)) :
    mapRecordsInEntries g entries =
      entries.map fun entry => (mapRecords g entry.1, mapRecords g entry.2) := by
  induction entries with
  | nil => rfl
  | cons entry entries ih => rw [mapRecordsInEntries, ih, List.map_cons]

mutual

/-- Replacing records twice. -/
lemma mapRecords_mapRecords (g : ρ → σ) (h : σ → τ) : ∀ v : Value ρ,
    (v.mapRecords g).mapRecords h = v.mapRecords fun r => h (g r)
  | .seq items => by rw [mapRecords, mapRecords, mapRecords, mapRecordsInItems_twice]
  | .map entries => by rw [mapRecords, mapRecords, mapRecords, mapRecordsInEntries_twice]
  | .record _ | .absent | .bool _ | .int _ | .uint _ | .float _ | .str _ => by
    simp only [mapRecords]

/-- Replacing records twice in the elements of a sequence. -/
lemma mapRecordsInItems_twice (g : ρ → σ) (h : σ → τ) : ∀ items : List (Value ρ),
    mapRecordsInItems h (mapRecordsInItems g items) = mapRecordsInItems (fun r => h (g r)) items
  | [] => rfl
  | item :: items => by
    rw [mapRecordsInItems, mapRecordsInItems, mapRecordsInItems, mapRecords_mapRecords,
      mapRecordsInItems_twice]

/-- Replacing records twice in the entries of a map. -/
lemma mapRecordsInEntries_twice (g : ρ → σ) (h : σ → τ) : ∀ entries : List (Value ρ × Value ρ),
    mapRecordsInEntries h (mapRecordsInEntries g entries) =
      mapRecordsInEntries (fun r => h (g r)) entries
  | [] => rfl
  | (key, value) :: entries => by
    rw [mapRecordsInEntries, mapRecordsInEntries, mapRecordsInEntries, mapRecords_mapRecords,
      mapRecords_mapRecords, mapRecordsInEntries_twice]

end

mutual

/-- Records that are left out may be any. -/
lemma shallow_mapRecords (g : ρ → σ) : ∀ v : Value ρ, (v.mapRecords g).shallow = v.shallow
  | .seq items => by rw [mapRecords, shallow, shallow, shallowItems_mapRecords]
  | .map entries => by rw [mapRecords, shallow, shallow, shallowEntries_mapRecords]
  | .record _ | .absent | .bool _ | .int _ | .uint _ | .float _ | .str _ => by
    simp only [mapRecords, shallow]

/-- Records that are left out of the elements of a sequence may be any. -/
lemma shallowItems_mapRecords (g : ρ → σ) : ∀ items : List (Value ρ),
    shallowItems (mapRecordsInItems g items) = shallowItems items
  | [] => rfl
  | item :: items => by
    rw [mapRecordsInItems, shallowItems, shallowItems, shallow_mapRecords, shallowItems_mapRecords]

/-- Records that are left out of the entries of a map may be any. -/
lemma shallowEntries_mapRecords (g : ρ → σ) : ∀ entries : List (Value ρ × Value ρ),
    shallowEntries (mapRecordsInEntries g entries) = shallowEntries entries
  | [] => rfl
  | (key, value) :: entries => by
    rw [mapRecordsInEntries, shallowEntries, shallowEntries, shallow_mapRecords, shallow_mapRecords,
      shallowEntries_mapRecords]

end

end Value

/-- A field with each record in its value replaced. -/
def Field.mapRecords (g : ρ → σ) (f : Field ρ) : Field σ :=
  ⟨f.name, f.value.mapRecords g, f.tags, f.specs⟩

variable [HasFields ρ]

/-- The finite unfolding of a record: it and the records below it keep their fields on so many
levels, and the records on the next level have none. -/
def Record.unfolding : Nat → ρ → Record
  | 0, _ => .plain []
  | levels + 1, r => .plain ((HasFields.fields r).map (Field.mapRecords (unfolding levels)))

namespace Record

/-- The fields of an unfolding are those of the record, with the records in them unfolded. -/
lemma fields_unfolding (levels : Nat) (r : ρ) : HasFields.fields (unfolding (levels + 1) r) =
    (HasFields.fields r).map (Field.mapRecords (unfolding levels)) := rfl

/-- An unfolding unfolds like its record on the levels that it has.

**Proof sketch.** Induction on the levels. The fields of the unfolding are unfolded again, with one
level less of both. -/
lemma unfolding_unfolding {levels more : Nat} (h : levels ≤ more) (r : ρ) :
    unfolding levels (unfolding more r) = unfolding levels r := by
  induction levels generalizing more r with
  | zero => rfl
  | succ levels ih =>
    obtain ⟨more, rfl⟩ : ∃ k, more = k + 1 := ⟨more - 1, by omega⟩
    rw [unfolding, fields_unfolding, unfolding, List.map_map]
    congr 1
    apply List.map_congr_left
    intro f _
    have hvalue : (f.value.mapRecords (unfolding more)).mapRecords (unfolding levels) =
        f.value.mapRecords (unfolding levels) := by
      rw [Value.mapRecords_mapRecords]
      congr 1
      funext inner
      exact ih (by omega) inner
    rw [Function.comp_apply, Field.mapRecords, Field.mapRecords, Field.mapRecords, hvalue]

end Record

namespace Value

open Record

/-- An outline looks at the fields of records on no more levels than it has.

**Proof sketch.** Induction on the levels of the outline. Sequences and maps take a level of the
outline and none of the unfolding, and a record takes one of both, so the unfolding is never used up
before the outline is. At the last level records are left out. -/
lemma outlineWithin_mapRecords {depth levels : Nat} (h : depth ≤ levels) (v : Value ρ) :
    (v.mapRecords (unfolding levels)).outlineWithin depth = v.outlineWithin depth := by
  induction depth generalizing levels v with
  | zero =>
    rw [outlineWithin, outlineWithin]
    exact shallow_mapRecords _ v
  | succ depth ih =>
    have hdepth : depth ≤ levels := by omega
    cases v with
    | seq items =>
      rw [mapRecords, mapRecordsInItems_eq_map, outlineWithin, outlineWithin, List.map_map]
      congr 1
      apply List.map_congr_left
      intro item _
      exact ih hdepth item
    | map entries =>
      rw [mapRecords, mapRecordsInEntries_eq_map, outlineWithin, outlineWithin, List.map_map]
      congr 1
      apply List.map_congr_left
      intro entry _
      rw [Function.comp_apply, ih hdepth, ih hdepth]
    | record r =>
      obtain ⟨levels, rfl⟩ : ∃ k, levels = k + 1 := ⟨levels - 1, by omega⟩
      rw [mapRecords, outlineWithin, outlineWithin, fields_unfolding, List.map_map]
      congr 1
      apply List.map_congr_left
      intro f _
      rw [Function.comp_apply, Field.mapRecords, ih (by omega)]
    | absent | bool | int | uint | float | str => rfl

/-- The text of a value shows its records on no more levels than print. -/
lemma text_mapRecords {levels : Nat} (h : printDepth ≤ levels) (v : Value ρ) :
    (v.mapRecords (unfolding levels)).text = v.text := by
  rw [text, text, outline, outline, outlineWithin_mapRecords h]

end Value

end Verdict
