import Verdict.Proofs.Walk.Produced
import Verdict.Schema.Basic

/-!
# Bound documents

A document that is bound to a schema is a record whose fields are those of the schema, with the
members of the document as values. The records in such a value are the objects that are met through
arrays, each bound to the schema of the field. Objects that no schema describes hold no records.

## Main definitions

* `Verdict.Json.member` — the member of a name.
* `Verdict.Json.itemAt?` — the item of nested arrays at given positions.

## Main results

* `Verdict.Schema.fields_of_bind` — the fields of a bound document.
* `Verdict.Json.mem_spots_toValue` — the records in a value are items that are bound.
* `Verdict.Json.records_toValue` — they are met in arrays only.
* `Verdict.Schema.sequenced_bound` — so bound documents hold other records in sequences only.
-/

namespace Verdict

namespace Json

/-- The member of a name; a missing one is null. -/
def member (members : List (String × Json)) (name : String) : Json :=
  (Table.get? members name).getD .null

/-- The item of nested arrays at given positions, of which the first is in the outermost array. -/
def itemAt? : Json → List Nat → Option Json
  | d, [] => some d
  | .arr items, i :: positions => items[i]?.bind fun item => item.itemAt? positions
  | _, _ :: _ => none

/-- A member has the value that is found; where none is found, there is null.

**Proof sketch.** Induction on the members. The first one has the name or is passed over. -/
lemma toMemberValue_eq (members : List (String × Json)) (name : String) (schema? : Option Schema) :
    toMemberValue members name schema? = (member members name).toValue schema? := by
  rw [member]
  induction members with
  | nil =>
    rw [toMemberValue, Table.get?, Option.getD_none, toValue]
  | cons first members ih =>
    rw [toMemberValue, Table.get?]
    split_ifs
    · rfl
    · exact ih

/-! ### Records in values -/

mutual

/-- There are no records in a value that no schema describes. -/
lemma records_toValue_none : ∀ (d : Json) (path : String), (d.toValue none).records path = []
  | .arr items, path => by
    rw [toValue, Value.records, recordsOfItems_toValues_none items path 0]
  | .obj members, path => by
    rw [toValue, Value.records, recordsOfEntries_toEntries members path]
  | .int n, path => by
    rw [toValue]
    split_ifs <;> rw [Value.records]
  | .null, path | .bool _, path | .float _, path | .str _, path => by
    rw [toValue, Value.records]

/-- So it is for the items of an array. -/
lemma recordsOfItems_toValues_none : ∀ (items : List Json) (path : String) (i : Nat),
    Value.recordsOfItems path i (toValues items none) = []
  | [], path, i => by rw [toValues, Value.recordsOfItems]
  | item :: items, path, i => by
    rw [toValues, Value.recordsOfItems, records_toValue_none item,
      recordsOfItems_toValues_none items, List.append_nil]

/-- So it is for the members of an object, whose names are texts. -/
lemma recordsOfEntries_toEntries : ∀ (members : List (String × Json)) (path : String),
    Value.recordsOfEntries path (toEntries members) = []
  | [], path => by rw [toEntries, Value.recordsOfEntries]
  | (name, value) :: members, path => by
    rw [toEntries, Value.recordsOfEntries]
    rw [Value.records, records_toValue_none value, recordsOfEntries_toEntries members]
    rfl

end

mutual

/-- The records in a value are met in arrays only, each at its positions.

**Proof sketch.** Induction on the document. An array meets the records of its items, each behind
its position, and a described object is one record, at no positions. Objects that no schema
describes are maps, and hold no records. -/
lemma records_toValue : ∀ (d : Json) (schema? : Option Schema) (path : String),
    (d.toValue schema?).records path =
      (d.toValue schema?).spots.map fun spot => (path ++ positionsText spot.1, spot.2)
  | .arr items, schema?, path => by
    rw [toValue, Value.records, Value.spots, recordsOfItems_toValues items schema? path 0]
  | .obj members, none, path => by
    rw [records_toValue_none, toValue, Value.spots, List.map_nil]
  | .obj members, some (.mk module? fields), path => by
    rw [toValue, Value.records, Value.spots, List.map_singleton, positionsText, String.append_empty]
  | .int n, schema?, path => by
    rw [toValue]
    split_ifs <;> rw [Value.records, Value.spots, List.map_nil]
  | .null, schema?, path | .bool _, schema?, path | .float _, schema?, path
  | .str _, schema?, path => by
    rw [toValue, Value.records, Value.spots, List.map_nil]

/-- The records in the items of an array are met at the positions of these. -/
lemma recordsOfItems_toValues : ∀ (items : List Json) (schema? : Option Schema) (path : String)
    (i : Nat), Value.recordsOfItems path i (toValues items schema?) =
      (Value.spotsOfItems i (toValues items schema?)).map fun spot =>
        (path ++ positionsText spot.1, spot.2)
  | [], schema?, path, i => by
    rw [toValues, Value.recordsOfItems, Value.spotsOfItems, List.map_nil]
  | item :: items, schema?, path, i => by
    rw [toValues, Value.recordsOfItems, Value.spotsOfItems, List.map_append, List.map_map,
      records_toValue item, recordsOfItems_toValues items]
    simp only [Function.comp_def, positionsText, String.append_assoc]

end

end Json

/-! ### Bound documents -/

namespace Schema

variable {s : Schema} {d : Json} {r : Record}

/-- A document is bound if its value is a record. -/
lemma bind_eq_ok_iff : s.bind d = .ok r ↔ d.toValue (some s) = .record r := by
  rw [bind]
  split <;> simp_all

/-- A bound document is an object. Its fields are those of the schema, each with the value of the
member under the schema of the field.

**Proof sketch.** Only an object becomes a record, and its fields are made of those of the schema,
one by one. -/
lemma fields_of_bind (h : s.bind d = .ok r) : ∃ members, d = .obj members ∧
    ∀ f ∈ HasFields.fields r, ∃ field ∈ s.fields, f.name = field.1 ∧
      f.value = (Json.member members field.1).toValue field.2.schema? := by
  obtain ⟨module?, fields⟩ := s
  rw [bind_eq_ok_iff] at h
  cases d with
  | obj members =>
    rw [Json.toValue, Value.record.injEq] at h
    subst h
    refine ⟨members, rfl, fun f hf => ?_⟩
    obtain ⟨field, hfield, rfl⟩ := List.mem_map.mp hf
    exact ⟨field, hfield, rfl, Json.toMemberValue_eq members field.1 field.2.schema?⟩
  | int n =>
    rw [Json.toValue] at h
    split_ifs at h
  | null | bool | float | str | arr =>
    rw [Json.toValue] at h
    contradiction

end Schema

namespace Json

mutual

/-- A record in a value is an item of nested arrays that is bound to the schema of the value.

**Proof sketch.** Induction on the document. An array has the records of its items, found at one
position more; a described object is the record itself, at no positions, and is bound to the schema.
Nothing else has records in it. -/
lemma mem_spots_toValue : ∀ (d : Json) (schema? : Option Schema) (spot : List Nat × Record),
    spot ∈ (d.toValue schema?).spots → ∃ item s, d.itemAt? spot.1 = some item ∧
      schema? = some s ∧ s.bind item = .ok spot.2
  | .arr items, schema?, spot, h => by
    rw [toValue, Value.spots] at h
    obtain ⟨k, positions, item, hspot, hitem, found, s, hfound, hs, hbind⟩ :=
      mem_spotsOfItems_toValues items schema? 0 spot h
    refine ⟨found, s, ?_, hs, hbind⟩
    rw [hspot, itemAt?, Nat.zero_add, hitem]
    exact hfound
  | .obj members, none, spot, h => by
    rw [toValue, Value.spots] at h
    contradiction
  | .obj members, some (.mk module? fields), spot, h => by
    rw [toValue, Value.spots, List.mem_singleton] at h
    subst h
    refine ⟨.obj members, _, itemAt?.eq_1 _, rfl, ?_⟩
    rw [Schema.bind_eq_ok_iff, toValue]
  | .int n, schema?, spot, h => by
    rw [toValue] at h
    split_ifs at h
    all_goals
      rw [Value.spots] at h
      contradiction
  | .null, schema?, spot, h | .bool _, schema?, spot, h | .float _, schema?, spot, h
  | .str _, schema?, spot, h => by
    rw [toValue, Value.spots] at h
    contradiction

/-- A record in the items of an array, from a position on, is in the item at its first position.

**Proof sketch.** The record is in the first item, or in one of the others, of which the positions
count from one more. -/
lemma mem_spotsOfItems_toValues : ∀ (items : List Json) (schema? : Option Schema) (i : Nat)
    (spot : List Nat × Record), spot ∈ Value.spotsOfItems i (toValues items schema?) →
      ∃ k positions item, spot.1 = (i + k) :: positions ∧ items[k]? = some item ∧
        ∃ found s, item.itemAt? positions = some found ∧ schema? = some s ∧
          s.bind found = .ok spot.2
  | [], schema?, i, spot, h => by
    rw [toValues, Value.spotsOfItems] at h
    contradiction
  | item :: items, schema?, i, spot, h => by
    rw [toValues, Value.spotsOfItems] at h
    rcases List.mem_append.mp h with h | h
    · obtain ⟨inner, hinner, rfl⟩ := List.mem_map.mp h
      exact ⟨0, inner.1, item, rfl, rfl, mem_spots_toValue item schema? inner hinner⟩
    · obtain ⟨k, positions, found, hspot, hitem, hfound⟩ :=
        mem_spotsOfItems_toValues items schema? (i + 1) spot h
      have hposition : i + 1 + k = i + (k + 1) := by omega
      exact ⟨k + 1, positions, found, by rw [hspot, hposition], hitem, hfound⟩

end

end Json

/-- In a bound document, the records in values are in sequences, and are bound as well.

**Proof sketch.** The value of a field is that of a member under the schema of the field. So its
records are met at the positions of the arrays around them (`Json.records_toValue`), and are bound
to this schema (`Json.mem_spots_toValue`). -/
lemma Schema.sequenced_bound : Sequenced fun r : Record => ∃ (s : Schema) (d : Json),
    s.bind d = .ok r where
  records_eq := by
    rintro r ⟨s, d, hbind⟩ f hf
    obtain ⟨members, -, hfields⟩ := fields_of_bind hbind
    obtain ⟨field, -, -, hvalue⟩ := hfields f hf
    rw [hvalue]
    exact Json.records_toValue _ _ f.name
  nested := by
    rintro r ⟨s, d, hbind⟩ f hf spot hspot
    obtain ⟨members, -, hfields⟩ := fields_of_bind hbind
    obtain ⟨field, -, -, hvalue⟩ := hfields f hf
    rw [hvalue] at hspot
    obtain ⟨item, inner, -, -, hbound⟩ := Json.mem_spots_toValue _ _ spot hspot
    exact ⟨inner, item, hbound⟩

end Verdict
