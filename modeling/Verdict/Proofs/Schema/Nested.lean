import Verdict.Proofs.Table.Lookup
import Verdict.Schema.Json

/-!
# Nested schemas

A field of a schema may have a schema of its own, and so on. A schema that is built up field by
field or read from data names no field twice, and neither does any schema within it.

## Main definitions

* `Verdict.Schema.Within` — the schemas within a schema, itself included.
* `Verdict.Schema.Everywhere` — all of them have a property.
* `Verdict.Schema.Distinct` — none of them names a field twice.
* `Verdict.Schema.KeptByReading` — properties that schemas have because of how they are read.

## Main results

* `Verdict.Schema.Distinct.field` — defining a field in a distinct schema.
* `Verdict.Schema.everywhere_of_ofNode?`, `distinct_of_ofNode?` — a schema that is read has such a
  property everywhere; for one, it is distinct.
-/

namespace Verdict

/-- A schema is within another one: it is that one, or within the schema of one of its fields. -/
inductive Schema.Within : Schema → Schema → Prop where
  | self (s : Schema) : Within s s
  | nested {t s inner : Schema} {field : String × FieldSchema} (hfield : field ∈ s.fields)
    (hinner : field.2.schema? = some inner) (h : Within t inner) : Within t s

/-- All schemas within a schema have a property. -/
def Schema.Everywhere (P : Schema → Prop) (s : Schema) : Prop := ∀ t, t.Within s → P t

/-- All schemas within the schema of a field have a property, if the field has a schema. -/
def FieldSchema.Everywhere (P : Schema → Prop) (f : FieldSchema) : Prop :=
  ∀ inner, f.schema? = some inner → inner.Everywhere P

/-- No schema within a schema names a field twice. -/
def Schema.Distinct (s : Schema) : Prop := s.Everywhere fun t => t.fields.keys.Nodup

/-- No schema within the schema of a field names a field twice. -/
def FieldSchema.Distinct (f : FieldSchema) : Prop := f.Everywhere fun t => t.fields.keys.Nodup

/-! ### Building -/

namespace FieldSchema

variable {P : Schema → Prop}

/-- In a bare field there is no schema, so any property holds everywhere in it. -/
lemma everywhere_bare (rules : String) : (bare rules).Everywhere P := by
  simp [Everywhere, schema?]

/-- What holds everywhere in a schema holds everywhere in a field with this schema. -/
lemma everywhere_nested {rules : String} {s : Schema} (hs : s.Everywhere P) :
    (nested rules s).Everywhere P := by
  rintro inner ⟨⟩
  exact hs

end FieldSchema

namespace Schema

variable {P : Schema → Prop} {s : Schema}

/-- A property holds everywhere in a schema if and only if it holds of the schema and everywhere in
the schemas of its fields.

**Proof sketch.** A schema within another one is that schema, or is within the schema of a field.
The two cases are the two parts. -/
lemma everywhere_iff : s.Everywhere P ↔ P s ∧ ∀ field ∈ s.fields, field.2.Everywhere P := by
  constructor
  · intro h
    refine ⟨h s (.self s), fun field hfield inner hinner t ht => ?_⟩
    exact h t (.nested hfield hinner ht)
  · rintro ⟨hself, hfields⟩ t ht
    cases ht with
    | self => exact hself
    | nested hfield hinner ht => exact hfields _ hfield _ hinner t ht

/-- Without fields, a property holds everywhere in a schema if it holds of the schema. -/
lemma everywhere_nil {module? : Option String} (h : P (mk module? [])) :
    (mk module? []).Everywhere P :=
  everywhere_iff.mpr ⟨h, by simp [fields]⟩

/-- Defining a field keeps a property everywhere, if it holds everywhere in the schema of the field
and of the schema with the field. -/
lemma Everywhere.field (hs : s.Everywhere P) {name : String} {f : FieldSchema}
    (hf : f.Everywhere P) (h : P (s.field name f)) : (s.field name f).Everywhere P := by
  refine everywhere_iff.mpr ⟨h, fun field hfield => ?_⟩
  rcases Table.mem_of_mem_put hfield with rfl | hfield
  · exact hf
  · exact (everywhere_iff.mp hs).2 field hfield

/-- A schema without fields names none twice. -/
lemma distinct_nil (module? : Option String) : (mk module? []).Distinct :=
  everywhere_nil List.nodup_nil

/-- Defining a field in a distinct schema gives a distinct schema. -/
theorem Distinct.field (hs : s.Distinct) (name : String) {f : FieldSchema} (hf : f.Distinct) :
    (s.field name f).Distinct :=
  Everywhere.field hs hf (Table.nodup_put (everywhere_iff.mp hs).1 name f)

end Schema

/-! ### Reading -/

/-- A partial function makes a list of another one just if it makes the members of the members.

**Proof sketch.** Induction on the first list. Each step is two binds, of the first member and of
the rest. -/
lemma mapM_eq_some_iff {α β : Type} {f : α → Option β} {l : List α} {l' : List β} :
    l.mapM f = some l' ↔ List.Forall₂ (fun a b => f a = some b) l l' := by
  induction l generalizing l' with
  | nil => simp [eq_comm]
  | cons a l ih =>
    rw [List.mapM_cons]
    constructor
    · intro h
      obtain ⟨first, hfirst, h⟩ := Option.bind_eq_some_iff.mp h
      obtain ⟨rest, hrest, h⟩ := Option.bind_eq_some_iff.mp h
      obtain rfl := Option.some.inj h
      exact .cons hfirst (ih.mp hrest)
    · rintro (_ | ⟨hfirst, hrest⟩)
      rw [hfirst, ih.mpr hrest]
      rfl

/-- Of two lists that are related member by member, what is in the second one has a partner. -/
lemma exists_of_mem_of_forall₂ {α β : Type} {R : α → β → Prop} {l : List α} {l' : List β}
    (h : List.Forall₂ R l l') {b : β} (hb : b ∈ l') : ∃ a, R a b := by
  induction h with
  | nil => contradiction
  | @cons a _ _ _ hfirst _ ih =>
    rcases List.mem_cons.mp hb with rfl | hb
    · exact ⟨a, hfirst⟩
    · exact ih hb

/-- A member that is read with others comes from the reader. -/
lemma Node.exists_of_mem_membersWith? {α : Type} {read? : Node → Option α} {n : Node}
    {entries : List (String × α)} (h : n.membersWith? read? = some entries) {entry : String × α}
    (hentry : entry ∈ entries) : ∃ member, read? member = some entry.2 := by
  obtain ⟨members, -, h⟩ := Option.bind_eq_some_iff.mp h
  obtain ⟨member, hmember⟩ := exists_of_mem_of_forall₂ (mapM_eq_some_iff.mp h) hentry
  obtain ⟨value, hvalue, rfl⟩ := Option.map_eq_some_iff.mp hmember
  exact ⟨member.2, hvalue⟩

namespace Schema

variable {P : Schema → Prop}

/-- A property is kept by reading: a schema has it whose fields are read, of which repeated ones
count once. -/
def KeptByReading (P : Schema → Prop) : Prop :=
  ∀ (module? : Option String) (fields : List (String × FieldSchema)),
    (∀ field ∈ fields, ∃ data, field? data = some field.2) → P (mk module? (Table.ofMembers fields))

/-- A schema without fields is among those that are read. -/
lemma KeptByReading.nil (hP : KeptByReading P) (module? : Option String) :
    (mk module? []).Everywhere P :=
  everywhere_nil (hP module? [] (by simp))

/-- Fields in the order of a text make a schema that has the property everywhere. -/
lemma KeptByReading.ofMembers (hP : KeptByReading P) {fields : List (String × FieldSchema)}
    (hfields : ∀ field ∈ fields, (∃ data, field? data = some field.2) ∧ field.2.Everywhere P)
    (module? : Option String) : (mk module? (Table.ofMembers fields)).Everywhere P :=
  everywhere_iff.mpr ⟨hP module? fields fun field hfield => (hfields field hfield).1,
    fun field hfield => (hfields field (Table.mem_of_mem_ofMembers hfield)).2⟩

mutual

/-- A schema that is read from settled data has the property everywhere.

**Proof sketch.** Induction along the reader, with one lemma for each of its functions. Each of them
either reads a smaller part of the data or gives up; and where a schema is put together from fields,
the property holds of it because it is kept by reading (`KeptByReading.ofMembers`). -/
lemma everywhere_of_ofSettled? (hP : KeptByReading P) : ∀ (data : Settled) (s : Schema),
    ofSettled? data = some s → s.Everywhere P
  | .dict members, s, h => by
    rw [ofSettled?] at h
    split_ifs at h
    obtain ⟨module?, -, h⟩ := Option.bind_eq_some_iff.mp h
    obtain ⟨fields, hfields, rfl⟩ := Option.map_eq_some_iff.mp h
    exact everywhere_of_fieldsMember? hP members fields hfields module?
  | .list [], s, h => by
    rw [ofSettled?, Option.some.injEq] at h
    exact h ▸ hP.nil none
  | .list [module], s, h => by
    rw [ofSettled?] at h
    obtain ⟨module?, -, rfl⟩ := Option.map_eq_some_iff.mp h
    exact hP.nil module?
  | .list [module, data], s, h => by
    rw [ofSettled?] at h
    obtain ⟨module?, -, h⟩ := Option.bind_eq_some_iff.mp h
    obtain ⟨fields, hfields, rfl⟩ := Option.map_eq_some_iff.mp h
    exact everywhere_of_fields? hP data fields hfields module?
  | .list (_ :: _ :: _ :: _), s, h => by
    rw [ofSettled?] at h
    contradiction
  | .null, s, h | .text _, s, h | .index _, s, h | .other, s, h => by
    rw [ofSettled?] at h
    contradiction

/-- The fields of a schema that are read from its members make a schema that has the property
everywhere. -/
lemma everywhere_of_fieldsMember? (hP : KeptByReading P) : ∀ (members : List (Settled × Settled))
    (fields : Table FieldSchema), fieldsMember? members = some fields →
      ∀ module?, (mk module? fields).Everywhere P
  | [], fields, h, module? => by
    rw [fieldsMember?, Option.some.injEq] at h
    exact h ▸ hP.nil module?
  | (key, value) :: members, fields, h, module? => by
    rw [fieldsMember?] at h
    split_ifs at h
    · exact everywhere_of_fields? hP value fields h module?
    · exact everywhere_of_fieldsMember? hP members fields h module?

/-- So do fields that are read from the data of one member. -/
lemma everywhere_of_fields? (hP : KeptByReading P) : ∀ (data : Settled)
    (fields : Table FieldSchema), fields? data = some fields →
      ∀ module?, (mk module? fields).Everywhere P
  | .dict members, fields, h, module? => by
    rw [fields?] at h
    obtain ⟨listed, hlisted, rfl⟩ := Option.map_eq_some_iff.mp h
    exact hP.ofMembers (everywhere_of_fieldList? hP members listed hlisted) module?
  | .null, fields, h, module? | .text _, fields, h, module? | .index _, fields, h, module?
  | .other, fields, h, module? | .list _, fields, h, module? => by
    rw [fields?] at h
    contradiction

/-- Each of these fields was read from some data, and the property holds everywhere in it.

**Proof sketch.** Induction on the members. Each one has a name and a field, in which the property
holds. -/
lemma everywhere_of_fieldList? (hP : KeptByReading P) : ∀ (members : List (Settled × Settled))
    (fields : List (String × FieldSchema)), fieldList? members = some fields →
      ∀ field ∈ fields, (∃ data, field? data = some field.2) ∧ field.2.Everywhere P
  | [], fields, h => by
    rw [fieldList?, Option.some.injEq] at h
    simp [← h]
  | (key, value) :: members, fields, h => by
    rw [fieldList?] at h
    obtain ⟨name, -, h⟩ := Option.bind_eq_some_iff.mp h
    obtain ⟨field, hfield, h⟩ := Option.bind_eq_some_iff.mp h
    obtain ⟨rest, hrest, rfl⟩ := Option.map_eq_some_iff.mp h
    exact List.forall_mem_cons.mpr ⟨⟨⟨value, hfield⟩, everywhere_of_field? hP value field hfield⟩,
      everywhere_of_fieldList? hP members rest hrest⟩

/-- The property holds everywhere in a field that is read.

**Proof sketch.** A field is read from a text, as a bare one, or from members; then its schema is
that of the members. -/
lemma everywhere_of_field? (hP : KeptByReading P) : ∀ (data : Settled) (field : FieldSchema),
    field? data = some field → field.Everywhere P
  | .text rules, field, h => by
    rw [field?, Option.some.injEq] at h
    exact h ▸ FieldSchema.everywhere_bare rules
  | .dict members, field, h => by
    rw [field?] at h
    split_ifs at h
    obtain ⟨rules?, -, h⟩ := Option.bind_eq_some_iff.mp h
    obtain ⟨tags, -, h⟩ := Option.bind_eq_some_iff.mp h
    obtain ⟨schema?, hschema, rfl⟩ := Option.map_eq_some_iff.mp h
    exact everywhere_of_schemaMember? hP members schema? hschema
  | .null, field, h | .index _, field, h | .other, field, h | .list _, field, h => by
    rw [field?] at h
    contradiction

/-- The property holds everywhere in a schema that is read from the members of a field.

**Proof sketch.** Induction on the members. The schema is that of the first member with this name,
if it is not null, and otherwise that of the others. -/
lemma everywhere_of_schemaMember? (hP : KeptByReading P) :
    ∀ (members : List (Settled × Settled)) (schema? : Option Schema),
      schemaMember? members = some schema? → ∀ inner, schema? = some inner → inner.Everywhere P
  | [], schema?, h, inner, hinner => by
    rw [schemaMember?, Option.some.injEq] at h
    rw [hinner] at h
    contradiction
  | (key, value) :: members, schema?, h, inner, hinner => by
    subst hinner
    by_cases hvalue : value = .null
    · subst hvalue
      rw [schemaMember?] at h
      split_ifs at h
      · simp at h
      · exact everywhere_of_schemaMember? hP members _ h inner rfl
    · rw [schemaMember?.eq_3 _ _ _ hvalue] at h
      split_ifs at h
      · obtain ⟨read, hread, hinner⟩ := Option.map_eq_some_iff.mp h
        exact Option.some.inj hinner ▸ everywhere_of_ofSettled? hP value read hread
      · exact everywhere_of_schemaMember? hP members _ h inner rfl

end

/-- A schema that is read from a tree of data has the property, and so has every schema within
it.

**Proof sketch.** The members of the tree are read one by one; a missing one gives no fields. Fields
are settled data again, so that everything within them is known (`everywhere_of_field?`). -/
lemma everywhere_of_ofNode? (hP : KeptByReading P) {n : Node} {s : Schema}
    (h : ofNode? n = some s) : s.Everywhere P := by
  rw [ofNode?] at h
  obtain ⟨members, -, h⟩ := Option.bind_eq_some_iff.mp h
  obtain ⟨module?, -, h⟩ := Option.bind_eq_some_iff.mp h
  obtain ⟨fields, hfields, h⟩ := Option.bind_eq_some_iff.mp h
  obtain rfl := Option.some.inj h
  cases hmember : Node.memberAt members 1 with
  | none =>
    rw [hmember, Node.orDefault, Option.some.injEq] at hfields
    exact hfields ▸ hP.nil module?
  | some data =>
    rw [hmember, Node.orDefault, fieldsOfNode?] at hfields
    obtain ⟨listed, hlisted, rfl⟩ := Option.map_eq_some_iff.mp hfields
    refine hP.ofMembers (fun field hfield => ?_) module?
    obtain ⟨member, hmember⟩ := Node.exists_of_mem_membersWith? hlisted hfield
    obtain ⟨settled, -, hread⟩ := Option.bind_eq_some_iff.mp hmember
    exact ⟨⟨settled, hread⟩, everywhere_of_field? hP settled field.2 hread⟩

/-- A schema that is read from a tree of data is distinct: repeated names are one field, here and in
every schema within it.

**Proof sketch.** Making a table of the fields that are read leaves one of each name, so the
property is one that is kept by reading. -/
theorem distinct_of_ofNode? {n : Node} {s : Schema} (h : ofNode? n = some s) : s.Distinct :=
  everywhere_of_ofNode? (fun _ fields _ => Table.nodup_ofMembers fields) h

end Schema

end Verdict
