import Verdict.Proofs.Data.Settled
import Verdict.Proofs.Schema.Nested

/-!
# Schemas written and read back

A schema is written as a JSON value and read back from it. Members that are missing are left out,
and a field is written in one of two shapes, so it has to be seen that nothing that is left out or
read in another shape makes a difference. What is not kept is a repeated name of a field and the
order of tags that are not in key order. No schema that is built up or read has either.

## Main definitions

* `Verdict.Schema.Canonical` — no name is repeated, and tags are in key order, also in the schemas
  within it.
* `Verdict.Schema.Constructible` — schemas that are built up or read.

## Main results

* `Verdict.Schema.Constructible.canonical` — schemas that are built up or read are canonical.
* `Verdict.Schema.ofSettled?_ofJson_toJson` — canonical schemas within others are read back.
* `Verdict.Schema.ofNode?_ofJson_toJson` — so are those that are built up or read.
-/

namespace Verdict

/-! ### Canonical schemas -/

/-- The tags of a field are in key order. -/
def FieldSchema.TagsOrdered : FieldSchema → Prop
  | .bare _ => True
  | .detailed _ tags _ => tags.Ordered

namespace Schema

/-- No name of a field is repeated, and the tags of each field are in key order. -/
def IsCanonical (s : Schema) : Prop :=
  s.fields.keys.Nodup ∧ ∀ field ∈ s.fields, field.2.TagsOrdered

/-- A schema and all schemas within it repeat no name and have tags in key order. -/
def Canonical (s : Schema) : Prop := s.Everywhere IsCanonical

end Schema

/-- The tags of a field and of those in its schema are in key order, and its schema repeats no
name. -/
structure FieldSchema.Canonical (f : FieldSchema) : Prop where
  tagsOrdered : f.TagsOrdered
  everywhere : f.Everywhere Schema.IsCanonical

namespace Schema

variable {s : Schema} {f : FieldSchema}

/-- A schema is canonical if and only if it repeats no name and all its fields are canonical. -/
lemma canonical_iff : s.Canonical ↔
    s.fields.keys.Nodup ∧ ∀ field ∈ s.fields, field.2.Canonical := by
  rw [Canonical, everywhere_iff, IsCanonical, and_assoc]
  refine and_congr_right fun _ => ?_
  rw [← forall₂_and]
  exact forall₂_congr fun field _ => ⟨fun h => ⟨h.1, h.2⟩, fun h => ⟨h.1, h.2⟩⟩

/-- The empty schema is canonical. -/
lemma canonical_empty : empty.Canonical :=
  everywhere_nil ⟨List.nodup_nil, by simp [fields]⟩

/-- The name of the module makes no difference to a canonical schema. -/
lemma Canonical.withModule (hs : s.Canonical) (module : String) :
    (s.withModule module).Canonical := by
  obtain ⟨hnodup, hfields⟩ := canonical_iff.mp hs
  exact canonical_iff.mpr ⟨hnodup, hfields⟩

/-- Defining a canonical field keeps a schema canonical: the name is either new, or the field takes
the place of the one before. -/
lemma Canonical.field (hs : s.Canonical) (name : String) (hf : f.Canonical) :
    (s.field name f).Canonical := by
  obtain ⟨hnodup, hfields⟩ := canonical_iff.mp hs
  refine canonical_iff.mpr ⟨Table.nodup_put hnodup name f, fun field hfield => ?_⟩
  rcases Table.mem_of_mem_put hfield with rfl | hfield
  · exact hf
  · exact hfields field hfield

/-- Tags that are read are made into a table in key order. -/
lemma ordered_of_tagsMember? {data? : Option Settled} {tags : Table String}
    (h : tagsMember? data? = some tags) : tags.Ordered := by
  match data?, h with
  | none, h =>
    obtain rfl := Option.some.inj h
    exact List.Pairwise.nil
  | some (.dict members), h =>
    obtain ⟨entries, -, rfl⟩ := Option.map_eq_some_iff.mp h
    exact Table.ordered_ofList entries

/-- The tags of a field that is read are in key order.

**Proof sketch.** A bare field has no tags. Those of a detailed one come from the member for tags
(`ordered_of_tagsMember?`), and data of any other kind is read as no field. -/
lemma tagsOrdered_of_field? {data : Settled} (h : field? data = some f) : f.TagsOrdered := by
  cases data with
  | text rules =>
    rw [field?, Option.some.injEq] at h
    exact h ▸ trivial
  | dict members =>
    rw [field?] at h
    split_ifs at h
    obtain ⟨rules?, -, h⟩ := Option.bind_eq_some_iff.mp h
    obtain ⟨tags, htags, h⟩ := Option.bind_eq_some_iff.mp h
    obtain ⟨schema?, -, rfl⟩ := Option.map_eq_some_iff.mp h
    exact ordered_of_tagsMember? htags
  | null | index _ | other | list _ =>
    rw [field?] at h
    contradiction

/-- Reading makes schemas without repeated names, whose fields have tags in key order. -/
lemma keptByReading_isCanonical : KeptByReading IsCanonical := by
  intro module? fields hread
  refine ⟨Table.nodup_ofMembers fields, fun field hfield => ?_⟩
  obtain ⟨data, hdata⟩ := hread field (Table.mem_of_mem_ofMembers hfield)
  exact tagsOrdered_of_field? hdata

end Schema

mutual

/-- Schemas that are built up from the empty one, with a name of the module and field by field, or
read from a tree of data. -/
inductive Schema.Constructible : Schema → Prop where
  | empty : Schema.Constructible .empty
  | withModule {s : Schema} (hs : s.Constructible) (module : String) :
    Schema.Constructible (s.withModule module)
  | field {s : Schema} {f : FieldSchema} (hs : s.Constructible) (name : String)
    (hf : f.Constructible) : Schema.Constructible (s.field name f)
  | read {n : Node} {s : Schema} (h : Schema.ofNode? n = some s) : Schema.Constructible s

/-- Fields that are built up or read. The tags of a detailed one are a table in key order. -/
inductive FieldSchema.Constructible : FieldSchema → Prop where
  | bare (rules : String) : FieldSchema.Constructible (.bare rules)
  | nested (rules : String) {s : Schema} (hs : s.Constructible) :
    FieldSchema.Constructible (.nested rules s)
  | detailed (rules? : Option String) {tags : Table String} (htags : tags.Ordered)
    {schema? : Option Schema} (hschema : ∀ s, schema? = some s → s.Constructible) :
    FieldSchema.Constructible (.detailed rules? tags schema?)
  | read {data : Settled} {f : FieldSchema} (h : Schema.field? data = some f) :
    FieldSchema.Constructible f

end

mutual

/-- Schemas that are built up or read are canonical.

**Proof sketch.** Induction on how the schema came about, together with that for fields. Building up
is `Canonical.withModule` and `Canonical.field`; for reading, the property is one that is kept by it
(`keptByReading_isCanonical`). -/
lemma Schema.Constructible.canonical : ∀ {s : Schema}, s.Constructible → s.Canonical
  | _, .empty => Schema.canonical_empty
  | _, .withModule hs module => hs.canonical.withModule module
  | _, .field hs name hf => hs.canonical.field name hf.canonical
  | _, .read h => Schema.everywhere_of_ofNode? Schema.keptByReading_isCanonical h

/-- So are fields that are built up or read. -/
lemma FieldSchema.Constructible.canonical : ∀ {f : FieldSchema}, f.Constructible → f.Canonical
  | _, .bare rules => ⟨trivial, FieldSchema.everywhere_bare rules⟩
  | _, .nested _ hs => ⟨List.Pairwise.nil, FieldSchema.everywhere_nested hs.canonical⟩
  | _, .detailed _ htags hschema => ⟨htags, fun s hs => (hschema s hs).canonical⟩
  | _, .read h => ⟨Schema.tagsOrdered_of_field? h,
      Schema.everywhere_of_field? Schema.keptByReading_isCanonical _ _ h⟩

end

namespace Schema

/-! ### Reading back -/

/-- Members of a field as they are written, of which each may be left out. -/
def fieldMembers (rules? tags? schema? : Option Settled) : List (Settled × Settled) :=
  (rules?.map (.text "rules", ·)).toList ++
    ((tags?.map (.text "tags", ·)).toList ++ (schema?.map (.text "schema", ·)).toList)

/-- What is left out is missing, and the other members are found.

**Proof sketch.** Whichever of the three members are left out, the look-ups come out by computation.
-/
lemma memberAt_fieldMembers (rules? tags? schema? : Option Settled) :
    let members := fieldMembers rules? tags? schema?
    Settled.isStructure fieldNames members = true ∧
      Settled.memberAt fieldNames 0 members = rules? ∧
        Settled.memberAt fieldNames 1 members = tags? ∧
          Settled.memberAt fieldNames 2 members = schema? := by
  cases rules? <;> cases tags? <;> cases schema? <;> exact ⟨rfl, rfl, rfl, rfl⟩

/-- Members of a schema as they are written. The name of the module may be left out. -/
def schemaMembers (module? : Option Settled) (fields : Settled) : List (Settled × Settled) :=
  (module?.map (.text "module", ·)).toList ++ [(.text "fields", fields)]

/-- The name of the module is missing if it is left out, and both members are found otherwise. -/
lemma memberAt_schemaMembers (module? : Option Settled) (fields : Settled) :
    let members := schemaMembers module? fields
    Settled.isStructure names members = true ∧ Settled.memberAt names 0 members = module? ∧
      Settled.memberAt names 1 members = some fields := by
  cases module? <;> exact ⟨rfl, rfl, rfl⟩

/-- A schema is written as an object of its module, if it has one, and its fields. -/
lemma ofJson_toJson (module? : Option String) (fields : List (String × FieldSchema)) :
    Settled.ofJson (toJson (.mk module? fields)) =
      .dict (schemaMembers (module?.map .text) (.ofJson (.obj (fieldsToJson fields)))) := by
  rw [toJson, Settled.ofJson, schemaMembers, Settled.ofJsonMembers_append]
  cases module? <;> rfl

/-- A detailed field is written as an object, in which missing rules and schemas and empty tags are
left out. -/
lemma ofJson_fieldToJson (rules? : Option String) (tags : Table String) (schema? : Option Schema) :
    Settled.ofJson (fieldToJson (.detailed rules? tags schema?)) =
      .dict (fieldMembers (rules?.map .text)
        (if tags.isEmpty then none else some (.ofJson (.ofTable tags)))
        (schema?.map fun s => .ofJson s.toJson)) := by
  rw [fieldToJson, Settled.ofJson, fieldMembers, Settled.ofJsonMembers_append,
    Settled.ofJsonMembers_append, List.append_assoc]
  cases rules? <;> cases schema? <;> cases tags <;> rfl

/-- The fields are read from the member in their position. -/
lemma fieldsMember?_eq (members : List (Settled × Settled)) :
    fieldsMember? members = ((Settled.memberAt names 1 members).map fields?).getD (some []) := by
  induction members with
  | nil => rfl
  | cons member members ih =>
    rw [fieldsMember?, Settled.memberAt, List.find?_cons]
    cases member.1.isAt names 1 with
    | true => rfl
    | false => exact ih

/-- A member in another position holds no nested schema. -/
lemma schemaMember?_cons_of_not_isAt {key : Settled} (h : key.isAt fieldNames 2 = false)
    (value : Settled) (members : List (Settled × Settled)) :
    schemaMember? ((key, value) :: members) = schemaMember? members := by
  by_cases hvalue : value = .null
  · rw [hvalue, schemaMember?, h, if_neg (by decide)]
  · rw [schemaMember?.eq_3 _ _ _ hvalue, h, if_neg (by decide)]

/-- The nested schema is read from the member in its position.

**Proof sketch.** Induction on the members, to the first one in the position of the nested schema.
Written schemas are objects, so this member is not null and is read as the schema; members in other
positions are passed over. -/
lemma schemaMember?_of_memberAt {members : List (Settled × Settled)} {schema? : Option Schema}
    (h : Settled.memberAt fieldNames 2 members = schema?.map fun s => .ofJson s.toJson)
    (hschema : ∀ s, schema? = some s → ofSettled? (.ofJson s.toJson) = some s) :
    schemaMember? members = some schema? := by
  induction members with
  | nil =>
    cases schema? with
    | none => rfl
    | some s => contradiction
  | cons member members ih =>
    obtain ⟨key, value⟩ := member
    rw [Settled.memberAt, List.find?_cons] at h
    cases hkey : key.isAt fieldNames 2 with
    | true =>
      simp only [hkey, Option.map_some] at h
      obtain ⟨s, rfl, rfl⟩ := Option.map_eq_some_iff.mp h.symm
      have hnull : Settled.ofJson s.toJson ≠ .null := by
        cases s
        rw [toJson, Settled.ofJson]
        exact Settled.noConfusion
      rw [schemaMember?.eq_3 _ _ _ hnull, hkey, if_pos rfl, hschema s rfl, Option.map_some]
    | false =>
      simp only [hkey] at h
      rw [schemaMember?_cons_of_not_isAt hkey]
      exact ih h

/-- A detailed field is read back if its schema is.

**Proof sketch.** The members are found in their positions (`memberAt_fieldMembers`). Rules are read
as they were written; tags are read as a table in key order, as they are one, or missing, if there
are none; and the nested schema is read by assumption. -/
lemma field?_detailed (rules? : Option String) {tags : Table String} (htags : tags.Ordered)
    {schema? : Option Schema}
    (hschema : ∀ s, schema? = some s → ofSettled? (.ofJson s.toJson) = some s) :
    field? (.ofJson (fieldToJson (.detailed rules? tags schema?))) =
      some (.detailed rules? tags schema?) := by
  rw [ofJson_fieldToJson]
  obtain ⟨hstructure, hrules, htagsAt, hschemaAt⟩ := memberAt_fieldMembers (rules?.map .text)
    (if tags.isEmpty then none else some (.ofJson (.ofTable tags)))
    (schema?.map fun s => .ofJson s.toJson)
  have hrulesRead : textMember? (rules?.map .text) = some rules? := by cases rules? <;> rfl
  have htagsRead : tagsMember? (if tags.isEmpty then none else some (.ofJson (.ofTable tags))) =
      some tags := by
    split_ifs with hempty
    · rw [List.isEmpty_iff.mp hempty]
      rfl
    · exact Settled.textTable?_ofJson_ofTable htags
  rw [field?, if_pos hstructure, hrules, hrulesRead, Option.bind_some, htagsAt, htagsRead,
    Option.bind_some, schemaMember?_of_memberAt hschemaAt hschema, Option.map_some]

/-- A schema is read back if its fields are.

**Proof sketch.** The two members are found in their positions (`memberAt_schemaMembers`). The
fields are read in the order in which they were written, and making a table of them changes nothing,
as no name is repeated. -/
lemma ofSettled?_mk (module? : Option String) {fields : Table FieldSchema}
    (hfields : fieldList? (Settled.ofJsonMembers (fieldsToJson fields)) = some fields)
    (hnodup : fields.keys.Nodup) :
    ofSettled? (.ofJson (toJson (.mk module? fields))) = some (.mk module? fields) := by
  have hread : fields? (.ofJson (.obj (fieldsToJson fields))) = some fields := by
    rw [Settled.ofJson, fields?, hfields, Option.map_some, Table.ofMembers_eq hnodup]
  obtain ⟨hstructure, hmodule, hfieldsAt⟩ :=
    memberAt_schemaMembers (module?.map .text) (.ofJson (.obj (fieldsToJson fields)))
  have hmoduleRead : textMember? (module?.map .text) = some module? := by cases module? <;> rfl
  rw [ofJson_toJson, ofSettled?, if_pos hstructure, hmodule, hmoduleRead, Option.bind_some,
    fieldsMember?_eq, hfieldsAt, Option.map_some, Option.getD_some, hread, Option.map_some]

mutual

/-- A canonical schema is read back.

**Proof sketch.** Induction on the schema, its list of fields and each of its fields: one case for a
schema (`ofSettled?_mk`), one for a field with one of its own (`field?_detailed`). -/
lemma ofSettled?_ofJson_toJson : ∀ s : Schema, s.Canonical →
    ofSettled? (.ofJson s.toJson) = some s
  | .mk module? fields, hs =>
    ofSettled?_mk module? (fieldList?_fieldsToJson fields (canonical_iff.mp hs).2)
      (canonical_iff.mp hs).1

/-- Canonical fields are read back in order. -/
lemma fieldList?_fieldsToJson : ∀ fields : List (String × FieldSchema),
    (∀ field ∈ fields, field.2.Canonical) →
      fieldList? (Settled.ofJsonMembers (fieldsToJson fields)) = some fields
  | [], _ => rfl
  | (name, field) :: fields, h => by
    obtain ⟨hfield, hfields⟩ := List.forall_mem_cons.mp h
    rw [fieldsToJson, Settled.ofJsonMembers, fieldList?, field?_fieldToJson field hfield,
      fieldList?_fieldsToJson fields hfields]
    rfl

/-- A canonical field is read back, in the shape that it was written in. -/
lemma field?_fieldToJson : ∀ f : FieldSchema, f.Canonical →
    field? (.ofJson (fieldToJson f)) = some f
  | .bare rules, _ => rfl
  | .detailed rules? tags none, hf => field?_detailed rules? hf.tagsOrdered (by simp)
  | .detailed rules? tags (some s), hf =>
    field?_detailed rules? hf.tagsOrdered fun inner hinner => by
      rw [← Option.some.inj hinner]
      exact ofSettled?_ofJson_toJson s (hf.everywhere s rfl)

end

/-! ### From trees of data -/

/-- Fields that are written as an object are read back by name.

**Proof sketch.** Induction on the fields. Each member is settled and then read, and settling makes
no difference to what was written as JSON (`Settled.settle?_ofJson`), so the field is the one before
(`field?_fieldToJson`). -/
lemma fieldsOfNode?_fieldsToJson {fields : Table FieldSchema} (hnodup : fields.keys.Nodup)
    (h : ∀ field ∈ fields, field.2.Canonical) :
    fieldsOfNode? (.ofJson (.obj (fieldsToJson fields))) = some fields := by
  have hread (listed : List (String × FieldSchema)) (h : ∀ field ∈ listed, field.2.Canonical) :
      (fieldsToJson listed).mapM (fun member =>
        ((Node.ofJson member.2).settle?.bind field?).map fun f => (member.1, f)) = some listed := by
    induction listed with
    | nil => rfl
    | cons field listed ih =>
      obtain ⟨hfield, hlisted⟩ := List.forall_mem_cons.mp h
      rw [fieldsToJson, List.mapM_cons, ih hlisted, Settled.settle?_ofJson, Option.bind_some,
        field?_fieldToJson field.2 hfield]
      rfl
  rw [fieldsOfNode?, Node.membersWith?, Node.members?_ofJson, Option.bind_some, List.mapM_map]
  exact congrArg (Option.map Table.ofMembers) (hread fields h) |>.trans
    (congrArg some (Table.ofMembers_eq hnodup))

/-- The members of a schema that is written as an object. -/
lemma structure?_ofJson_toJson (module? : Option String) (fields : List (String × FieldSchema)) :
    (Node.ofJson (toJson (.mk module? fields))).structure? names =
      some [module?.map .str, some (.ofJson (.obj (fieldsToJson fields)))] := by
  rw [toJson]
  cases module? <;> rfl

/-- A canonical schema is read back from a tree of data.

**Proof sketch.** The tree has the members of the schema in their positions, and the two readers
give back the module and the fields (`fieldsOfNode?_fieldsToJson`). -/
lemma Canonical.ofNode?_eq {s : Schema} (hs : s.Canonical) :
    ofNode? (.ofJson s.toJson) = some s := by
  obtain ⟨module?, fields⟩ := s
  obtain ⟨hnodup, hfields⟩ := canonical_iff.mp hs
  have hmodule : Node.optionalText? (module?.map .str) = some module? := by cases module? <;> rfl
  have hread : Node.orDefault fieldsOfNode? [] (some (.ofJson (.obj (fieldsToJson fields)))) =
      some fields := fieldsOfNode?_fieldsToJson hnodup hfields
  rw [ofNode?, structure?_ofJson_toJson]
  change ((Node.optionalText? (module?.map .str)).bind fun module? =>
    (Node.orDefault fieldsOfNode? [] (some (.ofJson (.obj (fieldsToJson fields))))).bind
      fun fields => some (mk module? fields)) = _
  rw [hmodule, Option.bind_some, hread, Option.bind_some]

/-- **Schemas survive being written and read**: one that is built up or read is read back as it was
from the tree of the JSON value that it is written as, and so reading what was read and written
again changes nothing.

**Proof sketch.** Whatever is built up or read is canonical (`Constructible.canonical`), and
canonical schemas are read back (`Canonical.ofNode?_eq`). The second part is the first one for
schemas that are read. -/
theorem ofNode?_ofJson_toJson :
    (∀ s : Schema, s.Constructible → ofNode? (.ofJson s.toJson) = some s) ∧
      ∀ n : Node, ((ofNode? n).bind fun s => ofNode? (.ofJson s.toJson)) = ofNode? n := by
  refine ⟨fun s hs => hs.canonical.ofNode?_eq, fun n => ?_⟩
  cases hread : ofNode? n with
  | none => rfl
  | some s => exact (Constructible.read hread).canonical.ofNode?_eq

/-- A bare field, a detailed one with nothing in it, and one with tags and a schema.

**Proof sketch.** The schema is built field by field from schemas that are, so the law applies. -/
theorem ofNode?_order :
    let items := empty.field "Name" (.bare "required")
    let s := (((empty.withModule "Order").field "Id" (.bare "")).field "Note"
      (.detailed none [] none)).field "Items"
        (.detailed (some "min=1") [("strict", "len=2"), ("validate", "-")] (some items))
    s.Constructible ∧ ofNode? (.ofJson s.toJson) = some s := by
  intro items s
  have hitems : items.Constructible := .field .empty _ (.bare _)
  have hs : s.Constructible := by
    refine .field (.field (.field (.withModule .empty _) _ (.bare _)) _ ?_) _ ?_
    · exact .detailed none (by decide) (by simp)
    · refine .detailed _ (by decide +kernel) ?_
      rintro _ ⟨⟩
      exact hitems
  exact ⟨hs, ofNode?_ofJson_toJson.1 s hs⟩

end Schema

end Verdict
