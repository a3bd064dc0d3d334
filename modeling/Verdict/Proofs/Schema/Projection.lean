import Mathlib.Data.List.Perm.Basic
import Verdict.Proofs.Schema.Bound
import Verdict.Proofs.Table.Lookup

/-!
# What a schema sees of a document

A document is judged through its schema only: of an object that the schema describes, the members
that it names count, unless they are null, and each of them counts as far as the schema of its field
sees it. This file says what is left of a document in this way, its projection, and that documents
with one projection are bound to one record.

## Main definitions

* `Verdict.Json.project` — the projection of a document along a schema.

## Main results

* `Verdict.Json.toValue_eq_of_project_eq` — documents with one projection are one value.
* `Verdict.Schema.validate_eq_of_project_eq` — they are bound alike, and validated alike; so unknown
  members, null members and the order of members do not matter.

## Design

Members of an object have an order, which does not matter where a schema describes the object. So
the members that are kept are listed in the order of the schema.
-/

namespace Verdict

namespace Json

/-- A member with its name, unless it is null. -/
def kept (name : String) : Json → Option (String × Json)
  | .null => none
  | value => some (name, value)

mutual

/-- The projection of a value along a schema. Of an object that the schema describes, it keeps the
members that the schema names and that are not null, each projected along the schema of its field;
of an array, all items, projected along the same schema. All else stays as it is. -/
def project : Json → Option Schema → Json
  | .arr items, schema? => .arr (projectItems items schema?)
  | .obj members, some (.mk _ fields) =>
    .obj (fields.filterMap fun field =>
      kept field.1 (projectMember members field.1 field.2.schema?))
  | .obj members, none => .obj members
  | .null, _ => .null
  | .bool b, _ => .bool b
  | .int n, _ => .int n
  | .float x, _ => .float x
  | .str s, _ => .str s

/-- The projections of the items of an array. -/
def projectItems : List Json → Option Schema → List Json
  | [], _ => []
  | item :: items, schema? => project item schema? :: projectItems items schema?

/-- The projection of the member of a name; a missing one is null. -/
def projectMember : List (String × Json) → String → Option Schema → Json
  | [], _, _ => .null
  | (name, value) :: members, wanted, schema? =>
    if name = wanted then project value schema? else projectMember members wanted schema?

end

/-- A value keeps its kind.

**Proof sketch.** By the kind of the value. Projection goes into arrays and objects, and leaves all
else as it is. -/
lemma kind_project (d : Json) (schema? : Option Schema) : (d.project schema?).kind = d.kind := by
  cases d with
  | obj members =>
    cases schema? with
    | none => rw [project]
    | some schema =>
      cases schema
      rw [project]
      rfl
  | arr items =>
    rw [project]
    rfl
  | null | bool | int | float | str => rw [project]

/-- A value that is neither an array nor an object stays as it is. -/
lemma project_of_kind {d : Json} (harray : d.kind ≠ "array") (hobject : d.kind ≠ "object")
    (schema? : Option Schema) : d.project schema? = d := by
  cases d with
  | arr items => exact absurd rfl harray
  | obj members => exact absurd rfl hobject
  | null | bool | int | float | str => rw [project]

/-- Null is the only value of its kind. -/
lemma kind_eq_null_iff {d : Json} : d.kind = "null" ↔ d = .null := by
  cases d <;> simp [kind]

/-- Values with one projection are of one kind. -/
lemma kind_eq_of_project_eq {d d' : Json} {schema? : Option Schema}
    (h : d.project schema? = d'.project schema?) : d.kind = d'.kind := by
  rw [← d.kind_project schema?, h, kind_project]

/-- Values with one projection are equal, unless they are arrays or objects. -/
lemma eq_of_project_eq {d d' : Json} {schema? : Option Schema} (harray : d.kind ≠ "array")
    (hobject : d.kind ≠ "object") (h : d.project schema? = d'.project schema?) : d = d' := by
  have hkind := kind_eq_of_project_eq h
  rw [project_of_kind harray hobject, project_of_kind (hkind ▸ harray) (hkind ▸ hobject)] at h
  exact h

/-- Arrays have their kind. -/
lemma exists_of_kind_array {d : Json} (h : d.kind = "array") : ∃ items, d = .arr items := by
  cases d <;> simp_all [kind]

/-- Objects have their kind. -/
lemma exists_of_kind_object {d : Json} (h : d.kind = "object") : ∃ members, d = .obj members := by
  cases d <;> simp_all [kind]

/-- Only null is projected to null. -/
lemma project_eq_null_iff {d : Json} {schema? : Option Schema} :
    d.project schema? = .null ↔ d = .null := by
  rw [← kind_eq_null_iff, kind_project, kind_eq_null_iff]

/-- A member is projected as it is found; where none is found, there is null.

**Proof sketch.** Induction on the members. The first one has the name or is passed over. -/
lemma projectMember_eq (members : List (String × Json)) (name : String) (schema? : Option Schema) :
    projectMember members name schema? = (member members name).project schema? := by
  rw [member]
  induction members with
  | nil =>
    rw [projectMember, Table.get?, Option.getD_none, project]
  | cons first members ih =>
    rw [projectMember, Table.get?]
    split_ifs
    · rfl
    · exact ih

/-- Null is not kept. -/
lemma kept_eq_none_iff {name : String} {value : Json} : kept name value = none ↔ value = .null := by
  cases value <;> simp [kept]

/-- All else is kept with its name. -/
lemma kept_of_ne_null {name : String} {value : Json} (h : value ≠ .null) :
    kept name value = some (name, value) := by
  cases value <;> simp_all [kept]

/-- A member that is null under the schema of one field is null under that of every field of the
name. -/
lemma projectMember_eq_null_iff {members : List (String × Json)} {name : String}
    {schema? : Option Schema} :
    projectMember members name schema? = .null ↔ member members name = .null := by
  rw [projectMember_eq, project_eq_null_iff]

/-- A name that is kept is the name of a member that is not null.

**Proof sketch.** What is kept is the projection of the member under the name of a field, and only
null is projected to null. -/
lemma member_ne_null_of_mem_kept {members : List (String × Json)}
    {fields : List (String × FieldSchema)} {entry : String × Json}
    (h : entry ∈ fields.filterMap fun field =>
      kept field.1 (projectMember members field.1 field.2.schema?)) :
    member members entry.1 ≠ .null := by
  obtain ⟨field, -, hkept⟩ := List.mem_filterMap.mp h
  have hne : projectMember members field.1 field.2.schema? ≠ .null := by
    intro hnull
    rw [kept_eq_none_iff.mpr hnull] at hkept
    contradiction
  rw [kept_of_ne_null hne, Option.some.injEq] at hkept
  rw [← hkept]
  exact mt projectMember_eq_null_iff.mpr hne

/-- Objects of which the same members are kept have the same members under each field.

**Proof sketch.** Induction on the fields. If the first one kept its member of one object only, its
name would be missing in what is kept of the other, since there it is null. -/
lemma projectMember_eq_of_kept_eq {members members' : List (String × Json)}
    {fields : List (String × FieldSchema)}
    (h : (fields.filterMap fun field =>
        kept field.1 (projectMember members field.1 field.2.schema?)) =
      fields.filterMap fun field =>
        kept field.1 (projectMember members' field.1 field.2.schema?)) :
    ∀ field ∈ fields, projectMember members field.1 field.2.schema? =
      projectMember members' field.1 field.2.schema? := by
  induction fields with
  | nil => simp
  | cons field fields ih =>
    rw [List.filterMap_cons, List.filterMap_cons] at h
    by_cases hnull : projectMember members field.1 field.2.schema? = .null
    · by_cases hnull' : projectMember members' field.1 field.2.schema? = .null
      · simp only [kept_eq_none_iff.mpr hnull, kept_eq_none_iff.mpr hnull'] at h
        exact List.forall_mem_cons.mpr ⟨hnull.trans hnull'.symm, ih h⟩
      · -- only the second object keeps its member
        simp only [kept_eq_none_iff.mpr hnull, kept_of_ne_null hnull'] at h
        have hmem := member_ne_null_of_mem_kept (h ▸ List.mem_cons_self)
        exact absurd (projectMember_eq_null_iff.mp hnull) hmem
    · by_cases hnull' : projectMember members' field.1 field.2.schema? = .null
      · -- only the first object keeps its member
        simp only [kept_of_ne_null hnull, kept_eq_none_iff.mpr hnull'] at h
        have hmem := member_ne_null_of_mem_kept (h ▸ List.mem_cons_self)
        exact absurd (projectMember_eq_null_iff.mp hnull') hmem
      · simp only [kept_of_ne_null hnull, kept_of_ne_null hnull', List.cons.injEq,
          Prod.mk.injEq] at h
        exact List.forall_mem_cons.mpr ⟨h.1.2, ih h.2⟩

mutual

/-- Values with one projection are one value under the schema.

**Proof sketch.** Induction on the first document, together with its items and its members. The
other document is of the same kind. In objects that the schema describes, the members under each
field have one projection (`projectMember_eq_of_kept_eq`), and the fields are made of these. -/
lemma toValue_eq_of_project_eq : ∀ (d d' : Json) (schema? : Option Schema),
    d.project schema? = d'.project schema? → d.toValue schema? = d'.toValue schema?
  | .arr items, d', schema?, h => by
    obtain ⟨items', rfl⟩ : ∃ items', d' = .arr items' := by
      apply exists_of_kind_array
      rw [← kind_eq_of_project_eq h]
      rfl
    rw [project, project, Json.arr.injEq] at h
    rw [toValue, toValue, toValues_eq_of_projectItems_eq items items' schema? h]
  | .obj members, d', schema?, h => by
    obtain ⟨members', rfl⟩ : ∃ members', d' = .obj members' := by
      apply exists_of_kind_object
      rw [← kind_eq_of_project_eq h]
      rfl
    match schema? with
    | none =>
      rw [project, project] at h
      rw [h]
    | some (.mk module? fields) =>
      rw [project, project, Json.obj.injEq] at h
      rw [toValue, toValue]
      congr 2
      apply List.map_congr_left
      intro field hfield
      rw [toMemberValue_eq_of_projectMember_eq members members' _ _
        (projectMember_eq_of_kept_eq h field hfield)]
  | .null, d', schema?, h | .bool _, d', schema?, h | .int _, d', schema?, h
  | .float _, d', schema?, h | .str _, d', schema?, h => by
    rw [eq_of_project_eq (by simp [kind]) (by simp [kind]) h]

/-- The items of arrays with one projection are the same values.

**Proof sketch.** Induction on the items of the first array. The two arrays have the same length, as
their projections do. -/
lemma toValues_eq_of_projectItems_eq : ∀ (items items' : List Json) (schema? : Option Schema),
    projectItems items schema? = projectItems items' schema? →
      toValues items schema? = toValues items' schema?
  | [], items', schema?, h => by
    cases items' with
    | nil => rfl
    | cons item' items' =>
      rw [projectItems, projectItems] at h
      contradiction
  | item :: items, items', schema?, h => by
    cases items' with
    | nil =>
      rw [projectItems, projectItems] at h
      contradiction
    | cons item' items' =>
      rw [projectItems, projectItems, List.cons.injEq] at h
      rw [toValues, toValues, toValue_eq_of_project_eq item item' schema? h.1,
        toValues_eq_of_projectItems_eq items items' schema? h.2]

/-- Members with one projection are the same value.

**Proof sketch.** Induction on the members. The first one has the name, and then its projection is
that of the member found among the others; or it is passed over. -/
lemma toMemberValue_eq_of_projectMember_eq : ∀ (members members' : List (String × Json))
    (name : String) (schema? : Option Schema),
    projectMember members name schema? = projectMember members' name schema? →
      toMemberValue members name schema? = toMemberValue members' name schema?
  | [], members', name, schema?, h => by
    rw [projectMember, projectMember_eq] at h
    rw [toMemberValue, toMemberValue_eq, project_eq_null_iff.mp h.symm, toValue]
  | (key, value) :: members, members', name, schema?, h => by
    rw [projectMember] at h
    rw [toMemberValue]
    split_ifs at h ⊢
    · rw [projectMember_eq] at h
      rw [toMemberValue_eq, toValue_eq_of_project_eq value _ schema? h]
    · exact toMemberValue_eq_of_projectMember_eq members members' name schema? h

end

/-! ### Rearranged objects -/

/-- Whether a member counts for fields: one of them has its name, and it is not null. -/
def counts (fields : Table FieldSchema) (entry : String × Json) : Bool :=
  fields.keys.contains entry.1 && entry.2.kind != "null"

/-- Under the name of a field, a value other than null is found if and only if there is such a
member that counts.

**Proof sketch.** No name repeats, so a member with the value is the one that is found; it counts
because a field has its name and it is not null. -/
lemma member_eq_iff {fields : Table FieldSchema} {members : Table Json}
    (hnames : members.keys.Nodup) {name : String} (hname : name ∈ fields.keys) {value : Json}
    (hne : value ≠ .null) :
    member members name = value ↔ (name, value) ∈ members.filter (counts fields) := by
  have hkind : value.kind ≠ "null" := mt kind_eq_null_iff.mp hne
  rw [member, List.mem_filter, ← Table.get?_eq_some_iff hnames]
  cases members.get? name with
  | none => simp [hne.symm]
  | some found => simp [counts, hname, hkind]

/-- Objects of which the same members count, in any order, have one projection.

**Proof sketch.** The projection takes the member under each field. If it is not null, then it is
among those that count in both objects (`member_eq_iff`); so it is null in both or the same in both.
-/
lemma project_eq_of_counts_perm {schema : Schema} {members members' : Table Json}
    (hnames : members.keys.Nodup) (hnames' : members'.keys.Nodup)
    (h : (members.filter (counts schema.fields)).Perm (members'.filter (counts schema.fields))) :
    (obj members).project (some schema) = (obj members').project (some schema) := by
  obtain ⟨module?, fields⟩ := schema
  rw [project, project]
  congr 1
  apply List.filterMap_congr
  intro field hfield
  have hname : field.1 ∈ Table.keys fields := List.mem_map_of_mem hfield
  have hiff {value : Json} (hne : value ≠ .null) :
      member members field.1 = value ↔ member members' field.1 = value := by
    rw [member_eq_iff hnames hname hne, member_eq_iff hnames' hname hne]
    exact h.mem_iff
  have hfound : member members field.1 = member members' field.1 := by
    by_cases hnull : member members' field.1 = .null
    · rw [hnull]
      by_contra hne
      exact hne ((hiff hne).mp rfl ▸ hnull)
    · exact (hiff hnull).mpr rfl
  rw [projectMember_eq, projectMember_eq, hfound]

end Json

namespace Schema

/-- Documents with one projection are bound alike. -/
lemma bind_eq_of_project_eq {s : Schema} {d d' : Json}
    (h : d.project (some s) = d'.project (some s)) : s.bind d = s.bind d' := by
  rw [bind, bind, Json.toValue_eq_of_project_eq d d' _ h, Json.kind_eq_of_project_eq h]

/-- **A document is judged through its schema only.** Documents with one projection are refused with
the same error, or both are bound, and then every validator returns the same for them, with the same
events on the way, and is left the same. Objects have one projection as soon as the same members of
them count; so members that no field names, null members and the order of members do not matter.

**Proof sketch.** Documents with one projection are one value under the schema
(`Json.toValue_eq_of_project_eq`), so they are bound to one record, or refused with the same error.
That rearranged objects have one projection is `Json.project_eq_of_counts_perm`. -/
theorem validate_eq_of_project_eq (s : Schema) :
    (∀ d d' : Json, d.project (some s) = d'.project (some s) →
      (∃ e, s.bind d = .error e ∧ s.bind d' = .error e) ∨
        ∃ r r', s.bind d = .ok r ∧ s.bind d' = .ok r' ∧
          ∀ v : Validator Record, v.validate r = v.validate r') ∧
      ∀ members members' : Table Json, members.keys.Nodup → members'.keys.Nodup →
        (members.filter (Json.counts s.fields)).Perm (members'.filter (Json.counts s.fields)) →
          (Json.obj members).project (some s) = (Json.obj members').project (some s) := by
  refine ⟨fun d d' h => ?_, fun _ _ => Json.project_eq_of_counts_perm⟩
  have hbind := bind_eq_of_project_eq h
  cases hd : s.bind d with
  | error e => exact Or.inl ⟨e, rfl, by rw [← hbind, hd]⟩
  | ok r => exact Or.inr ⟨r, r, rfl, by rw [← hbind, hd], fun _ => rfl⟩

/-- A member that no field names, at the top and in an item of an array, and a null member make no
difference, and neither does a null item, if both arrays have it. -/
theorem validate_unnamed_members :
    let s : Schema := .mk none
      [("Items", .detailed (some "min=1") [] (some (.mk none [("Name", .bare "required")]))),
        ("Note", .bare "required")]
    let d : Json := .obj
      [("Items", .arr [.obj [("Extra", .int 1), ("Name", .str "bolt")], .null]), ("Note", .null)]
    let d' : Json := .obj
      [("Items", .arr [.obj [("Name", .str "bolt")], .null]), ("Other", .bool true)]
    d.project (some s) = d'.project (some s) ∧
      ∃ r r', s.bind d = .ok r ∧ s.bind d' = .ok r' ∧
        ∀ v : Validator Record, v.validate r = v.validate r' := by
  intro s d d'
  have hproject : d.project (some s) = d'.project (some s) := rfl
  refine ⟨hproject, ?_⟩
  rcases (validate_eq_of_project_eq s).1 d d' hproject with ⟨e, herror, -⟩ | hok
  · -- the document is an object, so it is bound
    have hbound : s.bind d ≠ .error e := by rintro ⟨⟩
    exact absurd herror hbound
  · exact hok

end Schema

end Verdict
