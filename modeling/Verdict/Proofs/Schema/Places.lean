import Mathlib.Data.Finset.Card
import Verdict.Proofs.Schema.Bound
import Verdict.Proofs.Schema.Nested

/-!
# Places in documents

A path of an error is a text. This file says that for documents it is as good as the place itself:
if the names in a schema are plain, then a path leads to one place in the document, places do not
get into each other's way, and there is one error for each place at which something was produced,
the first one.

## Main definitions

* `Verdict.Schema.PlainNames` — all names in a schema are plain, also in the schemas within it.
* `Verdict.Schema.Leads` — a place leads from a document to a part of it.
* `Verdict.Schema.Placed` — what errors of a document have to do with places.

## Main results

* `Verdict.Schema.Leads.unique` — a place leads to one part only.
* `Verdict.Schema.leads_of_mem_produced` — events have places in the document.
* `Verdict.Schema.placed_validate` — the errors of a document are placed.

## Design

A member that is missing in the document is a null part of it, since there can be an error at it. A
path is read off as a place without a look at the document; only what the place leads to depends on
it.
-/

namespace Verdict

/-- There is one error for each path. -/
lemma Errors.size_eq_card (e : Errors) : e.size = e.paths.toFinset.card := by
  rw [List.toFinset_card_of_nodup e.nodup_paths, size_eq_length_paths]

namespace Schema

/-- All names in a schema are plain, also in the schemas within it. -/
def PlainNames (s : Schema) : Prop := s.Everywhere fun t => ∀ name ∈ t.fields.keys, PlainName name

/-- A place leads from a document to a part of it: it goes through the member of a field and the
items of arrays in it. There it ends, or it goes on under the schema of the field. -/
inductive Leads : Schema → Json → Place → Json → Prop where
  | last {s : Schema} {members : List (String × Json)} {name : String} {f : FieldSchema}
    {positions : List Nat} {item : Json} (hfield : (name, f) ∈ s.fields)
    (hitem : (Json.member members name).itemAt? positions = some item) :
    Leads s (.obj members) [⟨name, positions⟩] item
  | next {s inner : Schema} {members : List (String × Json)} {name : String} {f : FieldSchema}
    {positions : List Nat} {item found : Json} {place : Place} (hfield : (name, f) ∈ s.fields)
    (hitem : (Json.member members name).itemAt? positions = some item)
    (hinner : f.schema? = some inner) (h : Leads inner item place found) :
    Leads s (.obj members) (⟨name, positions⟩ :: place) found

variable {s : Schema} {d found found' : Json} {place : Place} {r : Record}

/-- The empty schema has no names. -/
lemma plainNames_empty : empty.PlainNames := everywhere_nil (by simp [fields, Table.keys])

/-- Defining a field with a plain name, and with plain names in its schema, keeps names plain. -/
lemma PlainNames.field (hs : s.PlainNames) {name : String} (hname : PlainName name)
    {f : FieldSchema} (hf : f.Everywhere fun t => ∀ name ∈ t.fields.keys, PlainName name) :
    (s.field name f).PlainNames := by
  refine Everywhere.field hs hf fun key hkey => ?_
  rcases (Table.mem_keys_put s.fields name f key).mp hkey with rfl | hkey
  · exact hname
  · exact (everywhere_iff.mp hs).1 key hkey

/-! ### Where places lead -/

/-- No place leads to the document itself. -/
lemma Leads.ne_nil (h : s.Leads d place found) : place ≠ [] := by
  cases h <;> simp

/-- Places lead through fields of the schemas, so their names are plain if those are.

**Proof sketch.** Induction on the way. Each leg has the name of a field of the schema around it. -/
lemma Leads.plain (h : s.Leads d place found) (hs : s.PlainNames) : place.Plain := by
  induction h with
  | last hfield hitem =>
    have hname := (everywhere_iff.mp hs).1 _ (List.mem_map_of_mem hfield)
    exact List.forall_mem_singleton.mpr hname
  | next hfield hitem hinner h ih =>
    obtain ⟨hnames, hnested⟩ := everywhere_iff.mp hs
    have hname := hnames _ (List.mem_map_of_mem hfield)
    exact List.forall_mem_cons.mpr ⟨hname, ih (hnested _ hfield _ hinner)⟩

/-- Places in a document can be read off their texts, if the names in its schema are plain. -/
lemma Leads.text_injective {place' : Place} (hs : s.PlainNames) (h : s.Leads d place found)
    (h' : s.Leads d place' found') (htext : place.text = place'.text) : place = place' :=
  (h.plain hs).text_injective (h'.plain hs) htext

/-- A place leads to one part of a document, since a name is that of one field.

**Proof sketch.** Induction on the way. Both ways end at the same leg, as none goes on to no place.
Where they go on, a name is that of one field, so the item and the schema are the same. -/
lemma Leads.unique (hs : s.Distinct) (h : s.Leads d place found) (h' : s.Leads d place found') :
    found = found' := by
  induction h with
  | last hfield hitem =>
    cases h' with
    | last hfield' hitem' => exact Option.some.inj (hitem.symm.trans hitem')
    | next hfield' hitem' hinner' h' => exact absurd rfl h'.ne_nil
  | next hfield hitem hinner h ih =>
    cases h' with
    | last hfield' hitem' => exact absurd rfl h.ne_nil
    | next hfield' hitem' hinner' h' =>
      obtain ⟨hkeys, hfields⟩ := everywhere_iff.mp hs
      obtain rfl := Option.some.inj (hitem.symm.trans hitem')
      have hname := (Table.get?_eq_some_iff hkeys).mpr hfield
      obtain rfl := Option.some.inj (hname.symm.trans ((Table.get?_eq_some_iff hkeys).mpr hfield'))
      obtain rfl := Option.some.inj (hinner.symm.trans hinner')
      exact ih (hfields _ hfield _ hinner) h'

/-- The events of a bound document have places in it.

**Proof sketch.** Induction on the levels that are left. The fields of a bound document are those of
its schema, and the records in their values are items of members, bound to the schemas of the
fields. So a place that ends at a field or at such a record leads there, and one that goes on leads
on by induction. -/
lemma leads_of_mem_produced (hbind : s.bind d = .ok r) (scope : Scope Record)
    {event : Place × FieldError} (h : event ∈ scope.produced r) :
    ∃ found, s.Leads d event.1 found := by
  induction hlevels : scope.maxDepth - scope.depth using Nat.strongRecOn
    generalizing scope s d r event with
  | _ levels ih =>
    obtain ⟨members, rfl, hfields⟩ := fields_of_bind hbind
    obtain ⟨f, hf, h⟩ := Scope.mem_produced h
    obtain ⟨⟨name, field⟩, hfield, hname, hvalue⟩ := hfields f hf
    rcases h with h | ⟨spot, hspot, h⟩
    · rw [h, hname]
      exact ⟨_, .last hfield (Json.itemAt?.eq_1 _)⟩
    · rw [hvalue] at hspot
      obtain ⟨item, inner, hitem, hinner, hbound⟩ := Json.mem_spots_toValue _ _ spot hspot
      rcases h with h | ⟨hdepth, below, hbelow, h⟩
      · rw [h, hname]
        exact ⟨item, .last hfield hitem⟩
      · have hlevel : (scope.child (Leg.text ⟨f.name, spot.1⟩)).maxDepth -
            (scope.child (Leg.text ⟨f.name, spot.1⟩)).depth < levels := by
          simp only [Scope.child]
          omega
        obtain ⟨found, hfound⟩ := ih _ hlevel hbound _ hbelow rfl
        rw [h, hname]
        exact ⟨found, .next hfield hitem hinner hfound⟩

/-- Under plain names, all that is met in a bound document has a place.

**Proof sketch.** The fields of a bound document have the names of those of the schema, which are
plain, so they are not empty; and the names in the schemas within it are plain as well. -/
lemma positioned_bound : Positioned fun r => ∃ s d, PlainNames s ∧ s.bind d = .ok r where
  name_ne_empty := by
    rintro r ⟨s, d, hs, hbind⟩ f hf
    obtain ⟨members, -, hfields⟩ := fields_of_bind hbind
    obtain ⟨field, hfield, hname, -⟩ := hfields f hf
    rw [hname]
    exact ((everywhere_iff.mp hs).1 _ (List.mem_map_of_mem hfield)).ne_empty
  records_eq := by
    rintro r ⟨s, d, -, hbind⟩
    exact sequenced_bound.records_eq r ⟨s, d, hbind⟩
  nested := by
    rintro r ⟨s, d, hs, hbind⟩ f hf spot hspot
    obtain ⟨members, -, hfields⟩ := fields_of_bind hbind
    obtain ⟨field, hfield, -, hvalue⟩ := hfields f hf
    rw [hvalue] at hspot
    obtain ⟨item, inner, -, hinner, hbound⟩ := Json.mem_spots_toValue _ _ spot hspot
    exact ⟨inner, item, (everywhere_iff.mp hs).2 field hfield inner hinner, hbound⟩

/-! ### Errors -/

/-- What a validation of a bound document has to do with places in the document. -/
structure Placed (s : Schema) (d : Json) (v : Validator Record) (r : Record) : Prop where
  /-- Validating adds what is produced, in order, each error at the text of its place. -/
  result : (v.validate r).result = v.errors.extend ((v.scope.produced r).map located)
  /-- These places lead to parts of the document. -/
  leads : ∀ event ∈ v.scope.produced r, ∃ found, s.Leads d event.1 found
  /-- The path of an error is the text of one place in the document. -/
  path : ∀ path ∈ (v.validate r).result.paths,
    ∃! place : Place, (∃ found, s.Leads d place found) ∧ place.text = path
  /-- A place leads to one part of the document, if no field is named twice. -/
  part : s.Distinct → ∀ place found found', s.Leads d place found → s.Leads d place found' →
    found = found'
  /-- Different places in the document have different texts. -/
  text_injective : ∀ place place' found found', s.Leads d place found → s.Leads d place' found' →
    place.text = place'.text → place = place'
  /-- There are as many errors as places at which something is produced. -/
  size : (v.validate r).result.size = ((v.scope.produced r).map (·.1)).toFinset.card
  /-- The error at a place is the first one that is produced there. -/
  first : ∀ place found, s.Leads d place found → (v.validate r).result.get? place.text =
    ((v.scope.produced r).find? fun event => event.1 = place).map (·.2)

/-- **The errors of a document are placed**, if the names of its schema are plain and no error was
pending: a path has a name for each field and a position for each array on the way, and leads to one
place; no error is lost to an error at another place.

**Proof sketch.** Places in the document are plain, so they can be read off their texts. What the
walk produces has such places (`leads_of_mem_produced`), and of events with the same path, which are
at the same place, the first is kept (`Validator.get?_validate`). -/
theorem placed_validate (s : Schema) (hnames : s.PlainNames) (d : Json) (r : Record)
    (hbind : s.bind d = .ok r) (v : Validator Record) (hnone : v.errors.isEmpty = true) :
    s.Placed d v r := by
  have hevents : v.scope.flatEvents r = (v.scope.produced r).map located :=
    Scope.flatEvents_eq_map_produced positioned_bound v.scope ⟨s, d, hnames, hbind⟩
  have hleads : ∀ event ∈ v.scope.produced r, ∃ found, s.Leads d event.1 found :=
    fun event hevent => leads_of_mem_produced hbind v.scope hevent
  have hpaths (path : String) : path ∈ (v.validate r).result.paths ↔
      ∃ event ∈ v.scope.produced r, event.1.text = path := by
    rw [Validator.mem_paths_validate v hnone, hevents, Entries.paths, List.map_map,
      List.mem_map]
    rfl
  refine ⟨by rw [v.result_validate, hevents], hleads, ?_, fun hs _ _ _ => Leads.unique hs,
    fun _ _ _ _ => Leads.text_injective hnames, ?_, ?_⟩
  · intro path hpath
    obtain ⟨event, hevent, htext⟩ := (hpaths path).mp hpath
    obtain ⟨found, hfound⟩ := hleads event hevent
    refine ⟨event.1, ⟨⟨found, hfound⟩, htext⟩, ?_⟩
    rintro place ⟨⟨found', hfound'⟩, htext'⟩
    exact hfound'.text_injective hnames hfound (htext'.trans htext.symm)
  · -- errors are counted by their paths, which are the texts of the places
    have himage : (v.validate r).result.paths.toFinset =
        ((v.scope.produced r).map (·.1)).toFinset.image Place.text := by
      ext path
      simp [hpaths]
    rw [Errors.size_eq_card, himage, Finset.card_image_of_injOn]
    intro place hplace place' hplace' htext
    simp only [List.coe_toFinset, List.mem_map, Set.mem_ofPred_eq] at hplace hplace'
    obtain ⟨event, hevent, rfl⟩ := hplace
    obtain ⟨event', hevent', rfl⟩ := hplace'
    obtain ⟨found, hfound⟩ := hleads event hevent
    obtain ⟨found', hfound'⟩ := hleads event' hevent'
    exact hfound.text_injective hnames hfound' htext
  · intro place found hfound
    rw [Validator.get?_validate v hnone, hevents]
    apply get?_map_located
    intro event hevent htext
    obtain ⟨found', hfound'⟩ := hleads event hevent
    exact hfound'.text_injective hnames hfound htext

/-- Three errors, in an object in an array, in one in arrays in it, and at a missing member.

**Proof sketch.** The names are plain and distinct as the schema is built, field by field. Then the
law applies, and the places of the errors are computed. -/
theorem placed_validate_nested :
    let parts := empty.field "Code" (.bare "required")
    let items := (empty.field "Name" (.bare "required")).field "Parts" (.nested "" parts)
    let s := (empty.field "Items" (.nested "min=1" items)).field "Note" (.bare "required")
    let d : Json := .obj
      [("Items", .arr
        [.obj [("Name", .str "bolt"), ("Parts", .arr [.arr [.obj [("Code", .str "")]]])],
          .obj [("Name", .str "")]])]
    let v : Validator Record := .new "Order"
    s.PlainNames ∧ s.Distinct ∧ v.errors.isEmpty = true ∧
      ∃ r, s.bind d = .ok r ∧ s.Placed d v r ∧ (v.scope.produced r).map (·.1) =
        [[⟨"Items", [0]⟩, ⟨"Parts", [0, 0]⟩, ⟨"Code", []⟩], [⟨"Items", [1]⟩, ⟨"Name", []⟩],
          [⟨"Note", []⟩]] := by
  intro parts items s d v
  have hnames : s.PlainNames := by
    have hparts : parts.PlainNames :=
      plainNames_empty.field (by decide) (FieldSchema.everywhere_bare _)
    have hitems : items.PlainNames :=
      (plainNames_empty.field (by decide) (FieldSchema.everywhere_bare _)).field (by decide)
        (FieldSchema.everywhere_nested hparts)
    exact (plainNames_empty.field (by decide) (FieldSchema.everywhere_nested hitems)).field
      (by decide) (FieldSchema.everywhere_bare _)
  have hs : s.Distinct := by
    have hparts : parts.Distinct := (distinct_nil none).field _ (FieldSchema.everywhere_bare _)
    have hitems : items.Distinct :=
      ((distinct_nil none).field _ (FieldSchema.everywhere_bare _)).field _
        (FieldSchema.everywhere_nested hparts)
    exact ((distinct_nil none).field _ (FieldSchema.everywhere_nested hitems)).field _
      (FieldSchema.everywhere_bare _)
  refine ⟨hnames, hs, rfl, _, rfl, ?_, ?_⟩
  · exact placed_validate s hnames d _ rfl v rfl
  · decide +kernel

end Schema

end Verdict
