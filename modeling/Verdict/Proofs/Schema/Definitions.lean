import Verdict.Proofs.Schema.Bound
import Verdict.Proofs.Schema.Serialized
import Verdict.Proofs.Table.LastWins

/-!
# From the definitions of fields to the rules that are read

A schema is defined field by field, or by the members of an object in the order of its text, and a
name may come more than once. The schema has each name once, in the place of its first definition
and with its last one. A record that is bound to the schema has just these fields, and each has the
rule strings of its definition: under every key there is the explicit one, or else, under the usual
key, the bare one.

## Main definitions

* `Verdict.Node.ListsFields`, `Verdict.Settled.ListsFields` — data lists definitions of fields.
* `Verdict.Schema.MadeOf` — a schema is made of definitions of fields.
* `Verdict.FieldSchema.rulesUnder?` — the rule string of a definition under a key.
* `Verdict.Field.ExposedAs` — a field of a bound document has what its definition says.

## Main results

* `Verdict.Schema.MadeOf.lastWins` — the last definition of each name counts.
* `Verdict.FieldSchema.get?_tags` — explicit and bare rule strings.
* `Verdict.Schema.definitions_reach_walk` — both, through to the record.
-/

namespace Verdict

/-! ### Definitions in the order of a text -/

/-- A tree of data lists definitions of fields: its members have their names, and the rules of each
are read from the value of the member. -/
def Node.ListsFields (data : Node) (entries : List (String × FieldSchema)) : Prop :=
  ∃ members, data.members? = some members ∧
    List.Forall₂ (fun member entry =>
      member.1 = entry.1 ∧ (member.2.settle?.bind Schema.field?) = some entry.2) members entries

/-- Settled data lists definitions of fields. -/
def Settled.ListsFields (data : Settled) (entries : List (String × FieldSchema)) : Prop :=
  ∃ members, data = .dict members ∧
    List.Forall₂ (fun member entry =>
      member.1.text? = some entry.1 ∧ Schema.field? member.2 = some entry.2) members entries

/-- A tree of data is a schema whose fields are written as the given data. -/
def Node.HasFieldsMember (n data : Node) : Prop :=
  ∃ members, n.structure? Schema.names = some members ∧ Node.memberAt members 1 = some data

namespace Schema

/-- The fields that are read from a tree of data are the table of what it lists.

**Proof sketch.** The reader goes through the members one by one (`mapM_eq_some_iff`), and what it
reads of a member is its name with the rules that are read from its value. -/
lemma fieldsOfNode?_eq_some_iff {data : Node} {fields : Table FieldSchema} :
    fieldsOfNode? data = some fields ↔
      ∃ entries, data.ListsFields entries ∧ fields = Table.ofMembers entries := by
  have hmember (member : String × Node) (entry : String × FieldSchema) :
      ((member.2.settle?.bind field?).map fun f => (member.1, f)) = some entry ↔
        member.1 = entry.1 ∧ (member.2.settle?.bind field?) = some entry.2 := by
    rw [Option.map_eq_some_iff]
    constructor
    · rintro ⟨f, hread, rfl⟩
      exact ⟨rfl, hread⟩
    · rintro ⟨hname, hread⟩
      exact ⟨entry.2, hread, Prod.ext hname rfl⟩
  have hlisted (entries : List (String × FieldSchema)) : data.ListsFields entries ↔
      (data.membersWith? fun value => value.settle?.bind field?) = some entries := by
    rw [Node.membersWith?, Option.bind_eq_some_iff, Node.ListsFields]
    refine exists_congr fun members => and_congr_right fun _ => ?_
    rw [mapM_eq_some_iff]
    exact ⟨fun h => h.imp fun member entry => (hmember member entry).mpr,
      fun h => h.imp fun member entry => (hmember member entry).mp⟩
  rw [fieldsOfNode?, Option.map_eq_some_iff]
  exact exists_congr fun entries => and_congr (hlisted entries).symm eq_comm

/-- The fields that are read from settled data are the table of what it lists.

**Proof sketch.** The reader goes through the members of a map by recursion, which is what it means
that each one is read; any other data lists nothing. -/
lemma fields?_eq_some_iff {data : Settled} {fields : Table FieldSchema} :
    fields? data = some fields ↔
      ∃ entries, data.ListsFields entries ∧ fields = Table.ofMembers entries := by
  have hlisted (members : List (Settled × Settled)) (entries : List (String × FieldSchema)) :
      fieldList? members = some entries ↔ List.Forall₂ (fun member entry =>
        member.1.text? = some entry.1 ∧ field? member.2 = some entry.2) members entries := by
    induction members generalizing entries with
    | nil => simp [fieldList?, eq_comm]
    | cons member members ih =>
      rw [fieldList?]
      constructor
      · intro h
        obtain ⟨name, hname, h⟩ := Option.bind_eq_some_iff.mp h
        obtain ⟨f, hf, h⟩ := Option.bind_eq_some_iff.mp h
        obtain ⟨rest, hrest, rfl⟩ := Option.map_eq_some_iff.mp h
        exact .cons ⟨hname, hf⟩ ((ih rest).mp hrest)
      · rintro (_ | ⟨⟨hname, hf⟩, hrest⟩)
        rw [hname, Option.bind_some, hf, Option.bind_some, (ih _).mpr hrest]
        rfl
  constructor
  · intro h
    cases data with
    | dict members =>
      obtain ⟨entries, hentries, rfl⟩ := Option.map_eq_some_iff.mp h
      exact ⟨entries, ⟨members, rfl, (hlisted members entries).mp hentries⟩, rfl⟩
    | null | text | index | other | list => contradiction
  · rintro ⟨entries, ⟨members, rfl, hentries⟩, rfl⟩
    rw [fields?, (hlisted members entries).mpr hentries, Option.map_some]

/-- The fields of a schema that is read are those that are read from its member for them.

**Proof sketch.** The reader of schemas takes its steps one by one: the members by position, the
name of the module, and then the fields from the second member. -/
lemma fieldsOfNode?_of_ofNode? {n data : Node} {s : Schema} (hdata : n.HasFieldsMember data)
    (h : ofNode? n = some s) : fieldsOfNode? data = some s.fields := by
  obtain ⟨members, hmembers, hat⟩ := hdata
  rw [ofNode?] at h
  obtain ⟨members', hmembers', h⟩ := Option.bind_eq_some_iff.mp h
  obtain rfl := Option.some.inj (hmembers.symm.trans hmembers')
  obtain ⟨module?, -, h⟩ := Option.bind_eq_some_iff.mp h
  obtain ⟨fields, hfields, h⟩ := Option.bind_eq_some_iff.mp h
  obtain rfl := Option.some.inj h
  rwa [hat] at hfields

/-- So it is for schemas within others. -/
lemma fields?_of_ofSettled? {members : List (Settled × Settled)} {data : Settled} {s : Schema}
    (hdata : Settled.memberAt names 1 members = some data)
    (h : ofSettled? (.dict members) = some s) : fields? data = some s.fields := by
  rw [ofSettled?] at h
  split_ifs at h
  obtain ⟨module?, -, h⟩ := Option.bind_eq_some_iff.mp h
  obtain ⟨fields, hfields, rfl⟩ := Option.map_eq_some_iff.mp h
  rwa [fieldsMember?_eq, hdata] at hfields

/-- A schema is made of definitions of fields: it is built up by them, one after the other, or read
from data that lists them. The tags of a definition by which it is built up are a map with its keys
in order, as those that are read are. -/
inductive MadeOf : List (String × FieldSchema) → Schema → Prop where
  | empty : MadeOf [] .empty
  | withModule {entries : List (String × FieldSchema)} {s : Schema} (h : MadeOf entries s)
    (module : String) : MadeOf entries (s.withModule module)
  | field {entries : List (String × FieldSchema)} {s : Schema} {f : FieldSchema}
    (h : MadeOf entries s) (name : String) (hf : f.TagsOrdered) :
    MadeOf (entries ++ [(name, f)]) (s.field name f)
  | read {entries : List (String × FieldSchema)} {n data : Node} {s : Schema}
    (hdata : n.HasFieldsMember data) (hlists : data.ListsFields entries)
    (hread : ofNode? n = some s) : MadeOf entries s
  | readWithin {entries : List (String × FieldSchema)} {members : List (Settled × Settled)}
    {data : Settled} {s : Schema} (hdata : Settled.memberAt names 1 members = some data)
    (hlists : data.ListsFields entries) (hread : ofSettled? (.dict members) = some s) :
    MadeOf entries s

namespace MadeOf

variable {entries : List (String × FieldSchema)} {s : Schema}

/-- Of definitions with one name the last one counts, in the place of the first one.

**Proof sketch.** Induction on how the schema is made. Defining a field stores one more entry
(`Table.LastWins.put`), and reading makes a table of the members in order
(`Table.lastWins_ofMembers`). -/
lemma lastWins (h : s.MadeOf entries) : Table.LastWins entries s.fields := by
  induction h with
  | empty => exact Table.lastWins_nil
  | withModule _ _ ih => exact ih
  | field _ name _ ih => exact ih.put name _
  | read hdata hlists hread =>
    have hfields := fieldsOfNode?_of_ofNode? hdata hread
    rw [fieldsOfNode?_eq_some_iff.mpr ⟨_, hlists, rfl⟩] at hfields
    exact Option.some.inj hfields ▸ Table.lastWins_ofMembers _
  | readWithin hdata hlists hread =>
    have hfields := fields?_of_ofSettled? hdata hread
    rw [fields?_eq_some_iff.mpr ⟨_, hlists, rfl⟩] at hfields
    exact Option.some.inj hfields ▸ Table.lastWins_ofMembers _

/-- No definition repeats a key of its tags.

**Proof sketch.** Induction on how the schema is made. For a definition by which it is built up this
is assumed, and each one that is listed was read from some data (`tagsOrdered_of_field?`). -/
lemma tagsOrdered (h : s.MadeOf entries) : ∀ entry ∈ entries, entry.2.TagsOrdered := by
  induction h with
  | empty => simp
  | withModule _ _ ih => exact ih
  | field _ name hf ih =>
    intro entry hentry
    rcases List.mem_append.mp hentry with hentry | hentry
    · exact ih entry hentry
    · exact List.mem_singleton.mp hentry ▸ hf
  | read _ hlists _ =>
    intro entry hentry
    obtain ⟨members, -, hmembers⟩ := hlists
    obtain ⟨member, -, hread⟩ := exists_of_mem_of_forall₂ hmembers hentry
    obtain ⟨data, -, hread⟩ := Option.bind_eq_some_iff.mp hread
    exact tagsOrdered_of_field? hread
  | readWithin _ hlists _ =>
    intro entry hentry
    obtain ⟨members, -, hmembers⟩ := hlists
    obtain ⟨member, -, hread⟩ := exists_of_mem_of_forall₂ hmembers hentry
    exact tagsOrdered_of_field? hread

end MadeOf

end Schema

/-! ### Rule strings -/

namespace FieldSchema

/-- The rule string of a definition under a key: the explicit one, or else the bare one if the key
is the usual one. -/
def rulesUnder? : FieldSchema → String → Option String
  | .bare rules, key => if key = defaultTagKey then some rules else none
  | .detailed rules? tags _, key =>
    (tags.get? key).or (if key = defaultTagKey then rules? else none)

variable {f : FieldSchema}

/-- The rule strings of a definition by key do not repeat a key.

**Proof sketch.** Explicit tags are in key order, so they repeat no key. The bare rule string is
stored under the usual key only if there is no explicit one under it. -/
lemma nodup_keys_tags (h : f.TagsOrdered) : f.tags.keys.Nodup := by
  match f, h with
  | .bare rules, _ => exact List.nodup_singleton _
  | .detailed none tags _, h => exact h.imp ne_of_lt
  | .detailed (some rules) tags _, h =>
    have hnodup : tags.keys.Nodup := h.imp ne_of_lt
    rw [FieldSchema.tags]
    split_ifs with hhas
    · exact hnodup
    · have hnew : defaultTagKey ∉ tags.keys := by
        rwa [Table.has, Option.isSome_iff_ne_none, not_not, Table.get?_eq_none_iff] at hhas
      rw [← Table.put_eq_concat hnew]
      exact Table.nodup_put hnodup _ _

/-- The rule string under a key is the explicit one, or else the bare one.

**Proof sketch.** One case for each form of a definition. The bare rule string stands behind the
explicit ones under the usual key, unless there is an explicit one under this key already, which is
then found first. -/
lemma get?_tags (f : FieldSchema) (key : String) : f.tags.get? key = f.rulesUnder? key := by
  match f with
  | .bare rules =>
    rw [tags, Table.get?, Table.get?, rulesUnder?]
    exact if_congr eq_comm rfl rfl
  | .detailed none explicit _ => simp [tags, rulesUnder?]
  | .detailed (some rules) explicit _ =>
    rw [tags, rulesUnder?]
    split_ifs with hhas hkey hkey
    · obtain ⟨found, hfound⟩ := Option.isSome_iff_exists.mp hhas
      rw [hkey, hfound, Option.some_or]
    · rw [Option.or_none]
    · rw [Table.get?_append, Table.get?, if_pos hkey.symm]
    · rw [Table.get?_append, Table.get?, if_neg (Ne.symm hkey), Table.get?]

end FieldSchema

/-! ### Repeated tags -/

/-- Of rule strings that are attached to a field one after the other, the last one under each key
counts.

**Proof sketch.** Attaching stores in place, so the tags of the field are the table made of what is
attached, in order. -/
lemma Field.lastWins_foldl_withTag {ρ : Type} {f : Field ρ} (hf : f.tags = [])
    (attached : List (String × String)) : Table.LastWins attached
      (attached.foldl (fun f tag => f.withTag tag.1 tag.2) f).tags := by
  have hstored (f : Field ρ) : (attached.foldl (fun f tag => f.withTag tag.1 tag.2) f).tags =
      attached.foldl (fun t tag => t.put tag.1 tag.2) f.tags := by
    induction attached generalizing f with
    | nil => rfl
    | cons tag attached ih => rw [List.foldl_cons, List.foldl_cons, ih, withTag]
  rw [hstored, hf]
  exact Table.lastWins_ofMembers attached

/-- A table of texts in settled data is in key order, and of repeated keys the last one counts.

**Proof sketch.** Each member is read as a pair of texts, and the table is made of these pairs in
key order, where the last value of a key counts (`Table.get?_ofList`). -/
lemma Settled.lastWins_of_textTable? {members : List (Settled × Settled)} {t : Table String}
    (h : textTable? (.dict members) = some t) : t.Ordered ∧
      ∃ entries, List.Forall₂ (fun member entry => member = (.text entry.1, .text entry.2))
        members entries ∧ ∀ key, t.get? key = Table.get? entries.reverse key := by
  have htext {data : Settled} {s : String} (h : data.text? = some s) : data = .text s := by
    cases data with
    | text s' => exact congrArg text (Option.some.inj h)
    | null | index | other | list | dict => contradiction
  obtain ⟨entries, hentries, rfl⟩ := Option.map_eq_some_iff.mp h
  refine ⟨Table.ordered_ofList entries, entries, ?_, Table.get?_ofList entries⟩
  refine (mapM_eq_some_iff.mp hentries).imp fun member entry hread => ?_
  obtain ⟨key, hkey, hread⟩ := Option.bind_eq_some_iff.mp hread
  obtain ⟨value, hvalue, rfl⟩ := Option.map_eq_some_iff.mp hread
  exact Prod.ext (htext hkey) (htext hvalue)

/-! ### Records -/

/-- A field of a bound document has what its definition says: its name, the member of this name as
value, and its rule strings. -/
structure Field.ExposedAs (members : List (String × Json)) (entry : String × FieldSchema)
    (f : Field Record) : Prop where
  name_eq : f.name = entry.1
  value_eq : f.value = (Json.member members entry.1).toValue entry.2.schema?
  lastWins : Table.LastWins entry.2.tags f.tags
  tag?_eq : ∀ key, f.tag? key = entry.2.rulesUnder? key

namespace Schema

/-- The fields of a bound object are those of the schema, in its order.

**Proof sketch.** The fields of the record are made of those of the schema, one by one. Their rule
strings by key are a table made of the tags of the definition, which repeat no key, so the table is
these tags. -/
lemma exists_bind_obj (s : Schema) (hs : ∀ entry ∈ s.fields, entry.2.TagsOrdered)
    (members : List (String × Json)) : ∃ r, s.bind (.obj members) = .ok r ∧
      List.Forall₂ (Field.ExposedAs members) s.fields (HasFields.fields r) := by
  obtain ⟨module?, fields⟩ := s
  refine ⟨_, bind_eq_ok_iff.mpr (Json.toValue.eq_7 _ _ _), ?_⟩
  refine List.forall₂_map_right_iff.mpr (List.forall₂_same.mpr fun entry hentry => ?_)
  refine ⟨rfl, Json.toMemberValue_eq members entry.1 entry.2.schema?,
    Table.lastWins_ofMembers _, fun key => ?_⟩
  rw [← FieldSchema.get?_tags, Field.tag?,
    Table.ofMembers_eq (FieldSchema.nodup_keys_tags (hs entry hentry))]

/-- The tree of an object with fields as members, and the name of a module if there is one. -/
def tree (module? : Option String) (fields : List (String × Node)) : Node :=
  .dict .json ((module?.map fun module => (.str "module", Node.str module)).toList ++
    [(.str "fields", .dict .json (fields.map fun field => (.str field.1, field.2)))])

/-- An object with fields as members is read, if the rules of each field are.

**Proof sketch.** The tree has its fields in the position where the reader looks for them, and lists
the definitions by assumption (`fieldsOfNode?_eq_some_iff`). -/
lemma exists_ofNode?_tree (module? : Option String) {fields : List (String × Node)}
    {entries : List (String × FieldSchema)}
    (h : List.Forall₂ (fun field entry =>
      field.1 = entry.1 ∧ (field.2.settle?.bind field?) = some entry.2) fields entries) :
    ∃ s, ofNode? (tree module? fields) = some s ∧ s.module? = module? ∧ s.MadeOf entries := by
  set data : Node := .dict .json (fields.map fun field => (.str field.1, field.2)) with hdata
  have hstructure : (tree module? fields).structure? names =
      some [module?.map .str, some data] := by
    cases module? <;> rfl
  have hmodule : Node.optionalText? (module?.map .str) = some module? := by cases module? <;> rfl
  have hlists : data.ListsFields entries := by
    refine ⟨fields, mapM_eq_some_iff.mpr ?_, h⟩
    exact List.forall₂_map_left_iff.mpr (List.forall₂_same.mpr fun field _ => rfl)
  have hread : ofNode? (tree module? fields) =
      some (.mk module? (Table.ofMembers entries)) := by
    rw [ofNode?, hstructure]
    change ((Node.optionalText? (module?.map .str)).bind fun module? =>
      (fieldsOfNode? data).bind fun fields => some (mk module? fields)) = _
    rw [hmodule, Option.bind_some, fieldsOfNode?_eq_some_iff.mpr ⟨entries, hlists, rfl⟩,
      Option.bind_some]
  exact ⟨_, hread, rfl, .read ⟨_, hstructure, rfl⟩ hlists hread⟩

/-- **The last definitions of fields reach the walk.** A schema that is made of definitions has each
name once, in the order in which the names first come and with its last definition, and any object
that is bound to it is a record of just these fields in this order. The walk reads the explicit rule
string under its key, or else the bare one if that is the usual key. An object with definitions as
members makes such a schema. Tags of which a key is repeated are tables of the same kind, both as
they are attached to a field and as they are read.

**Proof sketch.** Each part is one of the lemmas above: what definitions make (`MadeOf.lastWins`)
with what becomes of them in a bound object (`exists_bind_obj`), what is read from an object
(`exists_ofNode?_tree`), and repeated tags where they are attached and where they are read. -/
theorem definitions_reach_walk :
    (∀ (entries : List (String × FieldSchema)) (s : Schema), s.MadeOf entries →
      Table.LastWins entries s.fields ∧
        ∀ members, ∃ r, s.bind (.obj members) = .ok r ∧
          List.Forall₂ (Field.ExposedAs members) s.fields (HasFields.fields r)) ∧
      (∀ module? fields entries, List.Forall₂ (fun field entry =>
          field.1 = entry.1 ∧ (field.2.settle?.bind field?) = some entry.2) fields entries →
        ∃ s, ofNode? (tree module? fields) = some s ∧ s.module? = module? ∧ s.MadeOf entries) ∧
      (∀ (f : Field Record) attached, f.tags = [] → Table.LastWins attached
        (attached.foldl (fun f tag => f.withTag tag.1 tag.2) f).tags) ∧
      ∀ members t, Settled.textTable? (.dict members) = some t → t.Ordered ∧
        ∃ entries, List.Forall₂ (fun member entry => member = (.text entry.1, .text entry.2))
          members entries ∧ ∀ key, t.get? key = Table.get? entries.reverse key := by
  refine ⟨fun entries s h => ⟨h.lastWins, fun members => ?_⟩,
    fun module? _ _ h => exists_ofNode?_tree module? h,
    fun _ attached hf => Field.lastWins_foldl_withTag hf attached,
    fun _ _ h => Settled.lastWins_of_textTable? h⟩
  exact s.exists_bind_obj (fun entry hentry => h.tagsOrdered entry (h.lastWins.mem hentry)) members

/-- A schema with two definitions of `B`, to which a field is added: the first of these gives the
place, and the other one the rules.

**Proof sketch.** The object lists the three definitions and is read as a schema made of them, and
the added one comes last. The names and rule strings of the record are then computed. -/
theorem definitions_reach_walk_repeated :
    let fields : List (String × Node) :=
      [("B", .str "required"),
        ("A", .dict .json [(.str "rules", .str "min=1"),
          (.str "tags",
            .dict .json [(.str "strict", .str "len=1"), (.str "strict", .str "len=2")])]),
        ("B", .dict .json [(.str "rules", .str "required"),
          (.str "tags", .dict .json [(.str "validate", .str "-")])])]
    let entries : List (String × FieldSchema) :=
      [("B", .bare "required"), ("A", .detailed (some "min=1") [("strict", "len=2")] none),
        ("B", .detailed (some "required") [("validate", "-")] none)]
    ∃ s, ofNode? (tree none fields) = some s ∧
      let s' := s.field "C" (.bare "max=3")
      s'.MadeOf (entries ++ [("C", .bare "max=3")]) ∧ s'.fields.keys = ["B", "A", "C"] ∧
        ∃ r, s'.bind (.obj [("A", .int 0)]) = .ok r ∧
          List.Forall₂ (Field.ExposedAs [("A", .int 0)]) s'.fields (HasFields.fields r) ∧
          (HasFields.fields r).map (fun f => (f.name, f.tag? "validate", f.tag? "strict")) =
            [("B", some "-", none), ("A", some "min=1", some "len=2"),
              ("C", some "max=3", none)] := by
  intro fields entries
  obtain ⟨hmade, hread, -⟩ := definitions_reach_walk
  have hfields : List.Forall₂ (fun field entry =>
      field.1 = entry.1 ∧ (field.2.settle?.bind field?) = some entry.2) fields entries :=
    .cons ⟨rfl, rfl⟩ (.cons ⟨rfl, rfl⟩ (.cons ⟨rfl, rfl⟩ .nil))
  obtain ⟨s, hs, -, hentries⟩ := hread none fields entries hfields
  have hadded : (s.field "C" (.bare "max=3")).MadeOf (entries ++ [("C", .bare "max=3")]) :=
    .field hentries "C" trivial
  obtain ⟨hlast, hbind⟩ := hmade _ _ hadded
  obtain ⟨r, hr, hexposed⟩ := hbind [("A", .int 0)]
  refine ⟨s, hs, hadded, hlast.keys_eq.trans (by decide), r, hr, hexposed, ?_⟩
  obtain rfl := Option.some.inj hs
  obtain rfl := Except.ok.inj hr
  rfl

end Schema

end Verdict
