import Verdict.Data.Settled
import Verdict.Schema.Basic

/-!
# Schemas as data

A field is written as a bare rule string, or as an object of which every member may be missing.

## Main definitions

* `Verdict.Schema.toJson` — the JSON value of a schema.
* `Verdict.Schema.ofSettled?` — the schema of settled data.
* `Verdict.Schema.ofNode?` — the schema of a tree of data.
-/

namespace Verdict

namespace Schema

mutual

/-- The JSON value of a schema; what is missing is left out, but the fields never are. -/
def toJson : Schema → Json
  | .mk module? fields =>
    .obj ((module?.map fun module => ("module", Json.str module)).toList ++
      [("fields", .obj (fieldsToJson fields))])

/-- The JSON values of fields. -/
def fieldsToJson : List (String × FieldSchema) → List (String × Json)
  | [] => []
  | (name, field) :: fields => (name, fieldToJson field) :: fieldsToJson fields

/-- The JSON value of a field. -/
def fieldToJson : FieldSchema → Json
  | .bare rules => .str rules
  | .detailed rules? tags schema? =>
    .obj ((rules?.map fun rules => ("rules", Json.str rules)).toList ++
      (if tags.isEmpty then [] else [("tags", Json.ofTable tags)]) ++
      optionToJson schema?)

/-- The member for a nested schema, if there is one. -/
def optionToJson : Option Schema → List (String × Json)
  | none => []
  | some schema => [("schema", toJson schema)]

end

/-! ### Reading a schema -/

/-- The names of the members of a schema. -/
def names : List String := ["module", "fields"]

/-- The names of the members of a field. -/
def fieldNames : List String := ["rules", "tags", "schema"]

/-- A text in settled data, where it may be missing. -/
def textMember? : Option Settled → Option (Option String)
  | none => some none
  | some text => text.optionalText?

/-- The rule strings by key in settled data, where they may be missing. -/
def tagsMember? : Option Settled → Option (Table String)
  | none => some []
  | some tags => tags.textTable?

mutual

/-- The schema of settled data. A list gives the members in order. -/
def ofSettled? : Settled → Option Schema
  | .dict members =>
    if Settled.isStructure names members then
      (textMember? (Settled.memberAt names 0 members)).bind fun module? =>
        (fieldsMember? members).map fun fields => .mk module? fields
    else none
  | .list [] => some .empty
  | .list [module] => module.optionalText?.map fun module? => .mk module? []
  | .list [module, fields] =>
    module.optionalText?.bind fun module? =>
      (fields? fields).map fun fields => .mk module? fields
  | .list (_ :: _ :: _ :: _) => none
  | .null | .text _ | .index _ | .other => none

/-- The fields among the members of a schema, where they may be missing. -/
def fieldsMember? : List (Settled × Settled) → Option (Table FieldSchema)
  | [] => some []
  | (key, value) :: members =>
    if key.isAt names 1 then fields? value else fieldsMember? members

/-- Fields by name; of repeated ones the last counts, in the place of the first. -/
def fields? : Settled → Option (Table FieldSchema)
  | .dict members => (fieldList? members).map Table.ofMembers
  | .null | .text _ | .index _ | .other | .list _ => none

/-- Fields in the order of the text. -/
def fieldList? : List (Settled × Settled) → Option (List (String × FieldSchema))
  | [] => some []
  | (key, value) :: members =>
    key.text?.bind fun name => (field? value).bind fun field =>
      (fieldList? members).map fun fields => (name, field) :: fields

/-- The rules of a field. -/
def field? : Settled → Option FieldSchema
  | .text rules => some (.bare rules)
  | .dict members =>
    if Settled.isStructure fieldNames members then
      (textMember? (Settled.memberAt fieldNames 0 members)).bind fun rules? =>
      (tagsMember? (Settled.memberAt fieldNames 1 members)).bind fun tags =>
      (schemaMember? members).map fun schema? => .detailed rules? tags schema?
    else none
  | .null | .index _ | .other | .list _ => none

/-- The nested schema among the members of a field; an explicit absence counts as missing. -/
def schemaMember? : List (Settled × Settled) → Option (Option Schema)
  | [] => some none
  | (key, value) :: members =>
    if key.isAt fieldNames 2 then
      match value with
      | .null => some none
      | value => (ofSettled? value).map some
    else schemaMember? members

end

/-- The fields of a tree of data by name. A field has one of two shapes, so its meaning is settled
before it is read. -/
def fieldsOfNode? (n : Node) : Option (Table FieldSchema) :=
  (n.membersWith? fun value => value.settle?.bind field?).map Table.ofMembers

/-- The schema of a tree of data. -/
def ofNode? (n : Node) : Option Schema := do
  let members ← n.structure? names
  let module? ← Node.optionalText? (Node.memberAt members 0)
  let fields ← Node.orDefault fieldsOfNode? [] (Node.memberAt members 1)
  return .mk module? fields

end Schema

end Verdict
