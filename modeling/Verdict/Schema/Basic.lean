import Verdict.Json.Basic
import Verdict.Value.Basic

/-!
# Schemas

A schema gives the fields of JSON objects their rules. A document bound to a schema is a record;
what the schema does not name is not looked at.

## Main definitions

* `Verdict.Schema`, `Verdict.FieldSchema` — the rules of an object and of one field.
* `Verdict.Schema.bind` — a document as a record.
* `Verdict.Json.toValue` — a JSON value under a schema.
-/

namespace Verdict

mutual

/-- The fields of an object and their rules. -/
inductive Schema where
  /-- An optional name of the module, and the fields in order. -/
  | mk (module? : Option String) (fields : List (String × FieldSchema))

/-- The rules of one field. -/
inductive FieldSchema where
  /-- A bare rule string under the usual key. -/
  | bare (rules : String)
  /-- A rule string under the usual key, rule strings by key, and a schema for the objects in the
  value. -/
  | detailed (rules? : Option String) (tags : Table String) (schema? : Option Schema)

end

instance : Inhabited Schema := ⟨.mk none []⟩

namespace FieldSchema

/-- Rules and a schema for nested objects; the empty rule string is left out. -/
def nested (rules : String) (schema : Schema) : FieldSchema :=
  .detailed (if rules.isEmpty then none else some rules) [] (some schema)

/-- The rule strings by key. An explicit one under the usual key wins over the bare one. -/
def tags : FieldSchema → Table String
  | .bare rules => [(defaultTagKey, rules)]
  | .detailed rules? tags _ =>
    match rules? with
    | some rules => if tags.has defaultTagKey then tags else tags ++ [(defaultTagKey, rules)]
    | none => tags

/-- The schema of the objects in the value. -/
def schema? : FieldSchema → Option Schema
  | .bare _ => none
  | .detailed _ _ schema? => schema?

end FieldSchema

namespace Schema

/-- The schema without fields. -/
def empty : Schema := .mk none []

/-- The name of the module. -/
def module? : Schema → Option String
  | .mk module? _ => module?

/-- The fields in order. -/
def fields : Schema → Table FieldSchema
  | .mk _ fields => fields

/-- Name the module. -/
def withModule (s : Schema) (module : String) : Schema := .mk (some module) s.fields

/-- Define a field, in the place of an earlier one of the name or at the end. -/
def field (s : Schema) (name : String) (f : FieldSchema) : Schema :=
  .mk s.module? (s.fields.put name f)

end Schema

namespace Json

/-- The least number that only an unsigned number of 64 bits can hold. -/
def unsignedFrom : Int := 2 ^ 63

mutual

/-- A JSON value; under a schema its objects are records, at any depth of arrays. -/
def toValue : Json → Option Schema → Value Record
  | .null, _ => .absent
  | .bool b, _ => .bool b
  | .int n, _ => if n < unsignedFrom then .int n else .uint n.toNat
  | .float x, _ => .float x
  | .str s, _ => .str s
  | .arr items, schema? => .seq (toValues items schema?)
  | .obj members, some (.mk _ fields) =>
    .record (.plain (fields.map fun field =>
      { name := field.1, value := toMemberValue members field.1 field.2.schema?
        tags := Table.ofMembers field.2.tags }))
  | .obj members, none => .map (toEntries members)

/-- The items of an array. -/
def toValues : List Json → Option Schema → List (Value Record)
  | [], _ => []
  | item :: items, schema? => toValue item schema? :: toValues items schema?

/-- The members of an object that no schema describes. -/
def toEntries : List (String × Json) → List (Value Record × Value Record)
  | [] => []
  | (name, value) :: members => (.str name, toValue value none) :: toEntries members

/-- The member of a name; a missing one is absent. -/
def toMemberValue : List (String × Json) → String → Option Schema → Value Record
  | [], _, _ => .absent
  | (name, value) :: members, wanted, schema? =>
    if name = wanted then toValue value schema? else toMemberValue members wanted schema?

end

end Json

/-- Why a document cannot be validated. -/
inductive BindError where
  | notAnObject (kind : String)
  deriving Repr, DecidableEq

/-- The wording of the error. -/
def BindError.message : BindError → String
  | .notAnObject kind =>
    "cannot validate a top-level " ++ kind ++ " value, expected a record"

/-- A document as a record of the fields that a schema names. -/
def Schema.bind (s : Schema) (document : Json) : Except BindError Record :=
  match document.toValue (some s) with
  | .record r => .ok r
  | _ => .error (.notAnObject document.kind)

end Verdict
