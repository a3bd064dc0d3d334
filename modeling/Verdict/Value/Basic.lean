import Verdict.Number.Binary64
import Verdict.Table

/-!
# Values and fields

What a rule looks at: a value of one of nine kinds. A record is known only by its fields, so a type
of records is any type whose members list their fields; records that contain themselves are records
like all others.

## Main definitions

* `Verdict.Value` — a value over a type of records.
* `Verdict.Field` — a named value with the rules attached to it.
* `Verdict.HasFields` — a type of records.
* `Verdict.Record` — records given by their fields, the type that data is read into.

## Design

Recursion over a value stops at its records. What follows a record into its fields does so a
bounded number of times, with the bound as an argument; so no finiteness of records is needed.
-/

namespace Verdict

/-- A value to validate. -/
inductive Value (ρ : Type) where
  /-- No value at all. -/
  | absent
  | bool (b : Bool)
  | int (n : Int)
  | uint (n : Nat)
  | float (x : Binary64)
  | str (s : String)
  | seq (items : List (Value ρ))
  /-- Entries in the order of the map they came from. -/
  | map (entries : List (Value ρ × Value ρ))
  | record (r : ρ)

instance {ρ : Type} : Inhabited (Value ρ) := ⟨.absent⟩

/-- A rule attached to a field by its name, with its parameter. -/
structure RuleSpec where
  name : String
  param : String
  deriving Repr, DecidableEq

/-- The key under which rule strings are attached unless another one is asked for. -/
def defaultTagKey : String := "validate"

/-- A field of a record: its name, its value, its rule strings by key and its attached rules. -/
structure Field (ρ : Type) where
  name : String
  value : Value ρ
  tags : Table String := []
  specs : List RuleSpec := []
  deriving Inhabited

/-- A type of records: each lists its fields in order. -/
class HasFields (ρ : Type) where
  fields : ρ → List (Field ρ)

namespace Value

variable {ρ : Type}

/-- The name of a value's kind. -/
def kind : Value ρ → String
  | .absent => "absent"
  | .bool _ => "bool"
  | .int _ => "integer"
  | .uint _ => "unsigned integer"
  | .float _ => "float"
  | .str _ => "string"
  | .seq _ => "sequence"
  | .map _ => "map"
  | .record _ => "record"

/-- Whether there is no value. -/
def isAbsent : Value ρ → Bool
  | .absent => true
  | _ => false

/-- A sequence of texts. -/
def strings (items : List String) : Value ρ := .seq (items.map .str)

/-- A map with texts as keys, in their order. -/
def ofTable (entries : Table (Value ρ)) : Value ρ :=
  .map (entries.map fun entry => (.str entry.1, entry.2))

end Value

namespace Field

variable {ρ : Type}

/-- Attach a rule string under a key, in place of an earlier one. -/
def withTag (f : Field ρ) (key rules : String) : Field ρ :=
  { f with tags := f.tags.put key rules }

/-- Attach a rule string under the usual key. -/
def withRules (f : Field ρ) (rules : String) : Field ρ := f.withTag defaultTagKey rules

/-- The rule string attached under a key. -/
def tag? (f : Field ρ) (key : String) : Option String := f.tags.get? key

end Field

/-! ### Records given by their fields -/

/-- A field whose value is the record that holds it. -/
structure BackLink where
  name : String
  tags : Table String := []
  specs : List RuleSpec := []
  deriving Repr, DecidableEq

/-- A record. -/
inductive Record where
  /-- A record of finitely many fields with values of their own. -/
  | plain (fields : List (Field Record))
  /-- A record with a last field that holds the record itself. -/
  | cyclic (fields : List (Field Record)) (link : BackLink)

instance : Inhabited Record := ⟨.plain []⟩

/-- The fields of a record; those of a cyclic one end with the link to itself. -/
def Record.fields : Record → List (Field Record)
  | .plain fields => fields
  | .cyclic fields link =>
    fields ++ [⟨link.name, .record (.cyclic fields link), link.tags, link.specs⟩]

instance : HasFields Record := ⟨Record.fields⟩

end Verdict
