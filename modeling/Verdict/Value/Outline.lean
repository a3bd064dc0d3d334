import Verdict.Number.Shortest
import Verdict.Text.Listing
import Verdict.Value.Basic

/-!
# Printing values

A value prints through its outline, a finite tree in which records under eight or more containers
are left out. Both printed forms, the plain text and the diagnostic listing, are functions of the
outline; so they look equally deep, and cyclic records print like all others.

## Main definitions

* `Verdict.Outline` — a value as far as it prints.
* `Verdict.Value.outline` — the outline of a value.
* `Verdict.Value.text` — the plain text of a value.
* `Verdict.Value.listing` — the diagnostic listing of a value.
-/

namespace Verdict

/-- A value as far as it prints. -/
inductive Outline where
  | absent
  | bool (b : Bool)
  | int (n : Int)
  | uint (n : Nat)
  | float (x : Binary64)
  | str (s : String)
  | seq (items : List Outline)
  | map (entries : List (Outline × Outline))
  | record (fields : List (String × Outline))
  /-- A record too deep to print. -/
  | elided
  deriving Inhabited

/-- How many containers may enclose a record that still prints. -/
def printDepth : Nat := 8

/-- What stands for a record too deep to print. -/
def elision : String := "\x7b...\x7d"

namespace Value

variable {ρ : Type}

mutual

/-- The outline of a value with every record in it left out. -/
def shallow : Value ρ → Outline
  | .absent => .absent
  | .bool b => .bool b
  | .int n => .int n
  | .uint n => .uint n
  | .float x => .float x
  | .str s => .str s
  | .seq items => .seq (shallowItems items)
  | .map entries => .map (shallowEntries entries)
  | .record _ => .elided

/-- The outlines of the elements of a sequence with every record left out. -/
def shallowItems : List (Value ρ) → List Outline
  | [] => []
  | item :: items => shallow item :: shallowItems items

/-- The outlines of the entries of a map with every record left out. -/
def shallowEntries : List (Value ρ × Value ρ) → List (Outline × Outline)
  | [] => []
  | (key, value) :: entries => (shallow key, shallow value) :: shallowEntries entries

end

/-- The outline of a value in which a record prints when fewer containers enclose it than given. -/
def outlineWithin [HasFields ρ] : Nat → Value ρ → Outline
  | 0, v => v.shallow
  | depth + 1, .seq items => .seq (items.map (outlineWithin depth))
  | depth + 1, .map entries =>
    .map (entries.map fun entry => (outlineWithin depth entry.1, outlineWithin depth entry.2))
  | depth + 1, .record r =>
    .record ((HasFields.fields r).map fun f => (f.name, outlineWithin depth f.value))
  | _ + 1, .absent => .absent
  | _ + 1, .bool b => .bool b
  | _ + 1, .int n => .int n
  | _ + 1, .uint n => .uint n
  | _ + 1, .float x => .float x
  | _ + 1, .str s => .str s

/-- The outline of a value. -/
def outline [HasFields ρ] (v : Value ρ) : Outline := v.outlineWithin printDepth

end Value

/-- The word for a truth value. -/
def boolText (b : Bool) : String := if b then "true" else "false"

namespace Outline

mutual

/-- The plain text of an outline: sequences in brackets, maps as `map[key:value]`, records as their
values in braces. -/
def text : Outline → String
  | .absent => "<nil>"
  | .bool b => boolText b
  | .int n => toString n
  | .uint n => toString n
  | .float x => x.text
  | .str s => s
  | .seq items => "[" ++ " ".intercalate (textItems items) ++ "]"
  | .map entries => "map[" ++ " ".intercalate (textEntries entries) ++ "]"
  | .record fields => "\x7b" ++ " ".intercalate (textFields fields) ++ "\x7d"
  | .elided => elision

/-- The plain texts of elements. -/
def textItems : List Outline → List String
  | [] => []
  | item :: items => text item :: textItems items

/-- The plain texts of entries. -/
def textEntries : List (Outline × Outline) → List String
  | [] => []
  | (key, value) :: entries => (text key ++ ":" ++ text value) :: textEntries entries

/-- The plain texts of the values of fields. -/
def textFields : List (String × Outline) → List String
  | [] => []
  | (_, value) :: fields => text value :: textFields fields

end

mutual

/-- The diagnostic listing of an outline. -/
def listing : Outline → Text.Listing
  | .absent => .atom "Absent"
  | .bool b => .call "Bool" [.atom (boolText b)]
  | .int n => .call "Int" [.atom (toString n)]
  | .uint n => .call "Uint" [.atom (toString n)]
  | .float x => .call "Float" [.atom x.diagnosticText]
  | .str s => .call "Str" [.text s]
  | .seq items => .list (listingItems items)
  | .map entries => .map (listingEntries entries)
  | .record fields => .map (listingFields fields)
  | .elided => .atom elision

/-- The diagnostic listings of elements. -/
def listingItems : List Outline → List Text.Listing
  | [] => []
  | item :: items => listing item :: listingItems items

/-- The diagnostic listings of entries. -/
def listingEntries : List (Outline × Outline) → List (Text.Listing × Text.Listing)
  | [] => []
  | (key, value) :: entries => (listing key, listing value) :: listingEntries entries

/-- The diagnostic listings of fields, under their quoted names. -/
def listingFields : List (String × Outline) → List (Text.Listing × Text.Listing)
  | [] => []
  | (name, value) :: fields => (.text name, listing value) :: listingFields fields

end

end Outline

namespace Value

variable {ρ : Type} [HasFields ρ]

/-- The plain text of a value, as messages show it. -/
def text (v : Value ρ) : String := v.outline.text

/-- The diagnostic listing of a value. -/
def listing (v : Value ρ) : Text.Listing := v.outline.listing

end Value

namespace RuleSpec

/-- The diagnostic listing of an attached rule. -/
def listing (spec : RuleSpec) : Text.Listing :=
  .fields "RuleSpec" [("name", .text spec.name), ("param", .text spec.param)] false

end RuleSpec

namespace Field

variable {ρ : Type} [HasFields ρ]

/-- The diagnostic listing of a field. -/
def listing (f : Field ρ) : Text.Listing :=
  .fields "Field"
    [("name", .text f.name), ("value", f.value.listing),
      ("tags", .list (f.tags.map fun tag => .call "" [.text tag.1, .text tag.2])),
      ("specs", .list (f.specs.map RuleSpec.listing))] false

end Field

end Verdict
