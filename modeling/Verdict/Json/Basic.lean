import Verdict.Number.Binary64
import Verdict.Table

/-!
# JSON values

## Main definitions

* `Verdict.Json` — a JSON value; the members of an object are in a definite order.
* `Verdict.Json.Kind` — the kinds of JSON values.
-/

namespace Verdict

/-- A JSON value. Numbers are integers when they are written as such and fit. -/
inductive Json where
  | null
  | bool (b : Bool)
  | int (n : Int)
  | float (x : Binary64)
  | str (s : String)
  | arr (items : List Json)
  | obj (members : List (String × Json))

namespace Json

instance : Inhabited Json := ⟨.null⟩

/-- The name of the kind of a value. -/
def kind : Json → String
  | .null => "null"
  | .bool _ => "boolean"
  | .int _ => "number"
  | .float _ => "number"
  | .str _ => "string"
  | .arr _ => "array"
  | .obj _ => "object"

/-- A value in which a number that is not finite is null. -/
def finite : Json → Json
  | .float .nan => .null
  | .float (.infinite _) => .null
  | v => v

/-- An object of texts. -/
def ofTable (t : Table String) : Json := .obj (t.map fun entry => (entry.1, .str entry.2))

end Json

end Verdict
