import Verdict.Json.Basic
import Verdict.Yaml.Scalar

/-!
# Data as read

The trees that text formats are read into, before anyone knows what they are for. Where a format
leaves the meaning of a part open until somebody asks for it, so does the tree: a scalar of YAML is
kept as it is written, and a collection knows the form in which it is written.

## Main definitions

* `Verdict.Node` — a tree.
* `Verdict.Node.toJson?` — the JSON value of a tree.
* `Verdict.Node.structure?` — the members of a structure with known names.
* `Verdict.Node.textTable?` — a table of texts.
-/

namespace Verdict

/-- The form in which a collection is written, which decides what else it may stand for. -/
inductive Form where
  | json
  /-- In a value of TOML. -/
  | inlineToml
  /-- By headers and dotted keys of TOML. -/
  | headedToml
  | yaml
  /-- In YAML, with a tag of its own. It has no value, but its parts can be asked for. -/
  | taggedYaml
  deriving Repr, DecidableEq

/-- A tree of data. -/
inductive Node where
  | null
  | bool (b : Bool)
  | int (n : Int)
  | float (x : Binary64)
  | str (s : String)
  /-- A scalar whose meaning is up to those who ask. -/
  | scalar (s : Yaml.Scalar)
  | list (form : Form) (items : List Node)
  /-- Members in the order of the text, repetitions included. -/
  | dict (form : Form) (members : List (Node × Node))
  /-- A part that is well-formed but has no value; it is harmless where nobody wants one. -/
  | unusable

namespace Node

instance : Inhabited Node := ⟨.null⟩

/-! ### Trees and JSON values -/

mutual

/-- The tree of a JSON value. -/
def ofJson : Json → Node
  | .null => .null
  | .bool b => .bool b
  | .int n => .int n
  | .float x => .float x
  | .str s => .str s
  | .arr items => .list .json (ofJsonItems items)
  | .obj members => .dict .json (ofJsonMembers members)

/-- The trees of the items of an array. -/
def ofJsonItems : List Json → List Node
  | [] => []
  | item :: items => ofJson item :: ofJsonItems items

/-- The trees of the members of an object. -/
def ofJsonMembers : List (String × Json) → List (Node × Node)
  | [] => []
  | (name, value) :: members => (.str name, ofJson value) :: ofJsonMembers members

end

/-- A text; a scalar is one whatever else it could stand for. -/
def text? : Node → Option String
  | .str s => some s
  | .scalar s => some s.text
  | _ => none

mutual

/-- The JSON value of a tree, if all of it has one. Members are in the order of their names, and of
repeated ones the last counts. -/
def toJson? : Node → Option Json
  | .null => some .null
  | .bool b => some (.bool b)
  | .int n => some (.int n)
  | .float x => some (Json.float x).finite
  | .str s => some (.str s)
  | .scalar s => s.value?.map Json.finite
  | .list form items => if form = .taggedYaml then none else (toJsonItems? items).map .arr
  | .dict form members =>
    if form = .taggedYaml then none
    else (toJsonMembers? members).map fun members => .obj (Table.ofList members)
  | .unusable => none

/-- The JSON values of the items of a list. -/
def toJsonItems? : List Node → Option (List Json)
  | [] => some []
  | item :: items =>
    (toJson? item).bind fun item => (toJsonItems? items).map fun items => item :: items

/-- The JSON values of members, in the order of the text. -/
def toJsonMembers? : List (Node × Node) → Option (List (String × Json))
  | [] => some []
  | (key, value) :: members =>
    key.text?.bind fun name => (toJson? value).bind fun value =>
      (toJsonMembers? members).map fun members => (name, value) :: members

end

/-! ### Single values -/

/-- A value that an explicit absence leaves out. -/
def optional? {α : Type} (read? : Node → Option α) : Node → Option (Option α)
  | .null => some none
  | .scalar s =>
    s.isAbsent?.bind fun absent => if absent then some none else (read? (.scalar s)).map some
  | n => (read? n).map some

/-- A truth value. -/
def bool? : Node → Option Bool
  | .bool b => some b
  | .scalar s => s.bool?
  | _ => none

/-- A number of at most 64 bits that is not negative. -/
def natural? : Node → Option Nat
  | .int n => if 0 ≤ n ∧ n < 2 ^ 64 then some n.toNat else none
  | .scalar s => s.natural?
  | _ => none

/-- Whether a tree is a collection without parts. -/
def isEmptyCollection : Node → Bool
  | .list _ items => items.isEmpty
  | .dict _ members => members.isEmpty
  | _ => false

/-- The name of an alternative: a text, or the name of a member with nothing under it. There may be
other members only behind the first one of a table with a header. -/
def alternative? : Node → Option String
  | .str s => some s
  | .scalar s => s.alternative?
  | .dict .json [(key, .null)] => key.text?
  | .dict .inlineToml [(key, value)] => if value.isEmptyCollection then key.text? else none
  | .dict .headedToml ((key, value) :: _) => if value.isEmptyCollection then key.text? else none
  | _ => none

/-! ### Collections -/

/-- The members of a dictionary by name; where nothing is written there are none. -/
def members? : Node → Option (List (String × Node))
  | .dict _ members => members.mapM fun m => m.1.text?.map fun name => (name, m.2)
  | .scalar s => if s.isBlank then some [] else none
  | _ => none

/-- Members read by one reader, in the order of the text. -/
def membersWith? {α : Type} (read? : Node → Option α) (n : Node) : Option (List (String × α)) :=
  n.members?.bind fun members => members.mapM fun m => (read? m.2).map fun a => (m.1, a)

/-- A table of texts; of repeated names the last counts. -/
def textTable? (n : Node) : Option (Table String) := (n.membersWith? text?).map Table.ofList

/-- A member of a structure: none if it is missing. A repeated one spoils the whole structure. -/
def member? (members : List (String × Node)) (name : String) : Option (Option Node) :=
  match members.filter fun m => m.1 = name with
  | [] => some none
  | [(_, value)] => some (some value)
  | _ => none

/-- The members of a structure with known names: a dictionary gives them by name and may hold others
beside them. A list of JSON or TOML gives them in order from the first one on; only in TOML may it
be too long. -/
def structure? (names : List String) (n : Node) : Option (List (Option Node)) :=
  let inOrder (items : List Node) : List (Option Node) :=
    (items.take names.length).map some ++ List.replicate (names.length - items.length) none
  match n with
  | .list .json items => if items.length ≤ names.length then some (inOrder items) else none
  | .list .inlineToml items | .list .headedToml items => some (inOrder items)
  | n => n.members?.bind fun members => names.mapM (member? members)

/-- The member of a list of members at a position. -/
def memberAt (members : List (Option Node)) (i : Nat) : Option Node := (members[i]?).join

/-- A member read by a reader, or a default if it is missing. -/
def orDefault {α : Type} (read? : Node → Option α) (default : α) : Option Node → Option α
  | none => some default
  | some n => read? n

/-- A text that may be left out. -/
def optionalText? (n : Option Node) : Option (Option String) :=
  orDefault (optional? text?) none n

end Node

end Verdict
