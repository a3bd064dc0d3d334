import Verdict.Data.Node
import Verdict.Table

/-!
# Tables of TOML

A table comes to be by its own header, by the header of a table inside it, or by a dotted key. It is
written once: only one that came to be by a header inside it may still get its own.

## Main definitions

* `Verdict.Toml.Item` — what a key stands for.
* `Verdict.Toml.Item.change?` — a change to the table at the end of a path.
* `Verdict.Toml.Item.setValue?`, `Verdict.Toml.Item.openTable?`, `Verdict.Toml.Item.appendTable?` —
  what the statements of a document do.
-/

namespace Verdict.Toml

/-- How a table came to be. -/
inductive Origin where
  /-- By its own header. The table of the whole document counts as one with a header. -/
  | headed
  /-- By the header of a table inside it. -/
  | implied
  /-- By a dotted key. -/
  | dotted
  deriving Repr, DecidableEq

/-- What a key stands for. -/
inductive Item where
  | value (n : Node)
  | table (origin : Origin) (members : List (String × Item))
  /-- The tables of an array, in order. -/
  | tables (rows : List (List (String × Item)))

namespace Item

instance : Inhabited Item := ⟨.table .headed []⟩

/-- Change the table at the end of a path, and get something from it. Tables on the way are made
where they are missing; of an array of tables the last one counts. The path of a dotted key does not
lead through tables with a header of their own. -/
def change? {α : Type} (dotted : Bool)
    (f : Origin → Table Item → Option (α × Table Item)) :
    List String → Origin → Table Item → Option (α × Table Item)
  | [], origin, members => f origin members
  | part :: parts, _, members =>
    match members.get? part with
    | none =>
      let origin : Origin := if dotted then .dotted else .implied
      (change? dotted f parts origin []).map fun (a, inner) =>
        (a, members ++ [(part, .table origin inner)])
    | some (.table origin inner) =>
      if dotted && origin == .headed then none
      else
        (change? dotted f parts origin inner).map fun (a, inner) =>
          (a, members.put part (.table origin inner))
    | some (.tables rows) =>
      rows.getLast?.bind fun row =>
        (change? dotted f parts .headed row).map fun (a, row) =>
          (a, members.put part (.tables (rows.dropLast ++ [row])))
    | some (.value _) => none

/-- Store a value under a dotted key of a table. The table that it goes to came to be by such a key,
unless it is the first one, and has no value under the last part yet. -/
def setValue? (key : List String) (value : Node) (members : Table Item) : Option (Table Item) :=
  let path := key.dropLast
  (change? true (fun origin members =>
    key.getLast?.bind fun name =>
      if (origin == .dotted) == path.isEmpty || members.has name then none
      else some ((), members ++ [(name, .value value)])) path .headed members).map (·.2)

/-- Give a table its header. What is in it already came to be by headers too; it moves to the end of
the table around it. -/
def openTable? (key : List String) (members : Table Item) : Option (Table Item) :=
  (change? false (fun _ members =>
    key.getLast?.bind fun name =>
      match members.get? name with
      | none => some ((), members ++ [(name, .table .headed [])])
      | some (.table .implied inner) =>
        some ((), members.erase name ++ [(name, .table .headed inner)])
      | some _ => none) key.dropLast .headed members).map (·.2)

/-- Append an empty table to an array of tables. -/
def appendTable? (key : List String) (members : Table Item) : Option (Table Item) :=
  (change? false (fun _ members =>
    key.getLast?.bind fun name =>
      match members.get? name with
      | none => some ((), members ++ [(name, .tables [[]])])
      | some (.tables rows) => some ((), members.put name (.tables (rows ++ [[]])))
      | some _ => none) key.dropLast .headed members).map (·.2)

/-- Store a value under a dotted key of the table at the end of a path. -/
def setValueAt? (path key : List String) (value : Node) (members : Table Item) :
    Option (Table Item) :=
  (change? false (fun _ members => (setValue? key value members).map fun members => ((), members))
    path .headed members).map (·.2)

mutual

/-- The tree of what a key stands for, with tables in a form. -/
def toNode (form : Form) : Item → Node
  | .value n => n
  | .table _ members => .dict form (membersToNodes form members)
  | .tables rows => .list form (rowsToNodes form rows)

/-- The trees of the members of a table. -/
def membersToNodes (form : Form) : List (String × Item) → List (Node × Node)
  | [] => []
  | (name, item) :: members => (.str name, toNode form item) :: membersToNodes form members

/-- The trees of tables. -/
def rowsToNodes (form : Form) : List (List (String × Item)) → List Node
  | [] => []
  | row :: rows => .dict form (membersToNodes form row) :: rowsToNodes form rows

end

end Item

end Verdict.Toml
