/-!
# Tables keyed by text

Finite maps from texts to values, as lists of entries without repeated keys. An entry is stored
either where its key first came or in the order of the keys, which compare by code points.

## Main definitions

* `Verdict.Table` — a list of entries.
* `Verdict.Table.put` — store in place, or at the end.
* `Verdict.Table.insert` — store in key order.
-/

namespace Verdict

/-- A map from texts to values, in a definite order of entries. -/
abbrev Table (α : Type) := List (String × α)

namespace Table

variable {α β : Type}

/-- The value of a key. -/
def get? (t : Table α) (key : String) : Option α :=
  match t with
  | [] => none
  | (k, v) :: rest => if k = key then some v else get? rest key

/-- Whether a key has a value. -/
def has (t : Table α) (key : String) : Bool := (t.get? key).isSome

/-- The keys, in order. -/
def keys (t : Table α) : List String := t.map (·.1)

/-- Give a key a value: in the place of its earlier value, or at the end. -/
def put (t : Table α) (key : String) (value : α) : Table α :=
  match t with
  | [] => [(key, value)]
  | (k, v) :: rest => if k = key then (key, value) :: rest else (k, v) :: put rest key value

/-- Give a key a value, keeping the keys of a sorted table in ascending order. -/
def insert (t : Table α) (key : String) (value : α) : Table α :=
  match t with
  | [] => [(key, value)]
  | (k, v) :: rest =>
    if k = key then (key, value) :: rest
    else if key < k then (key, value) :: (k, v) :: rest
    else (k, v) :: insert rest key value

/-- Take a key away. -/
def erase (t : Table α) (key : String) : Table α :=
  match t with
  | [] => []
  | (k, v) :: rest => if k = key then erase rest key else (k, v) :: erase rest key

/-- The sorted table of a list of entries, of which the last of each key counts. -/
def ofList (entries : List (String × α)) : Table α :=
  entries.foldl (fun t entry => t.insert entry.1 entry.2) []

/-- The table of a list of entries in the order in which the keys first come, the last value of
each key counting. -/
def ofMembers (entries : List (String × α)) : Table α :=
  entries.foldl (fun t entry => t.put entry.1 entry.2) []

/-- Add all entries of another table, which win over earlier ones. -/
def merge (t other : Table α) : Table α :=
  other.foldl (fun t entry => t.insert entry.1 entry.2) t

end Table

end Verdict
