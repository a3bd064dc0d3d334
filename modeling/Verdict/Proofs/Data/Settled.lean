import Verdict.Data.Settled
import Verdict.Proofs.Table.Ordered

/-!
# JSON values as data

What a JSON value is as a tree of data, and once its meaning is settled. Nothing of it is left open,
so settling cannot fail.

## Main definitions

* `Verdict.Settled.ofJson` — the settled data of a JSON value.

## Main results

* `Verdict.Node.members?_ofJson` — the members of an object.
* `Verdict.Settled.settle?_ofJson` — all of a JSON value has a meaning.
* `Verdict.Settled.textTable?_ofJson_ofTable` — a table of texts is read back.
-/

namespace Verdict

/-- The members of an object by name. -/
lemma Node.members?_ofJson (members : List (String × Json)) :
    (Node.ofJson (.obj members)).members? =
      some (members.map fun member => (member.1, .ofJson member.2)) := by
  rw [Node.ofJson, Node.members?]
  induction members with
  | nil => rfl
  | cons member members ih =>
    rw [Node.ofJsonMembers, List.mapM_cons, ih]
    rfl

namespace Settled

mutual

/-- The settled data of a JSON value. -/
def ofJson : Json → Settled
  | .null => .null
  | .bool _ | .int _ | .float _ => .other
  | .str s => .text s
  | .arr items => .list (ofJsonItems items)
  | .obj members => .dict (ofJsonMembers members)

/-- The settled data of the items of an array. -/
def ofJsonItems : List Json → List Settled
  | [] => []
  | item :: items => ofJson item :: ofJsonItems items

/-- The settled data of the members of an object. -/
def ofJsonMembers : List (String × Json) → List (Settled × Settled)
  | [] => []
  | (name, value) :: members => (.text name, ofJson value) :: ofJsonMembers members

end

mutual

/-- All of a JSON value has a meaning. -/
lemma settle?_ofJson : ∀ value : Json, (Node.ofJson value).settle? = some (ofJson value)
  | .null | .bool _ | .int _ | .float _ | .str _ => rfl
  | .arr items => by
    rw [Node.ofJson, Node.settle?, if_neg (by decide), settleItems?_ofJsonItems items]
    rfl
  | .obj members => by
    rw [Node.ofJson, Node.settle?, if_neg (by decide), settleMembers?_ofJsonMembers members]
    rfl

/-- All of the items of an array have a meaning. -/
lemma settleItems?_ofJsonItems : ∀ items : List Json,
    Node.settleItems? (Node.ofJsonItems items) = some (ofJsonItems items)
  | [] => rfl
  | item :: items => by
    rw [Node.ofJsonItems, Node.settleItems?, settle?_ofJson item, settleItems?_ofJsonItems items]
    rfl

/-- All of the members of an object have a meaning. -/
lemma settleMembers?_ofJsonMembers : ∀ members : List (String × Json),
    Node.settleMembers? (Node.ofJsonMembers members) = some (ofJsonMembers members)
  | [] => rfl
  | (name, value) :: members => by
    rw [Node.ofJsonMembers, Node.settleMembers?, settle?_ofJson value,
      settleMembers?_ofJsonMembers members]
    rfl

end

/-- Members are settled one after the other. -/
lemma ofJsonMembers_append (members more : List (String × Json)) :
    ofJsonMembers (members ++ more) = ofJsonMembers members ++ ofJsonMembers more := by
  induction members with
  | nil => rfl
  | cons member members ih => rw [List.cons_append, ofJsonMembers, ofJsonMembers, ih]; rfl

/-- A table of texts in key order is read back.

**Proof sketch.** The entries are read back one by one, and sorting leaves a table in key order as
it is. -/
lemma textTable?_ofJson_ofTable {t : Table String} (ht : t.Ordered) :
    (ofJson (Json.ofTable t)).textTable? = some t := by
  have hentries (entries : List (String × String)) :
      (ofJsonMembers (entries.map fun entry => (entry.1, Json.str entry.2))).mapM textEntry? =
        some entries := by
    induction entries with
    | nil => rfl
    | cons entry entries ih =>
      rw [List.map_cons, ofJsonMembers, List.mapM_cons, ih]
      rfl
  rw [Json.ofTable, ofJson, textTable?, hentries, Option.map_some, ht.ofList_eq]

end Settled

end Verdict
