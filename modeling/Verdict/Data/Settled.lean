import Verdict.Data.Node

/-!
# Settled data

What can have one of several shapes is looked at before its shape is known. From then on the meaning
of every part is settled: a scalar that could be a number is no text any more.

## Main definitions

* `Verdict.Settled` — a tree of settled data.
* `Verdict.Node.settle?` — the settled data of a tree.
* `Verdict.Settled.isStructure`, `Verdict.Settled.position?` — members of a structure.
-/

namespace Verdict

/-- Settled data. The scalars that nobody asks for are all one. -/
inductive Settled where
  | null
  | text (s : String)
  /-- A number without a minus sign, which can stand for a member by its position. -/
  | index (n : Nat)
  /-- A scalar of another kind. -/
  | other
  | list (items : List Settled)
  /-- Members in the order of the text, repetitions included. -/
  | dict (members : List (Settled × Settled))

namespace Node

/-- The settled meaning of a scalar, if it has one. -/
def settleScalar? (s : Yaml.Scalar) : Option Settled :=
  s.value?.map fun value =>
    match value with
    | .null => .null
    | .str text => .text text
    | .int _ => ((Yaml.Scalar.unsigned? s.text).map Settled.index).getD .other
    | _ => .other

mutual

/-- The settled data of a tree, if all of it has a meaning. -/
def settle? : Node → Option Settled
  | .null => some .null
  | .bool _ | .int _ | .float _ => some .other
  | .str s => some (.text s)
  | .scalar s => settleScalar? s
  | .list form items => if form = .taggedYaml then none else (settleItems? items).map .list
  | .dict form members => if form = .taggedYaml then none else (settleMembers? members).map .dict
  | .unusable => none

/-- The settled data of the items of a list. -/
def settleItems? : List Node → Option (List Settled)
  | [] => some []
  | item :: items =>
    (settle? item).bind fun item => (settleItems? items).map fun items => item :: items

/-- The settled data of members. -/
def settleMembers? : List (Node × Node) → Option (List (Settled × Settled))
  | [] => some []
  | (key, value) :: members =>
    (settle? key).bind fun key => (settle? value).bind fun value =>
      (settleMembers? members).map fun members => (key, value) :: members

end

end Node

namespace Settled

/-- The text that something is. -/
def text? : Settled → Option String
  | .text s => some s
  | _ => none

/-- A text that an explicit absence leaves out. -/
def optionalText? : Settled → Option (Option String)
  | .null => some none
  | .text s => some (some s)
  | _ => none

/-- The member of a structure that a key stands for, by name or by position. The inner option is
empty for a key that stands for no member, the outer one for a key that must not be there. -/
def position? (names : List String) : Settled → Option (Option Nat)
  | .text s => some (names.idxOf? s)
  | .index n => some (if n < names.length then some n else none)
  | _ => none

/-- Whether members make a structure with known names: every key may be there, and no member comes
twice. -/
def isStructure (names : List String) (members : List (Settled × Settled)) : Bool :=
  match members.mapM fun m => m.1.position? names with
  | some positions => decide (positions.filterMap id).Nodup
  | none => false

/-- Whether a key stands for the member at a position. -/
def isAt (names : List String) (i : Nat) (key : Settled) : Bool :=
  key.position? names == some (some i)

/-- The member of a structure at a position. -/
def memberAt (names : List String) (i : Nat) (members : List (Settled × Settled)) :
    Option Settled :=
  (members.find? fun m => m.1.isAt names i).map (·.2)

/-- A member of a table of texts. -/
def textEntry? (member : Settled × Settled) : Option (String × String) :=
  member.1.text?.bind fun name => member.2.text?.map fun text => (name, text)

/-- A table of texts; of repeated names the last counts. -/
def textTable? : Settled → Option (Table String)
  | .dict members => (members.mapM textEntry?).map Table.ofList
  | _ => none

end Settled

end Verdict
