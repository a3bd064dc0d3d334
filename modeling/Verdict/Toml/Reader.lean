import Verdict.Toml.Date
import Verdict.Toml.Item
import Verdict.Toml.Number
import Verdict.Toml.Text

/-!
# Reading TOML

Key-value pairs, tables, arrays of tables and values of all types.

## Main definitions

* `Verdict.Toml.value?` — a value at the start of a text.
* `Verdict.Toml.Document` — a document as far as it is read.
* `Verdict.Toml.parse?` — the tree of a text.
-/

namespace Verdict.Toml

/-! ### Keys -/

/-- One more than the greatest depth of values, and than the greatest number of parts of a key. -/
def depthLimit : Nat := 80

/-- Whether a character may stand in a key without quotes. -/
def isKeyChar (c : Char) : Bool := c.isAlphanum || c == '_' || c == '-'

/-- One part of a key. -/
def simpleKey? (cs : List Char) : Option (String × List Char) :=
  match cs with
  | '"' :: _ | '\'' :: _ => lineString? cs
  | _ =>
    match cs.takeWhile isKeyChar with
    | [] => none
    | key => some (String.ofList key, cs.dropWhile isKeyChar)

/-- A key of at most so many parts, with dots between them. -/
def keyParts? : Nat → List Char → Option (List String × List Char)
  | 0, _ => none
  | fuel + 1, cs =>
    (simpleKey? (skipBlanks cs)).bind fun (part, rest) =>
      match skipBlanks rest with
      | '.' :: rest => (keyParts? fuel rest).map fun (parts, rest) => (part :: parts, rest)
      | rest => some ([part], rest)

/-- A key at the start of a text. -/
def key? (cs : List Char) : Option (List String × List Char) := keyParts? (depthLimit - 1) cs

/-! ### Values -/

/-- The name under which a date or time is the only member of a table. -/
def dateName : String := "$__toml_private_datetime"

/-- A date or time as a tree. -/
def DateTime.toNode (d : DateTime) : Node :=
  .dict .inlineToml [(.str dateName, .str d.text)]

/-- Whether a character may stand in a number or word. -/
def isWordChar (c : Char) : Bool := c.isAlphanum || c == '_' || c == '+' || c == '-' || c == '.'

/-- A truth value or number at the start of a text. -/
def word? (cs : List Char) : Option (Node × List Char) :=
  let word := cs.takeWhile isWordChar
  let rest := cs.dropWhile isWordChar
  if word = "true".toList then some (.bool true, rest)
  else if word = "false".toList then some (.bool false, rest)
  else
    match integer? word with
    | some n => some (.int n, rest)
    | none => (real? word).map fun x => (.float x, rest)

/-- A date, time, truth value or number at the start of a text. -/
def atom? (cs : List Char) : Option (Node × List Char) :=
  (dateTime? cs).bind fun
    | some (d, rest) => some (d.toNode, rest)
    | none => word? cs

mutual

/-- A value at the start of a text, inside `depth` others. -/
def value? : Nat → Nat → List Char → Option (Node × List Char)
  | 0, _, _ => none
  | fuel + 1, depth, cs =>
    match cs with
    | '[' :: rest => if depth + 1 < depthLimit then array? fuel (depth + 1) [] rest else none
    | '{' :: rest =>
      if depth + 1 < depthLimit then
        match skipBlanks rest with
        | '}' :: rest => some (.dict .inlineToml [], rest)
        | rest => inlineTable? fuel (depth + 1) [] rest
      else none
    | '"' :: _ | '\'' :: _ => (string? cs).map fun (s, rest) => (.str s, rest)
    | _ => atom? cs

/-- The items of an array, collected in reverse. -/
def array? : Nat → Nat → List Node → List Char → Option (Node × List Char)
  | 0, _, _, _ => none
  | fuel + 1, depth, taken, cs =>
    match skipSpace cs.length cs with
    | ']' :: rest => some (.list .inlineToml taken.reverse, rest)
    | rest =>
      (value? fuel depth rest).bind fun (item, rest) =>
        match skipSpace rest.length rest with
        | ',' :: rest => array? fuel depth (item :: taken) rest
        | ']' :: rest => some (.list .inlineToml (item :: taken).reverse, rest)
        | _ => none

/-- The members of a table on one line. -/
def inlineTable? : Nat → Nat → Table Item → List Char → Option (Node × List Char)
  | 0, _, _, _ => none
  | fuel + 1, depth, members, cs =>
    (key? cs).bind fun (key, rest) => (mark? '=' rest).bind fun rest =>
      (value? fuel depth (skipBlanks rest)).bind fun (value, rest) =>
        (Item.setValue? key value members).bind fun members =>
          match skipBlanks rest with
          | ',' :: rest => inlineTable? fuel depth members rest
          | '}' :: rest => some ((Item.table .headed members).toNode .inlineToml, rest)
          | _ => none

end

/-! ### Documents -/

/-- A document as far as it is read: its members, and the path of the table that pairs go to. -/
structure Document where
  members : Table Item := []
  current : List String := []

namespace Document

/-- The document after a statement at the start of a text. -/
def statement? (d : Document) (cs : List Char) : Option (Document × List Char) :=
  match cs with
  | '[' :: '[' :: rest =>
    (key? rest).bind fun (key, rest) => (mark? ']' rest).bind fun rest =>
      (mark? ']' rest).bind fun rest =>
        (Item.appendTable? key d.members).map fun members => (⟨members, key⟩, rest)
  | '[' :: rest =>
    (key? rest).bind fun (key, rest) => (mark? ']' rest).bind fun rest =>
      (Item.openTable? key d.members).map fun members => (⟨members, key⟩, rest)
  | cs =>
    (key? cs).bind fun (key, rest) => (mark? '=' rest).bind fun rest =>
      (value? (2 * rest.length + 2) 0 (skipBlanks rest)).bind fun (value, rest) =>
        (Item.setValueAt? d.current key value d.members).map fun members =>
          ({ d with members := members }, rest)

/-- The document after all statements of a text, each of which ends its line. -/
def read? : Nat → Document → List Char → Option Document
  | 0, _, _ => none
  | fuel + 1, d, cs =>
    match skipSpace (cs.length + 1) cs with
    | [] => some d
    | rest =>
      (d.statement? rest).bind fun (d, rest) => (endOfLine? rest).bind fun rest => read? fuel d rest

end Document

/-- The tree of a text, which may have a mark of byte order in front. -/
def parse? (text : String) : Option Node :=
  let cs := match text.toList with
    | '\ufeff' :: rest => rest
    | cs => cs
  (Document.read? (cs.length + 1) {} cs).map fun d =>
    (Item.table .headed d.members).toNode .headedToml

end Verdict.Toml
