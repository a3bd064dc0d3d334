import Verdict.Json.Basic
import Verdict.Number.Shortest
import Verdict.Text.Quoted

/-!
# Writing JSON

## Main definitions

* `Verdict.Json.compact` — a value without white space.
* `Verdict.Json.pretty` — a value with a member a line, indented by two blanks a level.
-/

namespace Verdict.Json

/-- A code of two hexadecimal digits. -/
def twoHexDigits (n : Nat) : List Char :=
  let digits := Text.hexDigits n
  if digits.length < 2 then '0' :: digits else digits

/-- One character of a string. -/
def escapeChar (c : Char) : List Char :=
  match c with
  | '"' => ['\\', '"']
  | '\\' => ['\\', '\\']
  | '\x08' => ['\\', 'b']
  | '\x0c' => ['\\', 'f']
  | '\n' => ['\\', 'n']
  | '\r' => ['\\', 'r']
  | '\t' => ['\\', 't']
  | c => if c.toNat < 0x20 then ['\\', 'u', '0', '0'] ++ twoHexDigits c.toNat else [c]

/-- A string with its quotes. -/
def quoteString (s : String) : String :=
  String.ofList ('"' :: s.toList.flatMap escapeChar ++ ['"'])

/-- The text of a scalar. -/
def scalarText : Json → String
  | .null => "null"
  | .bool b => if b then "true" else "false"
  | .int n => toString n
  | .float x => x.jsonText
  | .str s => quoteString s
  | .arr _ => ""
  | .obj _ => ""

mutual

/-- A value without white space. -/
def compact : Json → String
  | .arr items => "[" ++ ",".intercalate (compactItems items) ++ "]"
  | .obj members => "\x7b" ++ ",".intercalate (compactMembers members) ++ "\x7d"
  | .null => scalarText .null
  | .bool b => scalarText (.bool b)
  | .int n => scalarText (.int n)
  | .float x => scalarText (.float x)
  | .str s => scalarText (.str s)

/-- The items of an array. -/
def compactItems : List Json → List String
  | [] => []
  | item :: items => compact item :: compactItems items

/-- The members of an object. -/
def compactMembers : List (String × Json) → List String
  | [] => []
  | (name, value) :: members =>
    (quoteString name ++ ":" ++ compact value) :: compactMembers members

end

/-- The start of a line at a level. -/
def newline (level : Nat) : String := "\n" ++ String.ofList (List.replicate (2 * level) ' ')

/-- Elements between brackets, each on a line of its own. -/
def bracketed (opening closing : String) (level : Nat) (elements : List String) : String :=
  if elements.isEmpty then opening ++ closing
  else
    opening ++ newline (level + 1) ++ ("," ++ newline (level + 1)).intercalate elements ++
      newline level ++ closing

mutual

/-- A value with an element a line, at a level of indentation. -/
def prettyAt (level : Nat) : Json → String
  | .arr items => bracketed "[" "]" level (prettyItems (level + 1) items)
  | .obj members => bracketed "\x7b" "\x7d" level (prettyMembers (level + 1) members)
  | .null => scalarText .null
  | .bool b => scalarText (.bool b)
  | .int n => scalarText (.int n)
  | .float x => scalarText (.float x)
  | .str s => scalarText (.str s)

/-- The items of an array. -/
def prettyItems (level : Nat) : List Json → List String
  | [] => []
  | item :: items => prettyAt level item :: prettyItems level items

/-- The members of an object. -/
def prettyMembers (level : Nat) : List (String × Json) → List String
  | [] => []
  | (name, value) :: members =>
    (quoteString name ++ ": " ++ prettyAt level value) :: prettyMembers level members

end

/-- A value with an element a line. -/
def pretty (v : Json) : String := prettyAt 0 v

end Verdict.Json
