import Verdict.Json.Basic
import Verdict.Text.Quoted

/-!
# Writing TOML

Documents of tables with integers, truth values and texts. A table has a section of its own, behind
the sections before it; the sections of the tables in it follow.

## Main definitions

* `Verdict.Toml.quote` — a text in quotes.
* `Verdict.Toml.print?` — the text of a document.
-/

namespace Verdict.Toml

/-! ### Texts -/

/-- Whether a character has to be escaped in every kind of quotes. -/
def needsCode (c : Char) : Bool :=
  (c.toNat ≤ 0x1f && c != '\t' && c != '\n') || c == '\x7f'

/-- The length of the longest run of a character; `run` is the length of the current one. -/
def longestRun (wanted : Char) (run : Nat) : List Char → Nat
  | [] => run
  | c :: rest =>
    if c = wanted then longestRun wanted (run + 1) rest else max run (longestRun wanted 0 rest)

/-- A code point in upper-case hexadecimal with four digits. -/
def codeDigits (n : Nat) : List Char :=
  let digits := (Text.hexDigits n).map Char.toUpper
  List.replicate (4 - digits.length) '0' ++ digits

/-- A character by its escape sequence. -/
def escapeChar (c : Char) : List Char :=
  match c with
  | '\x08' => ['\\', 'b']
  | '\t' => ['\\', 't']
  | '\n' => ['\\', 'n']
  | '\x0c' => ['\\', 'f']
  | '\r' => ['\\', 'r']
  | '"' => ['\\', '"']
  | '\\' => ['\\', '\\']
  | c => if needsCode c then ['\\', 'u'] ++ codeDigits c.toNat else [c]

/-- The inside of basic quotes over several lines, where line breaks and up to two neighbouring
quotation marks stand for themselves; `run` counts the marks just before. -/
def escapeLines (run : Nat) : List Char → List Char
  | [] => []
  | c :: rest =>
    if c = '"' then
      if run < 2 then c :: escapeLines (run + 1) rest else '\\' :: c :: escapeLines 0 rest
    else (if c = '\n' then [c] else escapeChar c) ++ escapeLines 0 rest

/-- A text in basic quotes. -/
def basic (cs : List Char) : List Char := '"' :: cs.flatMap escapeChar ++ ['"']

/-- A text in literal quotes. -/
def literal (cs : List Char) : List Char := '\'' :: cs ++ ['\'']

/-- A text between triple marks; one of several lines begins on a line of its own. -/
def tripled (mark : Char) (multiline : Bool) (body : List Char) : List Char :=
  List.replicate 3 mark ++ (if multiline then ['\n'] else []) ++ body ++ List.replicate 3 mark

/-- A text in the plainest quotes that need no escape sequence for it, if there are any. -/
def quote (s : String) : List Char :=
  let cs := s.toList
  let coded := cs.any needsCode
  let backslashes := cs.contains '\\'
  let multiline := cs.contains '\n'
  let doubles := longestRun '"' 0 cs
  let singles := longestRun '\'' 0 cs
  if !coded && !backslashes && doubles = 0 && !multiline then basic cs
  else if !coded && singles = 0 && !multiline then literal cs
  else if !coded && !backslashes && doubles ≤ 2 then tripled '"' multiline (escapeLines 0 cs)
  else if !coded && singles ≤ 2 then tripled '\'' multiline cs
  else if multiline then tripled '"' multiline (escapeLines 0 cs)
  else basic cs

/-- Whether a character may stand in a key without quotes. -/
def isBareKeyChar (c : Char) : Bool := c.isAlphanum || c == '_' || c == '-'

/-- A key, without quotes where that is allowed. -/
def key (s : String) : List Char :=
  let cs := s.toList
  let coded := cs.any fun c => needsCode c || c == '\n'
  if !cs.isEmpty && cs.all isBareKeyChar then cs
  else if !coded && !cs.contains '\\' && !cs.contains '"' then basic cs
  else if !coded && !cs.contains '\'' then literal cs
  else basic cs

/-! ### Documents -/

/-- The greatest integer of a document, and one less than the magnitude of the least. -/
def integerBound : Int := 2 ^ 63 - 1

/-- A scalar, if a document can hold it. -/
def scalar? : Json → Option (List Char)
  | .bool b => some (if b then "true" else "false").toList
  | .int n => if -integerBound - 1 ≤ n ∧ n ≤ integerBound then some (toString n).toList else none
  | .str s => some (quote s)
  | .null => none
  | .float _ => none
  | .arr _ => none
  | .obj _ => none

/-- The lines of the members of a table that are no tables. -/
def entries? : List (String × Json) → Option (List (List Char))
  | [] => some []
  | (_, .obj _) :: members => entries? members
  | (name, value) :: members =>
    (scalar? value).bind fun text =>
      (entries? members).map fun lines => (key name ++ [' ', '=', ' '] ++ text ++ ['\n']) :: lines

/-- The heading of a table. -/
def heading (path : List (List Char)) : List Char :=
  '[' :: ['.'].intercalate path ++ [']', '\n']

mutual

/-- The sections of a table at a path, and then those of the tables in it. A table that holds
nothing but tables has no section. -/
def sections? (path : List (List Char)) : Json → Option (List (List Char))
  | .obj members =>
    (entries? members).bind fun lines =>
      (memberSections? path members).map fun inner =>
        if path.isEmpty then (if lines.isEmpty then inner else lines.flatten :: inner)
        else if lines.isEmpty && !members.isEmpty then inner
        else (heading path ++ lines.flatten) :: inner
  | .null | .bool _ | .int _ | .float _ | .str _ | .arr _ => some []

/-- The sections of the tables among members. -/
def memberSections? (path : List (List Char)) : List (String × Json) → Option (List (List Char))
  | [] => some []
  | (name, value) :: members =>
    (sections? (path ++ [key name]) value).bind fun first =>
      (memberSections? path members).map fun rest => first ++ rest

end

/-- The document of an object: its sections with an empty line between them. None if it holds
something that these documents cannot. -/
def print? (v : Json) : Option String :=
  (sections? [] v).map fun sections => String.ofList (['\n'].intercalate sections)

end Verdict.Toml
