import Verdict.Json.Printer
import Verdict.Yaml.Character
import Verdict.Yaml.Scalar

/-!
# Writing YAML

Documents in block style, indented by two blanks a level. A text stands without quotes where that is
allowed and it would be read back as the same text; texts of several lines are written literally.

## Main definitions

* `Verdict.Yaml.Traits` — what the spelling of a text depends on.
* `Verdict.Yaml.Spelling` — the spellings of a text.
* `Verdict.Yaml.print` — the text of a value.
-/

namespace Verdict.Yaml

/-! ### Characters -/

/-- Whether a character counts as white space or the end of a text behind an indicator. -/
def isBlankOrBreak (c : Char) : Bool := c == ' ' || c == '\t' || c == '\x00' || isBreak c

/-- Whether a character may stand for itself. -/
def isPrintable (c : Char) : Bool :=
  c == '\n' || (' ' ≤ c && c ≤ '~') ||
    ('\u00a0' ≤ c && c != '\ufeff' && c != '\ufffe' && c != '\uffff')

/-! ### Spellings of a text -/

/-- What the spelling of a text depends on. -/
structure Traits where
  /-- It could be taken for something other than a text without quotes. -/
  indicators : Bool
  /-- It has more than one line. -/
  multiline : Bool
  /-- It holds characters that may not stand for themselves. -/
  special : Bool
  /-- It begins or ends with a blank or a line break. -/
  padded : Bool
  /-- It ends with a blank. -/
  endsBlank : Bool
  /-- A line break is followed by a blank. -/
  blankAfterBreak : Bool
  /-- A blank is followed by a line break. -/
  breakAfterBlank : Bool
  deriving Repr, DecidableEq

/-- Whether a character at the start of a text makes it something else, by what follows it. -/
def indicatesFirst (c : Char) (rest : List Char) : Bool :=
  ['#', ',', '[', ']', '{', '}', '&', '*', '!', '|', '>', '\'', '"', '%', '@',
    '\u0060'].contains c ||
    ((c == '?' || c == ':' || c == '-') && (rest.head?.all isBlankOrBreak))

/-- Whether a later character makes a text something else, by what is before and behind it. -/
def indicatesLater (before c : Char) (rest : List Char) : Bool :=
  (c == ':' && rest.head?.all isBlankOrBreak) || (c == '#' && isBlankOrBreak before)

/-- Whether some character behind the first one makes a text something else. -/
def indicatesWithin : List Char → Bool
  | before :: c :: rest => indicatesLater before c rest || indicatesWithin (c :: rest)
  | _ => false

/-- Whether two neighbours satisfy two tests. -/
def hasPair (first second : Char → Bool) : List Char → Bool
  | a :: b :: rest => (first a && second b) || hasPair first second (b :: rest)
  | _ => false

/-- The traits of a text. -/
def traits (cs : List Char) : Traits :=
  let marker := ['-', '-', '-'].isPrefixOf cs || ['.', '.', '.'].isPrefixOf cs
  let blank (c : Char) : Bool := c == ' '
  { indicators := marker || (match cs with
      | c :: rest => indicatesFirst c rest
      | [] => false) || indicatesWithin cs
    multiline := cs.any isBreak
    special := !cs.all isPrintable
    padded := cs.head?.any (fun c => c == ' ' || isBreak c) ||
      cs.getLast?.any (fun c => c == ' ' || isBreak c)
    endsBlank := cs.getLast?.any blank
    blankAfterBreak := hasPair isBreak blank cs
    breakAfterBlank := hasPair blank isBreak cs }

/-- How a text is written. -/
inductive Spelling where
  | plain
  | single
  | double
  | literal
  deriving Repr, DecidableEq

/-- Whether a text would stand for something else if it had no quotes. -/
def isAmbiguous (s : String) : Bool :=
  isPaddedDigits s.toList ||
    match meaning? s with
    | some (.str _) => false
    | _ => true

/-- The spelling of a text; a simple key keeps to one line. -/
def spelling (simpleKey : Bool) (s : String) : Spelling :=
  let t := traits s.toList
  let quoted : Spelling :=
    if t.blankAfterBreak || t.breakAfterBlank || t.special then .double else .single
  if simpleKey && t.multiline then .double
  else if s.toList.contains '\n' then
    if simpleKey || t.endsBlank || t.breakAfterBlank || t.special then .double else .literal
  else if isAmbiguous s || t.indicators || t.padded || t.multiline || t.special then quoted
  else .plain

/-! ### Writing a text -/

/-- Blanks up to a column. -/
def blanks (n : Nat) : List Char := List.replicate n ' '

/-- A number in upper-case hexadecimal with a least number of digits. -/
def hexCode (width n : Nat) : List Char :=
  let digits := (Text.hexDigits n).map Char.toUpper
  List.replicate (width - digits.length) '0' ++ digits

/-- One character between double quotes. -/
def escapeChar (c : Char) : List Char :=
  match c with
  | '\x00' => ['\\', '0']
  | '\x07' => ['\\', 'a']
  | '\x08' => ['\\', 'b']
  | '\t' => ['\\', 't']
  | '\n' => ['\\', 'n']
  | '\x0b' => ['\\', 'v']
  | '\x0c' => ['\\', 'f']
  | '\r' => ['\\', 'r']
  | '\x1b' => ['\\', 'e']
  | '"' => ['\\', '"']
  | '\\' => ['\\', '\\']
  | '\u0085' => ['\\', 'N']
  | '\u2028' => ['\\', 'L']
  | '\u2029' => ['\\', 'P']
  | c =>
    if isPrintable c then [c]
    else if c.toNat ≤ 0xff then ['\\', 'x'] ++ hexCode 2 c.toNat
    else if c.toNat ≤ 0xffff then ['\\', 'u'] ++ hexCode 4 c.toNat
    else ['\\', 'U'] ++ hexCode 8 c.toNat

/-- Lines that begin at a column; `fresh` tells that a line has just begun. Empty lines stay
empty. -/
def indented (indent : Nat) (double : Char → Bool) : Bool → List Char → List Char
  | _, [] => []
  | fresh, c :: rest =>
    if isBreak c then c :: indented indent double true rest
    else
      (if fresh then blanks indent else []) ++ (if double c then [c, c] else [c]) ++
        indented indent double false rest

/-- The mark in front of literal lines: a hint where the first line begins with a blank, and how
many line breaks at the end count. -/
def literalMark (cs : List Char) : List Char :=
  let hint := if cs.head?.any fun c => c == ' ' || isBreak c then ['2'] else []
  let breaks := (cs.reverse.takeWhile isBreak).length
  let chomp := if breaks = 0 then ['-'] else if breaks = cs.length ∨ 2 ≤ breaks then ['+'] else []
  '|' :: hint ++ chomp

/-- A text in a spelling; lines behind the first begin at a column. -/
def spell (indent : Nat) (s : String) : Spelling → List Char
  | .plain => s.toList
  | .single =>
    let closing := if s.toList.getLast?.any isBreak then blanks indent else []
    '\'' :: indented indent (· == '\'') false s.toList ++ closing ++ ['\'']
  | .double => '"' :: s.toList.flatMap escapeChar ++ ['"']
  | .literal => literalMark s.toList ++ '\n' :: indented indent (fun _ => false) true s.toList

/-! ### Writing a value -/

/-- End the last line of a text unless a literal text has ended it. -/
def endLine (cs : List Char) : List Char :=
  if cs.getLast?.any isBreak then cs else cs ++ ['\n']

/-- The longest key, in bytes, that stands in front of its value without a mark. -/
def simpleKeyLimit : Nat := 128

/-- Whether a key stands in front of its value without a mark. -/
def isSimpleKey (key : String) : Bool :=
  key.utf8ByteSize ≤ simpleKeyLimit && !key.toList.any isBreak

/-- A scalar or an empty container; lines behind the first begin at a column. -/
def scalar (indent : Nat) : Json → List Char
  | .null => "null".toList
  | .bool b => (if b then "true" else "false").toList
  | .int n => (toString n).toList
  | .float x => x.yamlText.toList
  | .str s => spell indent s (spelling false s)
  | .arr _ => ['[', ']']
  | .obj _ => ['{', '}']

mutual

/-- A value that begins at a column, behind a mark or at the start of a line. -/
def block (column : Nat) : Json → List Char
  | .arr (item :: items) => sequence column (item :: items)
  | .obj (member :: members) => mapping column (member :: members)
  | .arr [] => scalar column (.arr [])
  | .obj [] => scalar column (.obj [])
  | .null => scalar column .null
  | .bool b => scalar column (.bool b)
  | .int n => scalar column (.int n)
  | .float x => scalar column (.float x)
  | .str s => scalar column (.str s)

/-- The items of a sequence whose dashes stand at a column. -/
def sequence (column : Nat) : List Json → List Char
  | [] => []
  | item :: items =>
    let first := '-' :: ' ' :: block (column + 2) item
    if items.isEmpty then first else endLine first ++ blanks column ++ sequence column items

/-- The members of a mapping whose keys stand at a column. -/
def mapping (column : Nat) : List (String × Json) → List Char
  | [] => []
  | (key, value) :: members =>
    let first :=
      if isSimpleKey key then
        spell (column + 2) key (spelling true key) ++ ':' :: behindKey column value
      else
        endLine ('?' :: ' ' :: spell (column + 2) key (spelling false key)) ++ blanks column ++
          ':' :: ' ' :: block (column + 2) value
    if members.isEmpty then first else endLine first ++ blanks column ++ mapping column members

/-- A value behind a simple key at a column. A sequence is as little indented as the key. -/
def behindKey (column : Nat) : Json → List Char
  | .arr (item :: items) => '\n' :: blanks column ++ sequence column (item :: items)
  | .obj (member :: members) =>
    '\n' :: blanks (column + 2) ++ mapping (column + 2) (member :: members)
  | .arr [] => ' ' :: scalar (column + 2) (.arr [])
  | .obj [] => ' ' :: scalar (column + 2) (.obj [])
  | .null => ' ' :: scalar (column + 2) .null
  | .bool b => ' ' :: scalar (column + 2) (.bool b)
  | .int n => ' ' :: scalar (column + 2) (.int n)
  | .float x => ' ' :: scalar (column + 2) (.float x)
  | .str s => ' ' :: scalar (column + 2) (.str s)

end

/-- The document of a value. -/
def print (v : Json) : String :=
  String.ofList (endLine (match v with
    | .arr (item :: items) => sequence 0 (item :: items)
    | .obj (member :: members) => mapping 0 (member :: members)
    | v => scalar 2 v))

end Verdict.Yaml
