/-!
# Blanks and lines

The white space that is trimmed around the parts of a rule string is the White_Space property of
Unicode; the zero-width space and the byte order mark are no blanks. Lines end with a line feed, or
with a carriage return before one.

## Main definitions

* `Verdict.Text.isBlank` — whether a character is white space.
* `Verdict.Text.trim` — a text without the blanks at both ends.
* `Verdict.Text.lines` — the lines of a text, without what ends them.
* `Verdict.Text.splitAtFirst?` — the parts of a text around the first occurrence of another.
-/

namespace Verdict.Text

/-! ### Blanks -/

/-- Whether a character has the White_Space property. -/
def isBlank (c : Char) : Bool :=
  ('\t' ≤ c && c ≤ '\r') || c == ' ' || c == '\u0085' || c == '\u00a0' || c == '\u1680' ||
    ('\u2000' ≤ c && c ≤ '\u200a') || c == '\u2028' || c == '\u2029' || c == '\u202f' ||
    c == '\u205f' || c == '\u3000'

/-- A text without its leading blanks. -/
def trimStart (cs : List Char) : List Char := cs.dropWhile isBlank

/-- A text without its trailing blanks. -/
def trimEnd (cs : List Char) : List Char := (cs.reverse.dropWhile isBlank).reverse

/-- A text without the blanks at both ends. -/
def trim (cs : List Char) : List Char := trimEnd (trimStart cs)

/-! ### Lines -/

/-- A line without the carriage return that stood before its line feed. -/
def withoutReturn (line : List Char) : List Char :=
  if line.getLast? = some '\r' then line.dropLast else line

/-- The lines of a text after the characters of the current line, in reverse. A line feed ends a
line; what follows the last one is a line only if there is anything. -/
def linesFrom (current : List Char) : List Char → List (List Char)
  | [] => if current.isEmpty then [] else [current.reverse]
  | '\n' :: rest => withoutReturn current.reverse :: linesFrom [] rest
  | c :: rest => linesFrom (c :: current) rest

/-- The lines of a text. -/
def lines (cs : List Char) : List (List Char) := linesFrom [] cs

/-- The parts before and behind the first occurrence of a separator. -/
def splitAtFirst? (separator : List Char) : List Char → Option (List Char × List Char)
  | [] => if separator.isEmpty then some ([], []) else none
  | c :: rest =>
    if separator.isPrefixOf (c :: rest) then some ([], (c :: rest).drop separator.length)
    else (splitAtFirst? separator rest).map fun (before, behind) => (c :: before, behind)

end Verdict.Text
