/-!
# Characters of YAML

What a YAML text may be made of, and the two classes of white space that its rules tell apart:
blanks inside a line and breaks between lines.

## Main definitions

* `Verdict.Yaml.isBreak`, `Verdict.Yaml.isBlank` — the two classes of white space.
* `Verdict.Yaml.stream?` — the characters of a text as they are read.
-/

namespace Verdict.Yaml

/-- Whether a character ends a line. -/
def isBreak (c : Char) : Bool :=
  c == '\n' || c == '\r' || c == '\u0085' || c == '\u2028' || c == '\u2029'

/-- Whether a character is a blank inside a line. -/
def isBlank (c : Char) : Bool := c == ' ' || c == '\t'

/-- Whether a text is over or goes on with white space. -/
def startsBlank (cs : List Char) : Bool := cs.head?.all fun c => isBlank c || isBreak c

/-- Whether a character may stand in the name of an anchor, a directive or a tag handle. -/
def isNameChar (c : Char) : Bool := c.isAlphanum || c == '-' || c == '_'

/-- Whether a character may stand in a text at all. -/
def isAllowed (c : Char) : Bool :=
  c == '\t' || c == '\n' || c == '\r' || (' ' ≤ c && c ≤ '~') || c == '\u0085' ||
    ('\u00a0' ≤ c && c ≤ '\ufffd') || 0x10000 ≤ c.toNat

/-- The mark of byte order. -/
def byteOrderMark : Char := '\ufeff'

/-- A text in which every break is a line feed, except for the two separators of Unicode, which stay
what they are. A carriage return and the line feed behind it are one break. -/
def unifyBreaks : List Char → List Char
  | [] => []
  | '\r' :: '\n' :: rest => '\n' :: unifyBreaks rest
  | c :: rest => (if c == '\r' || c == '\u0085' then '\n' else c) :: unifyBreaks rest

/-- The characters of a text, without a mark of byte order in front; none if one of them must not
stand in a text. -/
def stream? (text : String) : Option (List Char) :=
  let cs := match text.toList with
    | c :: rest => if c == byteOrderMark then rest else c :: rest
    | [] => []
  if cs.all isAllowed then some (unifyBreaks cs) else none

end Verdict.Yaml
