import Verdict.Yaml.Character
import Verdict.Yaml.Scalar

/-!
# Tokens of YAML

A YAML text is read in two steps. The first cuts it into tokens, among them those that stand for no
characters: indentation opens and closes collections, and a colon makes a key of what was before it.

## Main definitions

* `Verdict.Yaml.Token` — a token.
* `Verdict.Yaml.Place` — where a reader is in a text.
-/

namespace Verdict.Yaml

/-- A token. -/
inductive Token where
  /-- A directive with the version of the language. -/
  | version (major minor : Nat)
  /-- A directive that makes a tag handle stand for the start of tags. -/
  | handle (name : String) (start : List UInt8)
  | documentStart
  | documentEnd
  | blockSequence
  | blockMapping
  | blockEnd
  | flowSequence
  | flowSequenceEnd
  | flowMapping
  | flowMappingEnd
  /-- The dash of an item. -/
  | item
  /-- The comma between parts of a flow collection. -/
  | comma
  | key
  | value
  | alias (name : String)
  | anchor (name : String)
  | tag (handle : String) (suffix : List UInt8)
  | scalar (text : String) (style : ScalarStyle)
  deriving Repr, DecidableEq

/-- Where a reader is in a text. -/
structure Place where
  line : Nat := 0
  column : Nat := 0
  /-- The characters that are left. -/
  rest : List Char

namespace Place

/-- Skip characters of the line. -/
def skip (p : Place) (n : Nat) : Place :=
  { p with column := p.column + n, rest := p.rest.drop n }

/-- Skip the characters of the line that satisfy a test. -/
def skipWhile (p : Place) (test : Char → Bool) : Place := p.skip (p.rest.takeWhile test).length

/-- Skip the break that is next. -/
def nextLine (p : Place) : Place := { line := p.line + 1, column := 0, rest := p.rest.drop 1 }

/-- The next character. -/
def head? (p : Place) : Option Char := p.rest.head?

/-- Whether a mark of three characters stands alone at the start of the line. -/
def atMark (p : Place) (mark : Char) : Bool :=
  p.column == 0 && [mark, mark, mark].isPrefixOf p.rest && startsBlank (p.rest.drop 3)

/-- Whether the mark of the start or the end of a document is next. -/
def atDocumentMark (p : Place) : Bool := p.atMark '-' || p.atMark '.'

/-- The next line, if nothing but blanks and a comment is left of this one. -/
def endLine? (p : Place) : Option Place :=
  let p := p.skipWhile isBlank
  let p := if p.head? = some '#' then p.skipWhile (!isBreak ·) else p
  match p.rest with
  | [] => some p
  | c :: _ => if isBreak c then some p.nextLine else none

end Place

end Verdict.Yaml
