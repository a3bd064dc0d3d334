import Verdict.Yaml.Token.Property
import Verdict.Yaml.Token.Scalar

/-!
# The tokens of a text

Indentation opens and closes the collections of a text: a dash or a key further to the right than
the collection around it starts one, and a token further to the left ends it. A key is known as one
only at the colon behind it, which therefore puts tokens in front of those that are there already.

## Main definitions

* `Verdict.Yaml.Candidate` — a token that a colon could make a key.
* `Verdict.Yaml.Lexer` — a text as far as it is cut into tokens.
* `Verdict.Yaml.tokens?` — the tokens of a text.
-/

namespace Verdict.Yaml

/-- A token that a colon could make a key. -/
structure Candidate where
  /-- Whether it is a mistake if it does not become one. -/
  required : Bool
  /-- The number of tokens in front of it. -/
  position : Nat
  line : Nat
  column : Nat
  deriving Repr, DecidableEq

/-- A text as far as it is cut into tokens. -/
structure Lexer where
  place : Place
  /-- The columns that the innermost block collection takes. What is inside starts behind them. -/
  columns : Nat := 0
  /-- The columns that the collections around it take, from the inside out. -/
  outerColumns : List Nat := []
  /-- Whether the next token may be a key. -/
  keyAllowed : Bool := true
  /-- The candidate of the innermost flow collection, or else of the block. -/
  candidate : Option Candidate := none
  /-- The candidates around it, from the inside out; there is one for each flow collection. -/
  outerCandidates : List (Option Candidate) := []
  tokens : Array Token := #[]

namespace Lexer

/-- Whether the place is inside a flow collection. -/
def inFlow (l : Lexer) : Bool := !l.outerCandidates.isEmpty

/-- Append a token that was read up to a place. -/
def push (l : Lexer) (token : Token) (place : Place) : Lexer :=
  { l with tokens := l.tokens.push token, place := place }

/-- Append a token of some characters. -/
def pushSkip (l : Lexer) (token : Token) (n : Nat) : Lexer := l.push token (l.place.skip n)

/-- Allow or forbid the next token to be a key. -/
def allowKey (l : Lexer) (allowed : Bool) : Lexer := { l with keyAllowed := allowed }

/-! ### Keys -/

/-- The greatest distance of a colon from the start of its key. -/
def longestKey : Nat := 1024

/-- Give a candidate up; none if it had to become a key. -/
def discard? : Option Candidate → Option (Option Candidate)
  | some c => if c.required then none else some none
  | none => some none

/-- Give the candidate up. -/
def discardKey? (l : Lexer) : Option Lexer :=
  (discard? l.candidate).map fun candidate => { l with candidate := candidate }

/-- Give up the candidates that a colon here would come too late for. -/
def discardLate? (l : Lexer) : Option Lexer :=
  let keep? (candidate : Option Candidate) : Option (Option Candidate) :=
    match candidate with
    | some c =>
      if c.line < l.place.line || c.column + longestKey < l.place.column then discard? candidate
      else some candidate
    | none => some none
  (l.outerCandidates.mapM keep?).bind fun outer =>
    (keep? l.candidate).map fun candidate =>
      { l with candidate := candidate, outerCandidates := outer }

/-- Make the next token a candidate where a key is allowed. In a block, what stands where the other
keys of the mapping stand has to become one. -/
def saveKey? (l : Lexer) : Option Lexer :=
  if l.keyAllowed then
    l.discardKey?.map fun l =>
      let candidate : Candidate :=
        { required := !l.inFlow && l.columns == l.place.column + 1
          position := l.tokens.size, line := l.place.line, column := l.place.column }
      { l with candidate := some candidate }
  else some l

/-! ### Collections -/

/-- Leave the collections that take more columns than some number. The first result is how many
there are. -/
def leave (columns : Nat) (inner : Nat) : List Nat → Nat × Nat × List Nat
  | [] => (0, inner, [])
  | outer :: rest =>
    if columns < inner then
      let (n, inner, rest) := leave columns outer rest
      (n + 1, inner, rest)
    else (0, inner, outer :: rest)

/-- End the block collections that take more columns than some number. -/
def unroll (l : Lexer) (columns : Nat) : Lexer :=
  if l.inFlow then l
  else
    let (n, inner, outer) := leave columns l.columns l.outerColumns
    { l with columns := inner, outerColumns := outer,
             tokens := l.tokens ++ Array.replicate n Token.blockEnd }

/-- Start a block collection at a column if the ones around it are further to the left; its token
goes to a position. -/
def roll (l : Lexer) (column position : Nat) (token : Token) : Lexer :=
  if l.inFlow || column < l.columns then l
  else
    { l with columns := column + 1, outerColumns := l.columns :: l.outerColumns,
             tokens := l.tokens.insertIdxIfInBounds position token }

/-- Enter a flow collection. -/
def openFlow? (l : Lexer) (token : Token) : Option Lexer :=
  l.saveKey?.map fun l =>
    ({ l with candidate := none, outerCandidates := l.candidate :: l.outerCandidates }
      |>.allowKey true).pushSkip token 1

/-- Leave a flow collection. -/
def closeFlow? (l : Lexer) (token : Token) : Option Lexer :=
  l.discardKey?.map fun l =>
    let l := match l.outerCandidates with
      | outer :: rest => { l with candidate := outer, outerCandidates := rest }
      | [] => l
    (l.allowKey false).pushSkip token 1

/-! ### Marks -/

/-- A dash, which in a block stands only where a collection may start. -/
def item? (l : Lexer) : Option Lexer :=
  if !l.inFlow && !l.keyAllowed then none
  else
    (l.roll l.place.column l.tokens.size .blockSequence).discardKey?.map fun l =>
      (l.allowKey true).pushSkip .item 1

/-- A question mark in front of a key. -/
def key? (l : Lexer) : Option Lexer :=
  if !l.inFlow && !l.keyAllowed then none
  else
    (l.roll l.place.column l.tokens.size .blockMapping).discardKey?.map fun l =>
      (l.allowKey (!l.inFlow)).pushSkip .key 1

/-- A colon: it makes the candidate a key, or stands without one. -/
def value? (l : Lexer) : Option Lexer :=
  match l.candidate with
  | some c =>
    let l := { l with tokens := l.tokens.insertIdxIfInBounds c.position .key, candidate := none }
    some (((l.roll c.column c.position .blockMapping).allowKey false).pushSkip .value 1)
  | none =>
    if !l.inFlow && !l.keyAllowed then none
    else
      some (((l.roll l.place.column l.tokens.size .blockMapping).allowKey (!l.inFlow)).pushSkip
        .value 1)

/-- The start of a line of its own, which ends all blocks. -/
def topLevel? (l : Lexer) : Option Lexer :=
  (l.unroll 0).discardKey?.map fun l => l.allowKey false

/-! ### Steps -/

/-- Skip white space and comments. A tab does not count as white space where a key could start in a
block, and a new line of a block may start with a key. -/
def skipSpace : Nat → Lexer → Lexer
  | 0, l => l
  | fuel + 1, l =>
    let p := if l.place.column = 0 && l.place.head? = some byteOrderMark then l.place.skip 1
      else l.place
    let p := p.skipWhile fun c => c == ' ' || (c == '\t' && (l.inFlow || !l.keyAllowed))
    let p := if p.head? = some '#' then p.skipWhile (!isBreak ·) else p
    if p.head?.any isBreak then
      skipSpace fuel { l with place := p.nextLine, keyAllowed := l.keyAllowed || !l.inFlow }
    else { l with place := p }

/-- Whether a plain scalar may start with a character. -/
def startsPlain (l : Lexer) (c : Char) (rest : List Char) : Bool :=
  !(isBlank c || isBreak c || "-?:,[]\x7b\x7d#&*!|>\x27\"%@\u0060".toList.contains c) ||
    (c == '-' && !rest.head?.any isBlank) ||
    (!l.inFlow && (c == '?' || c == ':') && !startsBlank rest)

/-- A scalar that may be a key. -/
def scalar? (l : Lexer) (style : ScalarStyle) (text? : Option (String × Place)) : Option Lexer :=
  l.saveKey?.bind fun l => text?.map fun (text, p) => (l.allowKey false).push (.scalar text style) p

/-- A token that starts with a character, which is next. -/
def tokenAt? (l : Lexer) (c : Char) (rest : List Char) : Option Lexer :=
  let p := l.place
  if p.column == 0 && c == '%' then
    l.topLevel?.bind fun l => (directive? p).map fun (token, p) => l.push token p
  else if p.atMark '-' then l.topLevel?.map fun l => l.pushSkip .documentStart 3
  else if p.atMark '.' then l.topLevel?.map fun l => l.pushSkip .documentEnd 3
  else if c == '[' then l.openFlow? .flowSequence
  else if c == '{' then l.openFlow? .flowMapping
  else if c == ']' then l.closeFlow? .flowSequenceEnd
  else if c == '}' then l.closeFlow? .flowMappingEnd
  else if c == ',' then l.discardKey?.map fun l => (l.allowKey true).pushSkip .comma 1
  else if c == '-' && startsBlank rest then l.item?
  else if c == '?' && (l.inFlow || startsBlank rest) then l.key?
  else if c == ':' && (l.inFlow || startsBlank rest) then l.value?
  else if c == '*' || c == '&' then
    l.saveKey?.bind fun l => (name? p).map fun (name, p) =>
      (l.allowKey false).push (if c == '*' then .alias name else .anchor name) p
  else if c == '!' then
    l.saveKey?.bind fun l => (tag? l.inFlow p).map fun (token, p) =>
      (l.allowKey false).push token p
  else if (c == '|' || c == '>') && !l.inFlow then
    l.discardKey?.bind fun l => (block? (c == '>') l.columns p).map fun (text, p) =>
      (l.allowKey true).push (.scalar text (if c == '>' then .folded else .literal)) p
  else if c == '\'' then l.scalar? .singleQuoted (quoted? false p)
  else if c == '"' then l.scalar? .doubleQuoted (quoted? true p)
  else if l.startsPlain c rest then
    l.saveKey?.bind fun l => (plain? l.inFlow l.columns p).map fun (text, ended, p) =>
      (l.allowKey ended).push (.scalar text .plain) p
  else none

/-- The tokens of the rest of a text after those that are there. Each step takes at least one
character. -/
def run? : Nat → Lexer → Option (List Token)
  | 0, _ => none
  | fuel + 1, l =>
    (skipSpace (l.place.rest.length + 1) l).discardLate?.bind fun l =>
      let l := l.unroll (l.place.column + 1)
      match l.place.rest with
      | [] => l.topLevel?.map fun l => l.tokens.toList
      | c :: rest => (l.tokenAt? c rest).bind (run? fuel)

end Lexer

/-- The tokens of a text. -/
def tokens? (text : String) : Option (List Token) :=
  (stream? text).bind fun cs => Lexer.run? (cs.length + 1) { place := { rest := cs } }

end Verdict.Yaml
