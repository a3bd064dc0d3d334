import Verdict.Text.CharSet
import Verdict.Yaml.Token.Basic

/-!
# Scalars as tokens

The text of a scalar, from the characters it is written with. In all styles but the literal one a
single break between two words counts as a blank, and of several breaks the first does not count.

## Main definitions

* `Verdict.Yaml.Gap` — the white space between two words of a scalar.
* `Verdict.Yaml.plain?`, `Verdict.Yaml.quoted?`, `Verdict.Yaml.block?` — a scalar at a place, as its
  text and the place behind it.
-/

namespace Verdict.Yaml

/-! ### Gaps -/

/-- The white space between two words: blanks in front of the first break, and the breaks. -/
structure Gap where
  blanks : List Char
  breaks : List Char

/-- The characters that a gap stands for. The two separators of Unicode are kept as they are. -/
def Gap.text (g : Gap) : List Char :=
  match g.breaks with
  | [] => g.blanks
  | ['\n'] => [' ']
  | '\n' :: more => more
  | breaks => breaks

/-- Read a gap, after the blanks and breaks taken so far in reverse. No tab may stand in the first
columns of a later line. -/
def gapFrom? (columns : Nat) (blanks breaks : List Char) (line column : Nat) :
    List Char → Option (Gap × Place)
  | [] => some (⟨blanks.reverse, breaks.reverse⟩, ⟨line, column, []⟩)
  | c :: rest =>
    if isBreak c then gapFrom? columns blanks (c :: breaks) (line + 1) 0 rest
    else if isBlank c then
      if breaks.isEmpty then gapFrom? columns (c :: blanks) breaks line (column + 1) rest
      else if c == '\t' && column < columns then none
      else gapFrom? columns blanks breaks line (column + 1) rest
    else some (⟨blanks.reverse, breaks.reverse⟩, ⟨line, column, c :: rest⟩)

/-- The gap at a place. -/
def Place.gap? (p : Place) (columns : Nat) : Option (Gap × Place) :=
  gapFrom? columns [] [] p.line p.column p.rest

/-! ### Plain scalars -/

/-- Whether a character ends a plain scalar in a flow collection. -/
def isFlowMark (c : Char) : Bool := ",[]\x7b\x7d".toList.contains c

/-- Extend a word of a plain scalar, collected in reverse, as far as it goes. A colon in front of
white space ends it, and in a flow collection a mark of the collection does; but a colon must not
stand in front of such a mark. -/
def word? (inFlow : Bool) (taken : List Char) : List Char → Option (List Char)
  | [] => some taken
  | c :: rest =>
    if isBlank c || isBreak c then some taken
    else if inFlow && c == ':' && rest.head?.any (fun d => isFlowMark d || d == '?') then none
    else if (c == ':' && startsBlank rest) || (inFlow && isFlowMark c) then some taken
    else word? inFlow (c :: taken) rest

/-- The rest of a plain scalar: its characters in reverse after those taken so far, whether it ends
behind a break, and the place behind it. Outside flow collections its later lines leave the first
columns free. -/
def plainFrom? (inFlow : Bool) (columns : Nat) :
    Nat → List Char → Gap → Place → Option (List Char × Bool × Place)
  | 0, _, _, _ => none
  | fuel + 1, taken, gap, p =>
    let done := some (taken, !gap.breaks.isEmpty, p)
    if p.atDocumentMark || p.head? = some '#' then done
    else
      (word? inFlow [] p.rest).bind fun word =>
        if word.isEmpty then done
        else
          let taken := word ++ (gap.text.reverse ++ taken)
          let p := p.skip word.length
          if p.rest.isEmpty || !startsBlank p.rest then some (taken, false, p)
          else
            (p.gap? columns).bind fun (gap, p) =>
              if !inFlow && p.column < columns then some (taken, !gap.breaks.isEmpty, p)
              else plainFrom? inFlow columns fuel taken gap p

/-- A plain scalar at a place; the second result is whether it ends behind a break. -/
def plain? (inFlow : Bool) (columns : Nat) (p : Place) : Option (String × Bool × Place) :=
  (plainFrom? inFlow columns (p.rest.length + 1) [] ⟨[], []⟩ p).map fun (taken, ended, p) =>
    (String.ofList taken.reverse, ended, p)

/-! ### Quoted scalars -/

/-- The character of an escape letter. -/
def escapeChar? : Char → Option Char
  | '0' => some '\x00'
  | 'a' => some '\x07'
  | 'b' => some '\x08'
  | 't' => some '\t'
  | '\t' => some '\t'
  | 'n' => some '\n'
  | 'v' => some '\x0b'
  | 'f' => some '\x0c'
  | 'r' => some '\r'
  | 'e' => some '\x1b'
  | ' ' => some ' '
  | '"' => some '"'
  | '/' => some '/'
  | '\\' => some '\\'
  | 'N' => some '\u0085'
  | '_' => some '\u00a0'
  | 'L' => some '\u2028'
  | 'P' => some '\u2029'
  | _ => none

/-- The number of digits of a code after its escape letter. -/
def codeLength? : Char → Option Nat
  | 'x' => some 2
  | 'u' => some 4
  | 'U' => some 8
  | _ => none

/-- The character of an escape and the number of characters that write it, from its letter on. -/
def escape? (letter : Char) (rest : List Char) : Option (Char × Nat) :=
  match codeLength? letter with
  | none => (escapeChar? letter).map fun c => (c, 1)
  | some n =>
    if (rest.take n).length < n then none
    else
      (Text.hexValue? (rest.take n)).bind fun code =>
        if h : Nat.isValidChar code then some (Char.ofNatAux code h, n + 1) else none

/-- The rest of a quoted scalar after the characters taken so far, which are in reverse. In double
quotes a backslash writes characters that cannot stand there, and one at the end of a line joins it
to the next; in single quotes a quote is written twice. -/
def quotedFrom? (double : Bool) : Nat → List Char → Place → Option (List Char × Place)
  | 0, _, _ => none
  | fuel + 1, taken, p =>
    if p.atDocumentMark then none
    else
      match p.rest with
      | [] => none
      | c :: rest =>
        if isBlank c || isBreak c then
          (p.gap? 0).bind fun (gap, p) =>
            quotedFrom? double fuel (gap.text.reverse ++ taken) p
        else if double then
          if c == '"' then some (taken, p.skip 1)
          else if c == '\\' then
            match rest with
            | [] => none
            | d :: rest =>
              if isBreak d then
                ((p.skip 1).nextLine.gap? 0).bind fun (gap, p) =>
                  quotedFrom? double fuel (gap.breaks.reverse ++ taken) p
              else
                (escape? d rest).bind fun (e, n) =>
                  quotedFrom? double fuel (e :: taken) (p.skip (n + 1))
          else quotedFrom? double fuel (c :: taken) (p.skip 1)
        else if c == '\'' then
          if rest.head? = some '\'' then quotedFrom? double fuel (c :: taken) (p.skip 2)
          else some (taken, p.skip 1)
        else quotedFrom? double fuel (c :: taken) (p.skip 1)

/-- A quoted scalar at a place. -/
def quoted? (double : Bool) (p : Place) : Option (String × Place) :=
  (quotedFrom? double (p.rest.length + 1) [] (p.skip 1)).map fun (taken, p) =>
    (String.ofList taken.reverse, p)

/-! ### Block scalars -/

/-- What becomes of the breaks at the end of a block scalar. -/
inductive Chomping where
  | strip
  | clip
  | keep
  deriving Repr, DecidableEq

/-- Skip the indentation of lines, and the lines that hold no more than that. The results are their
breaks, the widest indentation and the place. As long as the indentation is not known, which is
written as zero, all blanks belong to it; no tab may stand in it. The breaks are collected in
reverse. -/
def emptyLines? (indent widest : Nat) (breaks : List Char) (line column : Nat) :
    List Char → Option (List Char × Nat × Place)
  | [] => some (breaks.reverse, max widest column, ⟨line, column, []⟩)
  | c :: rest =>
    let within := indent == 0 || column < indent
    if c == ' ' && within then emptyLines? indent widest breaks line (column + 1) rest
    else if c == '\t' && within then none
    else if isBreak c then
      emptyLines? indent (max widest column) (c :: breaks) (line + 1) 0 rest
    else some (breaks.reverse, max widest column, ⟨line, column, c :: rest⟩)

/-- A block scalar as far as it is read. -/
structure Block where
  /-- Its characters in reverse. -/
  taken : List Char := []
  /-- The break of the last line. -/
  ending : List Char := []
  /-- The breaks of the empty lines after it. -/
  empty : List Char := []
  /-- Whether the last line starts with a blank. -/
  afterBlank : Bool := false
  place : Place

/-- The characters between the last line of a block and the next: when lines are folded, a single
line feed counts as a blank and the first of several does not count, but not beside a line that
starts with a blank. -/
def Block.joint (b : Block) (folded startsBlank : Bool) : List Char :=
  if folded && b.ending == ['\n'] && !b.afterBlank && !startsBlank then
    if b.empty.isEmpty then [' '] else b.empty
  else b.ending ++ b.empty

/-- Read the lines of a block with an indentation. -/
def Block.lines? (folded : Bool) (indent : Nat) : Nat → Block → Option Block
  | 0, _ => none
  | fuel + 1, b =>
    if b.place.column != indent || b.place.rest.isEmpty then some b
    else
      let startsBlank := b.place.head?.any isBlank
      let line := b.place.rest.takeWhile (!isBreak ·)
      let p := b.place.skip line.length
      let ending := p.rest.take 1
      let p := if ending.isEmpty then p else p.nextLine
      (emptyLines? indent 0 [] p.line p.column p.rest).bind fun (empty, _, p) =>
        lines? folded indent fuel
          { taken := line.reverse ++ ((b.joint folded startsBlank).reverse ++ b.taken)
            ending := ending, empty := empty, afterBlank := startsBlank, place := p }

/-- How many columns a digit asks for, and the place behind it. Without a digit there is nothing to
ask for; a zero is an error. -/
def increment? (p : Place) : Option (Nat × Place) :=
  match p.head? with
  | some c =>
    if c == '0' then none
    else if c.isDigit then some (c.toNat - '0'.toNat, p.skip 1)
    else some (0, p)
  | none => some (0, p)

/-- The chomping that a mark asks for, and the place behind it. -/
def chomping (p : Place) : Chomping × Place :=
  match p.head? with
  | some '+' => (.keep, p.skip 1)
  | some '-' => (.strip, p.skip 1)
  | _ => (.clip, p)

/-- The two wishes in the header of a block, in either order. -/
def header? (p : Place) : Option (Chomping × Nat × Place) :=
  match chomping p with
  | (.clip, p) => (increment? p).map fun (n, p) =>
      let (c, p) := if n = 0 then (.clip, p) else chomping p
      (c, n, p)
  | (c, p) => (increment? p).map fun (n, p) => (c, n, p)

/-- A block scalar at a place. Its indentation goes beyond that of the collection around it, for
which `columns` columns are taken; it is known from the header, or else from its first line. -/
def block? (folded : Bool) (columns : Nat) (p : Place) : Option (String × Place) :=
  (header? (p.skip 1)).bind fun (chomping, n, p) =>
  p.endLine?.bind fun p =>
  let asked := if n = 0 then 0 else columns - 1 + n
  (emptyLines? asked 0 [] p.line p.column p.rest).bind fun (empty, widest, p) =>
  let indent := if asked = 0 then max (max widest columns) 1 else asked
  (Block.lines? folded indent (p.rest.length + 1) { empty := empty, place := p }).map fun b =>
    let tail := match chomping with
      | .strip => []
      | .clip => b.ending
      | .keep => b.ending ++ b.empty
    (String.ofList (tail.reverse ++ b.taken).reverse, b.place)

end Verdict.Yaml
