import Verdict.Text.CharSet

/-!
# Patterns

Regular expressions over characters, with assertions about a position.

## Main definitions

* `Verdict.Assertion` — a condition on a position in a text.
* `Verdict.Pattern` — a regular expression.

## Design

Only whether a pattern matches matters, never where. So captures and the preference between
alternatives or repetition counts are not part of a pattern.
-/

namespace Verdict

/-- A condition on a position in a text. -/
inductive Assertion where
  | textStart
  | textEnd
  /-- At the start, or after a line feed. -/
  | lineStart
  /-- At the end, or before a line feed. -/
  | lineEnd
  /-- At the start, or after a line end of one or two characters, but not inside it. -/
  | returnStart
  /-- At the end, or before a line end of one or two characters, but not inside it. -/
  | returnEnd
  /-- A word character on one side only; the set tells which characters those are. -/
  | wordBoundary (word : Text.CharSet)
  | notWordBoundary (word : Text.CharSet)
  | wordStart (word : Text.CharSet)
  | wordEnd (word : Text.CharSet)
  /-- No word character in front. -/
  | wordStartHalf (word : Text.CharSet)
  /-- No word character behind. -/
  | wordEndHalf (word : Text.CharSet)
  deriving Repr, DecidableEq

namespace Assertion

/-- Whether a condition holds between two neighbouring characters, of which either may be missing
at an end of the text. -/
def holds (a : Assertion) (before after : Option Char) : Bool :=
  let isWord (word : Text.CharSet) (c : Option Char) : Bool := c.any word.contains
  match a with
  | .textStart => before.isNone
  | .textEnd => after.isNone
  | .lineStart => before.isNone || before == some '\n'
  | .lineEnd => after.isNone || after == some '\n'
  | .returnStart =>
    before.isNone || before == some '\n' || (before == some '\r' && after != some '\n')
  | .returnEnd =>
    after.isNone || after == some '\r' || (after == some '\n' && before != some '\r')
  | .wordBoundary word => isWord word before != isWord word after
  | .notWordBoundary word => isWord word before == isWord word after
  | .wordStart word => !isWord word before && isWord word after
  | .wordEnd word => isWord word before && !isWord word after
  | .wordStartHalf word => !isWord word before
  | .wordEndHalf word => !isWord word after

end Assertion

/-- A regular expression. -/
inductive Pattern where
  | empty
  /-- One character of a set. -/
  | chars (set : Text.CharSet)
  | assert (a : Assertion)
  | seq (first second : Pattern)
  | alt (first second : Pattern)
  /-- At least `least` repetitions, and at most `most` if that is given. -/
  | repeated (body : Pattern) (least : Nat) (most : Option Nat)
  deriving Repr, DecidableEq, Inhabited

namespace Pattern

/-- Exactly one given character. -/
def char (c : Char) : Pattern := .chars (.singleton c)

/-- Any number of repetitions. -/
def star (p : Pattern) : Pattern := .repeated p 0 none

/-- At least one repetition. -/
def plus (p : Pattern) : Pattern := .repeated p 1 none

/-- At most one repetition. -/
def opt (p : Pattern) : Pattern := .repeated p 0 (some 1)

/-- One pattern after the other. -/
def concat : List Pattern → Pattern
  | [] => .empty
  | [p] => p
  | p :: ps => .seq p (concat ps)

/-- Any one of the patterns. -/
def oneOf : List Pattern → Pattern
  | [] => .empty
  | [p] => p
  | p :: ps => .alt p (oneOf ps)

end Pattern

end Verdict
