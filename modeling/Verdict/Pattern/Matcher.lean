import Verdict.Pattern.Basic

/-!
# Matching

A pattern sends a set of positions in a text to the set of positions where a match can end that
starts at one of them. This is computed set by set along the pattern, so that no choice is ever
tried twice and nothing is taken back.

## Main definitions

* `Verdict.Pattern.ends` — the ends of the matches that start in a set of positions.
* `Verdict.Pattern.isMatch` — whether a pattern matches anywhere in a text.
-/

namespace Verdict.Pattern

/-- The members of two ascending lists of positions, each once and in ascending order. -/
def mergePositions (a b : List Nat) : List Nat := (a.merge b (· ≤ ·)).eraseReps

/-- A step repeated a number of times; the empty set stays empty. -/
def iterate (step : List Nat → List Nat) : Nat → List Nat → List Nat
  | 0, positions => positions
  | count + 1, positions => if positions.isEmpty then [] else iterate step count (step positions)

/-- What a step reaches in at most a number of rounds. A round starts only from the positions that
the round before it reached first. -/
def reach (step : List Nat → List Nat) : Nat → List Nat → List Nat → List Nat
  | 0, reached, _ => reached
  | rounds + 1, reached, frontier =>
    let fresh := (step frontier).filter fun i => !reached.contains i
    if fresh.isEmpty then reached else reach step rounds (mergePositions reached fresh) fresh

/-- The positions at which matches end that start in a set of positions, in ascending order. -/
def ends (text : Array Char) : Pattern → List Nat → List Nat
  | .empty, starts => starts
  | .chars set, starts =>
    starts.filterMap fun i => if text[i]?.any set.contains then some (i + 1) else none
  | .assert a, starts =>
    starts.filter fun i => a.holds (if i = 0 then none else text[i - 1]?) text[i]?
  | .seq a b, starts => ends text b (ends text a starts)
  | .alt a b, starts => mergePositions (ends text a starts) (ends text b starts)
  | .repeated p least most, starts =>
    let first := iterate (ends text p) least starts
    -- Every round but the last reaches a new position, and there are `text.size + 1` of them.
    let rounds := text.size + 1
    let rounds := match most with
      | none => rounds
      | some most => min rounds (most - least)
    reach (ends text p) rounds first first

/-- Whether a pattern matches some part of a text. -/
def isMatch (p : Pattern) (s : String) : Bool :=
  let text := s.toList.toArray
  !(ends text p (List.range (text.size + 1))).isEmpty

end Verdict.Pattern
