import Verdict.Number.Binary64
import Verdict.Text.CharSet

/-!
# Characters as bytes

The UTF-8 form of characters, and of sets of them: a set is covered by sequences of byte ranges,
each of which stands for all characters whose bytes lie in its ranges one by one.

## Main definitions

* `Verdict.Text.encodeCode` — the bytes of a code point.
* `Verdict.Text.CharSet.byteSequences` — the sequences that cover a set.
-/

namespace Verdict.Text

/-- The bytes of a code point. -/
def encodeCode (code : Nat) : List Nat :=
  let tail (shift : Nat) : Nat := 0x80 + code / 2 ^ shift % 64
  if code < 0x80 then [code]
  else if code < 0x800 then [0xC0 + code / 2 ^ 6, tail 0]
  else if code < 0x10000 then [0xE0 + code / 2 ^ 12, tail 6, tail 0]
  else [0xF0 + code / 2 ^ 18, tail 12, tail 6, tail 0]

/-- The bytes from one to another, both included. -/
abbrev ByteRange := Nat × Nat

/-- Ranges for the bytes of a character, one for each of them. -/
abbrev ByteSequence := List ByteRange

/-- The code points with one number of bytes each; those of three bytes lie on both sides of the
surrogates. -/
def encodingWindows : List (Nat × Nat) :=
  [(0, 0x7F), (0x80, 0x7FF), (0x800, 0xD7FF), (0xE000, 0xFFFF), (0x10000, lastCode)]

/-- Cut a range of code points, all of one number of bytes, into pieces in which every byte behind
the first one that varies takes all of its values. The sizes are those of the blocks that agree but
for their last byte, their last two and their last three, in bits. -/
def cutAtBlocks : List Nat → Nat → Nat → List (Nat × Nat)
  | [], first, last => [(first, last)]
  | bits :: more, first, last =>
    let size := 2 ^ bits
    if first / size = last / size then [(first, last)]
    else
      let body := if first % size = 0 then first else (first / size + 1) * size
      let stop := if (last + 1) % size = 0 then last + 1 else last / size * size
      (if first < body then [(first, body - 1)] else []) ++
        (if body < stop then cutAtBlocks more body (stop - 1) else []) ++
        (if stop ≤ last then [(stop, last)] else [])

/-- The sequences that cover a range of code points. -/
def rangeSequences (range : Nat × Nat) : List ByteSequence :=
  encodingWindows.flatMap fun window =>
    let first := max range.1 window.1
    let last := min range.2 window.2
    if last < first then []
    else if last < 0x80 then [[(first, last)]]
    else (cutAtBlocks [6, 12, 18] first last).map fun piece =>
      (encodeCode piece.1).zip (encodeCode piece.2)

/-- The sequences that cover a set, in ascending order. -/
def CharSet.byteSequences (s : CharSet) : List ByteSequence := s.ranges.flatMap rangeSequences

end Verdict.Text
