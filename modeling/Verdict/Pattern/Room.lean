import Std.Data.HashSet
import Verdict.Pattern.Layout
import Verdict.Text.Encoding

/-!
# The room of an automaton

Patterns are limited by the room that automata for them take, one that reads a text forwards and one
that reads it backwards. Automata read bytes, and write out counted repetitions.

## Main definitions

* `Verdict.Pattern.Part` — what an automaton is built of.
* `Verdict.Pattern.Layout.plan` — the parts of an automaton for a layout, in order.
* `Verdict.Pattern.Layout.automatonBytes` — the room of a whole automaton.
* `Verdict.Pattern.Layout.fits` — whether a layout keeps to the limit.

## Design

A state takes 32 bytes. One that goes to several others by ranges of bytes takes 8 more for each
range, and one that goes to several others without reading takes 4 more for each of them; the second
kind are the branching states. States are numbered as they are built, and what a set of characters
shares backwards depends on the numbers; so parts are built one by one. Building stops when the
limit is passed, so a count of repetitions may be as large as it likes.
-/

namespace Verdict.Pattern

open Text (CharSet ByteRange ByteSequence)

/-- Which way an automaton reads a text. -/
inductive Direction where
  | forwards
  | backwards
  deriving Repr, DecidableEq

/-- The greatest room that an automaton may take: ten mebibytes. -/
def roomLimit : Nat := 10 * 2 ^ 20

/-- The room of a state. -/
def stateBytes : Nat := 32

/-- The room of a state with ranges of bytes. -/
def rangesBytes (count : Nat) : Nat := stateBytes + 8 * count

/-- The room of a branching state with a number of successors. -/
def branchingBytes (count : Nat) : Nat := stateBytes + 4 * count

/-! ### Parts -/

/-- A piece of an automaton. -/
inductive Part where
  /-- A number of states, and the room of all of them. -/
  | states (count bytes : Nat)
  /-- Sequences of byte ranges as alternatives, read backwards. -/
  | sequences (alternatives : List ByteSequence)
  /-- Pieces that are built again and again. -/
  | copies (count : Nat) (parts : List Part)

/-- States that are built so far, and their room. -/
structure Total where
  states : Nat
  bytes : Nat

/-- One more number in an FNV-1a hash of 64 bits. -/
def hashWith (hash : UInt64) (n : Nat) : UInt64 := (hash ^^^ n.toUInt64) * 1099511628211

/-- The FNV-1a hash of three numbers. -/
def hashThree (a b c : Nat) : UInt64 :=
  hashWith (hashWith (hashWith 14695981039346656037 a) b) c

/-- What is remembered of a state: the range it reads and the state it leads to, and its number. -/
structure Remembered where
  target : Nat
  range : ByteRange
  number : Nat

/-- The places of the memory for states. -/
def memoryPlaces : Nat := 1000

/-- The states of a set of characters while they are built: a memory with a place for each hash, in
which the latest state is kept, and the number of the next state. -/
structure Chain where
  memory : Array (Option Remembered)
  next : Nat

namespace Chain

/-- A state that reads a range and leads to another, as it is remembered or as a new one; with its
number. -/
def link (c : Chain) (target : Nat) (range : ByteRange) : Chain × Nat :=
  let place := (hashThree target range.1 range.2 % memoryPlaces.toUInt64).toNat
  let known? := (c.memory[place]?).join.filter fun r => r.target = target ∧ r.range = range
  match known?, c with
  | some r, c => (c, r.number)
  | none, ⟨memory, next⟩ =>
    (⟨memory.setIfInBounds place (some ⟨target, range, next⟩), next + 1⟩, next)

/-- States for a sequence, from its first range on, which leads to a given state. -/
def addSequence (c : Chain) (target : Nat) : ByteSequence → Chain
  | [] => c
  | range :: rest => let (c, number) := c.link target range; addSequence c number rest

end Chain

namespace Total

/-- More states. -/
def add (t : Total) (count bytes : Nat) : Total := ⟨t.states + count, t.bytes + bytes⟩

/-- A branching state, a state in which all alternatives end, and states for sequences. -/
def addSequences (t : Total) (sequences : List ByteSequence) : Total :=
  let chain := sequences.foldl (fun (c : Chain) s => c.addSequence (t.states + 1) s)
    ⟨Array.replicate memoryPlaces none, t.states + 2⟩
  t.add (chain.next - t.states)
    (stateBytes * (chain.next - t.states) + 4 * sequences.length)

/-- A step done a number of times, unless the limit is passed before. -/
def upToLimit (step : Total → Total) : Nat → Total → Total
  | 0, t => t
  | count + 1, t => if roomLimit < t.bytes then t else upToLimit step count (step t)

end Total

mutual

/-- The states and the room of a part, if they do not depend on the states before it. -/
def Part.fixed? : Part → Option Total
  | .states count bytes => some ⟨count, bytes⟩
  | .sequences _ => none
  | .copies count parts =>
    (Part.fixedAll? parts).map fun t => ⟨count * t.states, count * t.bytes⟩

/-- The states and the room of several parts, if they do not depend on the states before them. -/
def Part.fixedAll? : List Part → Option Total
  | [] => some ⟨0, 0⟩
  | p :: ps => (Part.fixed? p).bind fun t => (Part.fixedAll? ps).map (·.add t.states t.bytes)

end

mutual

/-- Build a part. -/
def Part.build (t : Total) : Part → Total
  | .states count bytes => t.add count bytes
  | .sequences alternatives => t.addSequences alternatives
  | .copies count parts =>
    match Part.fixedAll? parts with
    | some copy => t.add (count * copy.states) (count * copy.bytes)
    | none => Total.upToLimit (fun t => Part.buildAll t parts) count t

/-- Build parts one after the other. -/
def Part.buildAll (t : Total) : List Part → Total
  | [] => t
  | p :: ps => Part.buildAll (Part.build t p) ps

end

/-! ### Sets of characters -/

/-- Sequences by their first range, with what follows it; neighbours that begin alike come
together. -/
def sequenceBranches : List ByteSequence → List (ByteRange × List ByteSequence)
  | [] => []
  | [] :: rest => sequenceBranches rest
  | (range :: tail) :: rest =>
    match sequenceBranches rest with
    | (next, tails) :: more =>
      if range = next then (range, tail :: tails) :: more
      else (range, [tail]) :: (next, tails) :: more
    | [] => [(range, [tail])]

/-- The forks of the tree of some sequences up to a depth, each as the sequences that go on from
it. -/
def sequenceForks : Nat → List ByteSequence → List (List ByteSequence)
  | 0, _ => []
  | depth + 1, sequences =>
    match sequenceBranches sequences with
    | [] => []
    | branches => sequences :: branches.flatMap fun branch => sequenceForks depth branch.2

/-- The part for one character of a set. Forwards, forks of the tree of its sequences that are equal
are built once. -/
def setPart (direction : Direction) (set : CharSet) : Part :=
  if set.ranges.all fun range => range.2 < 0x80 then
    .states 2 (stateBytes + rangesBytes set.ranges.length)
  else
    match direction with
    | .forwards =>
      let forks := (Std.HashSet.ofList (sequenceForks 4 set.byteSequences)).toList
      .states (forks.length + 1) (stateBytes +
        (forks.map fun fork => rangesBytes (sequenceBranches fork).length).foldr (· + ·) 0)
    | .backwards => .sequences set.byteSequences

/-! ### Alternatives that are literals -/

/-- Byte strings between those that are empty. -/
def betweenEmpty : List (List Nat) → List (List (List Nat))
  | [] => [[]]
  | word :: words =>
    match word, betweenEmpty words with
    | [], parts => [] :: parts
    | _, part :: parts => (word :: part) :: parts
    | _, [] => [[word]]

/-- The states of the tree of some byte strings up to a depth, and their room, without the state in
which they end. A string that ends where others go on parts those before it from those behind it. -/
def wordsTotal : Nat → List (List Nat) → Total
  | 0, _ => ⟨0, 0⟩
  | depth + 1, words =>
    if words.all List.isEmpty then ⟨0, 0⟩
    else
      -- Of strings that end here before any has gone on, only one counts.
      let early := (words.takeWhile List.isEmpty).take 1
      let parts := betweenEmpty (early ++ words.dropWhile List.isEmpty)
      let filled := parts.filter fun part => !part.isEmpty
      let fork : Total := ⟨1, branchingBytes (filled.length + (parts.length - 1))⟩
      filled.foldl (fun t part =>
        let firsts := (part.filterMap List.head?).eraseDups
        let t := t.add 1 (if firsts.length = 1 then stateBytes else rangesBytes firsts.length)
        firsts.foldl (fun t first =>
          let inner := wordsTotal depth
            ((part.filter fun word => word.head? == some first).map (List.drop 1))
          t.add inner.states inner.bytes) t) fork

/-- The bytes of characters in a row. -/
def wordOf (direction : Direction) (cs : List Char) : List Nat :=
  let bytes := cs.flatMap fun c => Text.encodeCode c.toNat
  match direction with
  | .forwards => bytes
  | .backwards => bytes.reverse

/-! ### Layouts -/

/-- Parts of an automaton, and whether they end in a branching state. -/
structure Plan where
  parts : List Part
  branching : Bool

namespace Plan

/-- A single state. -/
def single : Plan := ⟨[.states 1 stateBytes], false⟩

/-- The parts of a plan from whose end something follows. -/
def followed (p : Plan) : List Part :=
  if p.branching then p.parts ++ [.states 0 4] else p.parts

/-- Plans in a row, each followed by the next. -/
def row : List Plan → Plan
  | [] => single
  | [p] => p
  | p :: ps => ⟨p.followed ++ (row ps).parts, (row ps).branching⟩

/-- Plans as alternatives; the states that join them come behind the second. -/
def choice (plans : List Plan) : Plan :=
  let joints := Part.states 2 (branchingBytes plans.length + stateBytes)
  ⟨(plans.take 2).flatMap followed ++ joints :: (plans.drop 2).flatMap followed, false⟩

/-- A plan that is optional or repeated; at least none and at most one is the optional one. A plan
without a most loops back to itself, more simply if it cannot be empty. -/
def repeated (p : Plan) (neverEmpty : Bool) (least : Nat) (most : Option Nat) : Plan :=
  let optional := .states 1 (branchingBytes 2) :: p.followed
  match least, most with
  | 0, some 1 => ⟨optional ++ single.parts, false⟩
  | 0, none =>
    if neverEmpty then ⟨.states 1 (branchingBytes 1) :: p.followed, true⟩
    else ⟨p.followed ++ .states 2 (2 * branchingBytes 2) :: single.parts, false⟩
  | least, none => ⟨[.copies least p.followed, .states 1 (branchingBytes 1)], true⟩
  | least, some most =>
    if least = most then ⟨.copies (least - 1) p.followed :: p.parts, p.branching⟩
    else
      let needed := if least = 0 then single.parts else [.copies least p.followed]
      ⟨needed ++ single.parts ++ [.copies (most - least) optional], false⟩

end Plan

namespace Layout

/-- The characters of a literal. -/
def literal? : Layout → Option (List Char)
  | .literal cs => some cs
  | _ => none

mutual

/-- The plan of a layout. Only forwards do groups that capture have states of their own. -/
def plan (direction : Direction) : Layout → Plan
  | .empty => .single
  | .literal cs =>
    let length := (wordOf direction cs).length
    ⟨[.states length (stateBytes * length)], false⟩
  | .chars set => ⟨[setPart direction set], false⟩
  | .assert _ => .single
  | .repeated body least most _ =>
    (plan direction body).repeated (body.minimum?.any (0 < ·)) least most
  | .capture body =>
    match direction with
    | .forwards =>
      ⟨Plan.single.parts ++ (plan direction body).followed ++ Plan.single.parts, false⟩
    | .backwards => plan direction body
  | .concat items =>
    match direction with
    | .forwards => .row (plans direction items)
    | .backwards => .row (plans direction items).reverse
  | .alt branches =>
    match branches.mapM literal? with
    | some words =>
      let words := words.map (wordOf direction)
      let tree := wordsTotal ((words.map List.length).foldl max 0 + 1) words
      ⟨.states tree.states tree.bytes :: Plan.single.parts, false⟩
    | none => .choice (plans direction branches)

/-- The plans of several layouts. -/
def plans (direction : Direction) : List Layout → List Plan
  | [] => []
  | l :: ls => plan direction l :: plans direction ls

end

/-- The room of an automaton for a layout: it skips any bytes in front, unless matches can only
start at one place, and ends in a final state. Forwards it also marks where the match starts and
ends. -/
def automatonBytes (direction : Direction) (l : Layout) : Nat :=
  let anchored := match direction with
    | .forwards => l.beginsWith .textStart
    | .backwards => l.endsWith .textEnd
  let skip := if anchored then Plan.single.parts
    else [.states 3 (branchingBytes 2 + stateBytes + rangesBytes 1)]
  let whole := match direction with
    | .forwards => (plan direction (.capture l)).followed
    | .backwards => (plan direction l).followed
  (Part.buildAll ⟨0, 0⟩ (skip ++ whole ++ Plan.single.parts)).bytes

/-- Whether the automata of a layout keep to the limit. -/
def fits (l : Layout) : Bool :=
  [Direction.forwards, .backwards].all fun direction => l.automatonBytes direction ≤ roomLimit

end Layout

end Verdict.Pattern
