import Verdict.Pattern.Basic

/-!
# Layouts

A pattern in the form in which an automaton is laid out for it: neighbours are joined, single
characters that are alternatives become a set, and alternatives share what they all begin with. The
builders keep this form, so a layout is never simpler than it looks.

## Main definitions

* `Verdict.Pattern.Layout` — a layout.
* `Verdict.Pattern.Layout.ofSet`, `Verdict.Pattern.Layout.joined`, `Verdict.Pattern.Layout.oneOf`,
  `Verdict.Pattern.Layout.times` — the builders.
* `Verdict.Pattern.Layout.toPattern` — what a layout matches.

## Design

Groups that capture and reluctant repetitions match what others match. A layout tells them apart all
the same, since a group takes room of its own and shared beginnings have to be equal in everything.
-/

namespace Verdict.Pattern

open Text (CharSet)

/-- A pattern as it is laid out. -/
inductive Layout where
  | empty
  /-- Characters in a row, at least one. -/
  | literal (cs : List Char)
  /-- One character of a set, which is not a single one. -/
  | chars (set : CharSet)
  | assert (a : Assertion)
  | repeated (body : Layout) (least : Nat) (most : Option Nat) (greedy : Bool)
  | capture (body : Layout)
  | concat (items : List Layout)
  | alt (branches : List Layout)

namespace Layout

instance : Inhabited Layout := ⟨.empty⟩

/-! ### Lengths and ends -/

mutual

/-- The least number of characters of a match, unless some part has no match at all. -/
def minimum? : Layout → Option Nat
  | .empty => some 0
  | .literal cs => some cs.length
  | .chars set => if set.isEmpty then none else some 1
  | .assert _ => some 0
  | .repeated body least _ _ => (minimum? body).map (· * least)
  | .capture body => minimum? body
  | .concat items => (minimums? items).map List.sum
  | .alt branches => (minimums? branches).bind List.min?

/-- The least numbers of characters of several layouts, if all have one. -/
def minimums? : List Layout → Option (List Nat)
  | [] => some []
  | l :: ls => (minimum? l).bind fun n => (minimums? ls).map fun ns => n :: ns

end

mutual

/-- The greatest number of characters of a match, if there is one. -/
def maximum? : Layout → Option Nat
  | .empty => some 0
  | .literal cs => some cs.length
  | .chars set => if set.isEmpty then none else some 1
  | .assert _ => some 0
  | .repeated body _ most _ => most.bind fun most => (maximum? body).map (· * most)
  | .capture body => maximum? body
  | .concat items => (maximums? items).map List.sum
  | .alt branches => (maximums? branches).bind List.max?

/-- The greatest numbers of characters of several layouts, if all have one. -/
def maximums? : List Layout → Option (List Nat)
  | [] => some []
  | l :: ls => (maximum? l).bind fun n => (maximums? ls).map fun ns => n :: ns

end

/-- Whether a layout matches nothing but the empty text. -/
def isWidthless (l : Layout) : Bool := l.maximum? == some 0

mutual

/-- Whether every match begins with an assertion of a kind. -/
def beginsWith (a : Assertion) : Layout → Bool
  | .empty | .literal _ | .chars _ => false
  | .assert b => a = b
  | .repeated body least _ _ => least != 0 && beginsWith a body
  | .capture body => beginsWith a body
  | .concat items => someBeginsWith a items
  | .alt branches => allBeginWith a branches

/-- Whether one of the items does up to the first that can match more than the empty text. -/
def someBeginsWith (a : Assertion) : List Layout → Bool
  | [] => false
  | l :: ls => beginsWith a l || (isWidthless l && someBeginsWith a ls)

/-- Whether all alternatives do. -/
def allBeginWith (a : Assertion) : List Layout → Bool
  | [] => true
  | l :: ls => beginsWith a l && allBeginWith a ls

end

mutual

/-- Whether every match ends with an assertion of a kind. -/
def endsWith (a : Assertion) : Layout → Bool
  | .empty | .literal _ | .chars _ => false
  | .assert b => a = b
  | .repeated body least _ _ => least != 0 && endsWith a body
  | .capture body => endsWith a body
  | .concat items => someEndsWith a items
  | .alt branches => allEndWith a branches

/-- Whether one of the items does behind the last that can match more than the empty text, or that
last one itself. -/
def someEndsWith (a : Assertion) : List Layout → Bool
  | [] => false
  | l :: ls => someEndsWith a ls || (ls.all isWidthless && endsWith a l)

/-- Whether all alternatives do. -/
def allEndWith (a : Assertion) : List Layout → Bool
  | [] => true
  | l :: ls => endsWith a l && allEndWith a ls

end

mutual

/-- Whether a layout makes an assertion of a kind anywhere. -/
def asserts (kind : Assertion → Bool) : Layout → Bool
  | .empty | .literal _ | .chars _ => false
  | .assert a => kind a
  | .repeated body _ _ _ => asserts kind body
  | .capture body => asserts kind body
  | .concat items => anyAsserts kind items
  | .alt branches => anyAsserts kind branches

/-- Whether one of several layouts does. -/
def anyAsserts (kind : Assertion → Bool) : List Layout → Bool
  | [] => false
  | l :: ls => asserts kind l || anyAsserts kind ls

end

mutual

/-- Whether two layouts are the same. Groups that capture never are: each has a number of its
own. -/
def same : Layout → Layout → Bool
  | .empty, .empty => true
  | .literal a, .literal b => a == b
  | .chars a, .chars b => a = b
  | .assert a, .assert b => a = b
  | .repeated a least most greedy, .repeated b least' most' greedy' =>
    least == least' && most == most' && greedy == greedy' && same a b
  | .concat as, .concat bs => sameAll as bs
  | .alt as, .alt bs => sameAll as bs
  | _, _ => false

/-- Whether two lists of layouts are the same. -/
def sameAll : List Layout → List Layout → Bool
  | [], [] => true
  | a :: as, b :: bs => same a b && sameAll as bs
  | _, _ => false

end

/-! ### Builders -/

/-- One character of a set. -/
def ofSet (set : CharSet) : Layout :=
  match set.ranges with
  | [(first, last)] => if first = last then .literal [Char.ofNat first] else .chars set
  | _ => .chars set

/-- The items of a layout that stand in a row. -/
def items : Layout → List Layout
  | .concat items => items
  | .empty => []
  | l => [l]

/-- Join literals that are neighbours. -/
def joinLiterals : List Layout → List Layout
  | [] => []
  | l :: ls =>
    match l, joinLiterals ls with
    | .literal a, .literal b :: rest => .literal (a ++ b) :: rest
    | l, rest => l :: rest

/-- Layouts one after the other. -/
def joined (ls : List Layout) : Layout :=
  match joinLiterals (ls.flatMap items) with
  | [] => .empty
  | [l] => l
  | ls => .concat ls

/-- The alternatives of a layout. -/
def branches : Layout → List Layout
  | .alt branches => branches
  | l => [l]

/-- The set of a single character, if a layout is one. -/
def singleChar? : Layout → Option CharSet
  | .literal [c] => some (.singleton c)
  | _ => none

/-- The set of a layout that is a set. -/
def set? : Layout → Option CharSet
  | .chars set => some set
  | _ => none

/-- Alternatives that are single characters, or sets, as one set. -/
def merged? (branches : List Layout) : Option Layout :=
  (branches.mapM singleChar? <|> branches.mapM set?).map fun sets => ofSet (.unionAll sets)

/-- What two rows of items have in common at their beginning. -/
def commonItems : List Layout → List Layout → List Layout
  | a :: as, b :: bs => if same a b then a :: commonItems as bs else []
  | _, _ => []

/-- The items of a row of two or more. -/
def row? : Layout → Option (List Layout)
  | .concat items => some items
  | _ => none

/-- Alternatives, as they are or as one set. -/
def choice (branches : List Layout) : Layout :=
  match branches with
  | [l] => l
  | _ => (merged? branches).getD (.alt branches)

/-- Any one of some layouts. If all are rows that begin alike, the choice comes behind that. -/
def oneOf (ls : List Layout) : Layout :=
  let branches := ls.flatMap branches
  match merged? branches, branches.mapM row? with
  | none, some (first :: second :: rest) =>
    let shared := (second :: rest).foldl commonItems first
    if shared.isEmpty then .alt branches
    else
      let tails := (first :: second :: rest).map fun row => joined (row.drop shared.length)
      joined (shared ++ [choice (tails.flatMap Layout.branches)])
  | _, _ => choice branches

/-- A layout a number of times. Repeating what matches only the empty text adds nothing. -/
def times (body : Layout) (least : Nat) (most : Option Nat) (greedy : Bool) : Layout :=
  let (least, most) :=
    if body.isWidthless then (min least 1, some ((most.getD 1).min 1)) else (least, most)
  if most = some 0 then .empty
  else if least = 1 ∧ most = some 1 then body
  else .repeated body least most greedy

/-! ### What a layout matches -/

mutual

/-- The pattern of a layout. -/
def toPattern : Layout → Pattern
  | .empty => .empty
  | .literal cs => Pattern.concat (cs.map Pattern.char)
  | .chars set => .chars set
  | .assert a => .assert a
  | .repeated body least most _ => .repeated (toPattern body) least most
  | .capture body => toPattern body
  | .concat items => Pattern.concat (toPatterns items)
  | .alt branches => Pattern.oneOf (toPatterns branches)

/-- The patterns of several layouts. -/
def toPatterns : List Layout → List Pattern
  | [] => []
  | l :: ls => toPattern l :: toPatterns ls

end

end Layout

end Verdict.Pattern
