import Verdict.Number.Literal
import Verdict.Pattern.Class

/-!
# Pattern texts

The written form of patterns: operators and escapes, groups and flags, bracketed classes with set
operations, and a verbose mode in which blanks and comments between elements do not count.

## Main definitions

* `Verdict.Pattern.Expression` — a pattern as written, before its flags take effect.
* `Verdict.Pattern.Expression.parse?` — the reader of pattern texts.

## Design

A text that is no pattern has no reading; why is not told, since nobody asks. Every reader takes
what is left of the text and hands back what it leaves. The readers that call one another count down
a bound on their nested calls, which the length of the text supplies.
-/

namespace Verdict.Pattern

/-- A switch that a pattern can set for what follows. -/
inductive Flag where
  | caseInsensitive
  | multiLine
  | dotAll
  | swapGreed
  | unicode
  | returns
  | verbose
  deriving Repr, DecidableEq

/-- The flag of a letter. -/
def Flag.ofChar? : Char → Option Flag
  | 'i' => some .caseInsensitive
  | 'm' => some .multiLine
  | 's' => some .dotAll
  | 'U' => some .swapGreed
  | 'u' => some .unicode
  | 'R' => some .returns
  | 'x' => some .verbose
  | _ => none

/-- The classes with a one-letter escape. -/
inductive ShortClass where
  | digit
  | blank
  | word
  deriving Repr, DecidableEq

/-- The assertions as written; the flags decide what they mean. -/
inductive Anchor where
  | lineStart
  | lineEnd
  | textStart
  | textEnd
  | wordBoundary
  | notWordBoundary
  | wordStart
  | wordEnd
  | wordStartHalf
  | wordEndHalf
  deriving Repr, DecidableEq

/-- What stands for itself, in a class or outside: a character, a named class or an assertion. -/
inductive Atom where
  /-- A character; the flag marks one written as a two-digit code. -/
  | char (c : Char) (byCode : Bool)
  | short (kind : ShortClass) (negated : Bool)
  | property (set : Text.CharSet) (negated : Bool)
  | anchor (kind : Anchor)
  deriving Repr, DecidableEq

/-- The operations on sets inside brackets. -/
inductive SetOp where
  | inter
  | diff
  | symmDiff
  deriving Repr, DecidableEq

/-- What stands between the brackets of a class. -/
inductive ClassItem where
  | empty
  | atom (a : Atom)
  | range (first last : Char)
  | posix (set : Text.CharSet) (negated : Bool)
  | bracket (negated : Bool) (body : ClassItem)
  | union (items : List ClassItem)
  | combine (op : SetOp) (first second : ClassItem)

/-- A pattern as written. -/
inductive Expression where
  | empty
  /-- A change of flags up to the end of the group. -/
  | flags (changes : List (Flag × Bool))
  | atom (a : Atom)
  /-- The dot. -/
  | any
  | bracket (negated : Bool) (body : ClassItem)
  | repeated (body : Expression) (least : Nat) (most : Option Nat) (greedy : Bool)
  | group (changes : List (Flag × Bool)) (body : Expression)
  | capture (body : Expression)
  | alt (branches : List Expression)
  | concat (items : List Expression)

/-! ### Blanks in verbose mode -/

/-- Drop blanks and comments in front of a text. -/
def skipFrom (inComment : Bool) : List Char → List Char
  | [] => []
  | c :: rest =>
    if inComment then skipFrom (c != '\n') rest
    else if Text.isBlank c then skipFrom false rest
    else if c = '#' then skipFrom true rest
    else c :: rest

/-- Drop what does not count in front of a text: blanks and comments in verbose mode. -/
def skip (verbose : Bool) (cs : List Char) : List Char := if verbose then skipFrom false cs else cs

/-- The next character that counts after the first one of a text. -/
def nextAfter (verbose : Bool) (cs : List Char) : Option Char :=
  let rest := cs.drop 1
  if verbose then
    let shown := rest.dropWhile Text.isBlank
    match shown with
    | '#' :: more => (more.dropWhile Text.isBlank).head?
    | c :: _ => some c
    | [] => rest.head?
  else rest.head?

/-! ### Escapes -/

/-- Characters with a meaning of their own, which a backslash takes away. -/
def isMeta (c : Char) : Bool := "\\.+*?()|[]\x7b\x7d^$#&-~".toList.contains c

/-- Characters that a backslash may precede to no effect: ASCII, but no letter, digit or angle
bracket. -/
def isEscapable (c : Char) : Bool :=
  isMeta c || (c.toNat < 0x80 && !c.isAlphanum && c != '<' && c != '>')

/-- The character of a code point. -/
def charOfCode? (code : Nat) : Option Char :=
  if h : Nat.isValidChar code then some (Char.ofNatAux code h) else none

/-- A character code between braces, up to the closing one. -/
def bracedCode? (verbose : Bool) : Nat → List Char → List Char → Option (Char × List Char)
  | 0, _, _ => none
  | fuel + 1, digits, cs =>
    match skip verbose cs with
    | [] => none
    | '}' :: rest =>
      (Text.hexValue? digits.reverse).bind fun code =>
        if 2 ^ 32 ≤ code then none
        else (charOfCode? code).map fun c => (c, skip verbose rest)
    | c :: rest =>
      if (Text.hexDigit? c).isSome then bracedCode? verbose fuel (c :: digits) rest else none

/-- A character code of a fixed number of digits. -/
def fixedCode? (verbose : Bool) : Nat → List Char → List Char → Option (Char × List Char)
  | 0, digits, cs =>
    (Text.hexValue? digits.reverse).bind fun code =>
      (charOfCode? code).map fun c => (c, cs)
  | count + 1, digits, cs =>
    match cs with
    | c :: rest =>
      if (Text.hexDigit? c).isSome then fixedCode? verbose count (c :: digits) (skip verbose rest)
      else none
    | [] => none

/-- A character by its code, after the letter that tells the number of digits. -/
def code? (verbose : Bool) (count : Nat) (cs : List Char) : Option (Char × List Char) :=
  match skip verbose cs with
  | '{' :: rest => bracedCode? verbose (rest.length + 1) [] rest
  | rest => fixedCode? verbose count [] rest

/-- The name and the value of a property, parted by the first of the marks between them. A mark of
inequality parts them like one of equality. -/
def splitProperty (name : List Char) : Option (List Char × List Char) :=
  let rec cut (mark : List Char) (before : List Char) : List Char → Option (List Char × List Char)
    | [] => none
    | c :: rest =>
      if mark.isPrefixOf (c :: rest) then some (before.reverse, (c :: rest).drop mark.length)
      else cut mark (c :: before) rest
  (cut ['!', '='] [] name <|> cut [':'] [] name) <|> cut ['='] [] name

/-- The class of a property name, with or without a value. -/
def namedProperty? (negated : Bool) (name : List Char) : Option Atom :=
  match splitProperty name with
  | some (prop, value) =>
    (propertyValueClass? (String.ofList prop) (String.ofList value)).map fun set =>
      .property set negated
  | none => (propertyClass? (String.ofList name)).map fun set => .property set negated

/-- The name of a property between braces, up to the closing one. -/
def bracedName? (verbose : Bool) : Nat → List Char → List Char → Option (List Char × List Char)
  | 0, _, _ => none
  | fuel + 1, name, cs =>
    match skip verbose cs with
    | [] => none
    | '}' :: rest => some (name.reverse, rest)
    | c :: rest => bracedName? verbose fuel (c :: name) rest

/-- A class by property, after its letter. -/
def property? (verbose negated : Bool) (cs : List Char) : Option (Atom × List Char) :=
  match skip verbose cs with
  | [] => none
  | '{' :: rest =>
    (bracedName? verbose (rest.length + 1) [] rest).bind fun (name, rest) =>
      (namedProperty? negated name).map fun a => (a, rest)
  | '\\' :: _ => none
  | c :: rest => (propertyClass? (String.singleton c)).map fun set =>
      (.property set negated, skip verbose rest)

/-- The word in braces after a word boundary, as far as its characters go. -/
def boundaryWord (verbose : Bool) : Nat → List Char → List Char → List Char × List Char
  | 0, word, cs => (word.reverse, cs)
  | fuel + 1, word, cs =>
    match cs with
    | c :: rest =>
      if c.isAlpha || c == '-' then boundaryWord verbose fuel (c :: word) (skip verbose rest)
      else (word.reverse, cs)
    | [] => (word.reverse, [])

/-- What follows a word boundary: one of four words in braces makes it a special one; braces that
cannot hold a word are left for the repetition that they are. -/
def boundary? (verbose : Bool) (cs : List Char) : Option (Anchor × List Char) :=
  match cs with
  | '{' :: rest =>
    match skip verbose rest with
    | [] => none
    | c :: more =>
      if c.isAlpha || c == '-' then
        let (word, after) := boundaryWord verbose (more.length + 2) [] (c :: more)
        match after with
        | '}' :: rest =>
          match String.ofList word with
          | "start" => some (.wordStart, rest)
          | "end" => some (.wordEnd, rest)
          | "start-half" => some (.wordStartHalf, rest)
          | "end-half" => some (.wordEndHalf, rest)
          | _ => none
        | _ => none
      else some (.wordBoundary, cs)
  | _ => some (.wordBoundary, cs)

/-- An escape, after its backslash. -/
def escape? (verbose : Bool) (cs : List Char) : Option (Atom × List Char) :=
  match cs with
  | [] => none
  | 'x' :: rest =>
    let fixed := !((skip verbose rest).head? == some '{')
    (code? verbose 2 rest).map fun (c, rest) => (.char c fixed, rest)
  | 'u' :: rest => (code? verbose 4 rest).map fun (c, rest) => (.char c false, rest)
  | 'U' :: rest => (code? verbose 8 rest).map fun (c, rest) => (.char c false, rest)
  | 'p' :: rest => property? verbose false rest
  | 'P' :: rest => property? verbose true rest
  | 'd' :: rest => some (.short .digit false, rest)
  | 'D' :: rest => some (.short .digit true, rest)
  | 's' :: rest => some (.short .blank false, rest)
  | 'S' :: rest => some (.short .blank true, rest)
  | 'w' :: rest => some (.short .word false, rest)
  | 'W' :: rest => some (.short .word true, rest)
  | 'a' :: rest => some (.char '\x07' false, rest)
  | 'f' :: rest => some (.char '\x0c' false, rest)
  | 't' :: rest => some (.char '\t' false, rest)
  | 'n' :: rest => some (.char '\n' false, rest)
  | 'r' :: rest => some (.char '\r' false, rest)
  | 'v' :: rest => some (.char '\x0b' false, rest)
  | 'A' :: rest => some (.anchor .textStart, rest)
  | 'z' :: rest => some (.anchor .textEnd, rest)
  | 'b' :: rest => (boundary? verbose rest).map fun (kind, rest) => (.anchor kind, rest)
  | 'B' :: rest => some (.anchor .notWordBoundary, rest)
  | '<' :: rest => some (.anchor .wordStart, rest)
  | '>' :: rest => some (.anchor .wordEnd, rest)
  | c :: rest => if isEscapable c then some (.char c false, rest) else none

/-! ### Classes in brackets -/

/-- One end of a range, or an item of its own. -/
def classAtom? (verbose : Bool) : List Char → Option (Atom × List Char)
  | '\\' :: rest => escape? verbose rest
  | c :: rest => some (.char c false, rest)
  | [] => none

/-- A single item of a class, or a range of characters. -/
def classRange? (verbose : Bool) (cs : List Char) : Option (ClassItem × List Char) :=
  (classAtom? verbose cs).bind fun (first, rest) =>
    let rest := skip verbose rest
    let single : Option (ClassItem × List Char) :=
      match first with
      | .anchor _ => none
      | a => some (.atom a, rest)
    match rest with
    | [] => none
    | '-' :: more =>
      let next := nextAfter verbose rest
      if next = some ']' ∨ next = some '-' then single
      else
        match skip verbose more with
        | [] => none
        | more =>
          (classAtom? verbose more).bind fun (last, rest) =>
            match first, last with
            | .char a _, .char b _ => if a ≤ b then some (.range a b, rest) else none
            | _, _ => none
    | _ => single

/-- A POSIX class, if the text starts with one. -/
def posix? (cs : List Char) : Option (ClassItem × List Char) :=
  match cs with
  | '[' :: ':' :: rest =>
    let (negated, body) := match rest with
      | '^' :: more => (true, more)
      | _ => (false, rest)
    let name := body.takeWhile (· != ':')
    match body.dropWhile (· != ':') with
    | ':' :: ']' :: after =>
      (posixClass? (String.ofList name)).map fun set => (.posix set negated, after)
    | _ => none
  | _ => none

/-- The items between two operators, as one. -/
def ClassItem.ofItems : List ClassItem → ClassItem
  | [] => .empty
  | [item] => item
  | items => .union items

/-- Join an operand to the operators before it; they all bind equally, from the left. -/
def joinOperand (pending : Option (SetOp × ClassItem)) (items : List ClassItem) : ClassItem :=
  let operand := ClassItem.ofItems items.reverse
  match pending with
  | some (op, first) => .combine op first operand
  | none => operand

/-- The hyphens at the start of a class stand for themselves. -/
def leadingHyphens (verbose : Bool) : Nat → List ClassItem → List Char →
    List ClassItem × List Char
  | 0, items, cs => (items, cs)
  | fuel + 1, items, cs =>
    match cs with
    | '-' :: rest =>
      leadingHyphens verbose fuel (.atom (.char '-' false) :: items) (skip verbose rest)
    | _ => (items, cs)

/-- The start of a class after its bracket: a caret negates it, hyphens stand for themselves, and so
does a closing bracket that comes first. -/
def openClass (verbose : Bool) (cs : List Char) : Bool × List ClassItem × List Char :=
  let cs := skip verbose cs
  let (negated, cs) := match cs with
    | '^' :: rest => (true, skip verbose rest)
    | _ => (false, cs)
  let (items, cs) := leadingHyphens verbose cs.length [] cs
  match items, cs with
  | [], ']' :: rest => (negated, [.atom (.char ']' false)], skip verbose rest)
  | _, _ => (negated, items, cs)

/-- The items of a class up to its closing bracket; they are collected in reverse, beside the
operator and operand before them. -/
def classBody? (verbose : Bool) : Nat → Option (SetOp × ClassItem) → List ClassItem → List Char →
    Option (ClassItem × List Char)
  | 0, _, _, _ => none
  | fuel + 1, pending, items, cs =>
    match skip verbose cs with
    | [] => none
    | ']' :: rest => some (joinOperand pending items, rest)
    | '&' :: '&' :: rest =>
      classBody? verbose fuel (some (.inter, joinOperand pending items)) [] rest
    | '-' :: '-' :: rest =>
      classBody? verbose fuel (some (.diff, joinOperand pending items)) [] rest
    | '~' :: '~' :: rest =>
      classBody? verbose fuel (some (.symmDiff, joinOperand pending items)) [] rest
    | '[' :: rest =>
      match posix? ('[' :: rest) with
      | some (item, after) => classBody? verbose fuel pending (item :: items) after
      | none =>
        let (negated, inner, after) := openClass verbose rest
        (classBody? verbose fuel none inner after).bind fun (body, after) =>
          classBody? verbose fuel pending (.bracket negated body :: items) after
    | rest =>
      (classRange? verbose rest).bind fun (item, after) =>
        classBody? verbose fuel pending (item :: items) after

/-- A class, after its opening bracket. -/
def class? (verbose : Bool) (cs : List Char) : Option (Expression × List Char) :=
  let (negated, items, rest) := openClass verbose cs
  (classBody? verbose (rest.length + 1) none items rest).map fun (body, rest) =>
    (.bracket negated body, rest)

/-! ### Repetitions -/

/-- A number with blanks around it, of at most 32 bits. -/
def countNumber? (verbose : Bool) (cs : List Char) : Option (Nat × List Char) :=
  let rec digits : Nat → List Char → List Char → List Char × List Char
    | 0, taken, cs => (taken.reverse, cs)
    | fuel + 1, taken, cs =>
      match cs with
      | c :: rest =>
        if isDigit c then digits fuel (c :: taken) (skip verbose rest) else (taken.reverse, cs)
      | [] => (taken.reverse, [])
  let cs := cs.dropWhile Text.isBlank
  let (taken, rest) := digits cs.length [] cs
  let rest := skip verbose (rest.dropWhile Text.isBlank)
  if taken.isEmpty || 2 ^ 32 ≤ digitsValue taken then none
  else some (digitsValue taken, rest)

/-- The counts of a repetition, after its opening brace. -/
def counts? (verbose : Bool) (cs : List Char) : Option ((Nat × Option Nat) × List Char) :=
  (countNumber? verbose (skip verbose cs)).bind fun (least, rest) =>
    match rest with
    | '}' :: rest => some ((least, some least), skip verbose rest)
    | ',' :: rest =>
      match skip verbose rest with
      | '}' :: rest => some ((least, none), skip verbose rest)
      | rest =>
        (countNumber? verbose rest).bind fun (most, rest) =>
          match rest with
          | '}' :: rest =>
            if least ≤ most then some ((least, some most), skip verbose rest) else none
          | _ => none
    | _ => none

/-- Repeat the last of the items collected in reverse; there must be one that can be repeated. A
question mark behind the counts makes the repetition reluctant. -/
def repeatLast? (least : Nat) (most : Option Nat) (items : List Expression) (cs : List Char) :
    Option (List Expression × List Char) :=
  let (greedy, rest) := match cs with
    | '?' :: rest => (false, rest)
    | _ => (true, cs)
  match items with
  | [] => none
  | .empty :: _ => none
  | .flags _ :: _ => none
  | item :: items => some (.repeated item least most greedy :: items, rest)

/-! ### Groups and flags -/

/-- The flags of a group up to the colon or parenthesis that ends them. -/
def flags? : Nat → Bool → Bool → List (Flag × Bool) → List Char →
    Option (List (Flag × Bool) × Bool × List Char)
  | 0, _, _, _, _ => none
  | fuel + 1, negated, dangling, flags, cs =>
    match cs with
    | [] => none
    | ':' :: _ | ')' :: _ => if dangling then none else some (flags.reverse, negated, cs)
    | '-' :: rest => if negated then none else flags? fuel true true flags rest
    | c :: rest =>
      (Flag.ofChar? c).bind fun flag =>
        if flags.any fun f => f.1 = flag then none
        else flags? fuel negated false ((flag, !negated) :: flags) rest

/-- Whether a character may occur in the name of a group; the first one is a letter or an
underscore. -/
def isNameChar (isFirst : Bool) (c : Char) : Bool :=
  c == '_' || (property "alphabetic").contains c ||
    (!isFirst && (c == '.' || c == '[' || c == ']' ||
      ["nd", "nl", "no"].any fun name => (category name).contains c))

/-- The name of a group, up to its closing angle bracket. -/
def groupName? (cs : List Char) : Option (String × List Char) :=
  let name := cs.takeWhile (· != '>')
  match name, cs.dropWhile (· != '>') with
  | first :: others, '>' :: rest =>
    if isNameChar true first && others.all (isNameChar false) then
      some (String.ofList name, rest)
    else none
  | _, _ => none

/-- How a group begins. -/
inductive GroupStart where
  /-- A group that captures, under a name or not. -/
  | capture (name? : Option String)
  /-- A group with flags of its own. -/
  | plain (changes : List (Flag × Bool))
  /-- No group but a change of flags. -/
  | change (changes : List (Flag × Bool))

/-- The start of a group, after its parenthesis. -/
def groupStart? (cs : List Char) : Option (GroupStart × List Char) :=
  match cs with
  | '?' :: '=' :: _ | '?' :: '!' :: _ | '?' :: '<' :: '=' :: _ | '?' :: '<' :: '!' :: _ => none
  | '?' :: 'P' :: '<' :: rest | '?' :: '<' :: rest =>
    (groupName? rest).map fun (name, rest) => (.capture (some name), rest)
  | '?' :: rest =>
    (flags? (rest.length + 1) false false [] rest).bind fun (flags, negated, rest) =>
      match rest with
      | ':' :: rest => some (.plain flags, rest)
      | ')' :: rest => if flags.isEmpty && !negated then none else some (.change flags, rest)
      | _ => none
  | _ => some (.capture none, cs)

/-- The setting of a flag after changes, if they set it. -/
def setting? (flag : Flag) (changes : List (Flag × Bool)) : Option Bool :=
  (changes.find? fun change => change.1 = flag).map (·.2)

/-! ### Whole patterns -/

/-- Items in a row, as one. -/
def Expression.ofItems : List Expression → Expression
  | [] => .empty
  | [item] => item
  | items => .concat items

/-- Alternatives, as one. -/
def Expression.ofBranches : List Expression → Expression
  | [branch] => branch
  | branches => .alt branches

/-- What a reader of items carries: verbose mode, the names of groups so far, and what is left. -/
structure Cursor where
  verbose : Bool
  names : List String
  rest : List Char

/-- The items up to a closing parenthesis or the end of the text. Alternatives and items of the
current one are collected in reverse. -/
def expression? : Nat → Cursor → List Expression → List Expression →
    Option (Expression × Cursor)
  | 0, _, _, _ => none
  | fuel + 1, cur, branches, items =>
    let verbose := cur.verbose
    let next (items : List Expression) (rest : List Char) : Option (Expression × Cursor) :=
      expression? fuel { cur with rest := rest } branches items
    let finish (rest : List Char) : Option (Expression × Cursor) :=
      let last := Expression.ofItems items.reverse
      some (.ofBranches (last :: branches).reverse, { cur with rest := rest })
    let repeatWith (least : Nat) (most : Option Nat) (rest : List Char) :
        Option (Expression × Cursor) :=
      (repeatLast? least most items rest).bind fun (items, rest) => next items rest
    match skip verbose cur.rest with
    | [] => finish []
    | ')' :: rest => finish (')' :: rest)
    | '|' :: rest =>
      expression? fuel { cur with rest := rest }
        (Expression.ofItems items.reverse :: branches) []
    | '(' :: rest =>
      (groupStart? (skip verbose rest)).bind fun (start, rest) =>
        match start with
        | .change changes =>
          expression? fuel
            { cur with verbose := (setting? .verbose changes).getD verbose, rest := rest }
            branches (.flags changes :: items)
        | .plain changes =>
          (expression? fuel
            { cur with verbose := (setting? .verbose changes).getD verbose, rest := rest }
            [] []).bind fun (body, after) =>
            match after.rest with
            | ')' :: rest =>
              expression? fuel { cur with names := after.names, rest := rest } branches
                (.group changes body :: items)
            | _ => none
        | .capture name? =>
          if name?.any cur.names.contains then none
          else
            (expression? fuel { cur with names := name?.toList ++ cur.names, rest := rest }
              [] []).bind fun (body, after) =>
              match after.rest with
              | ')' :: rest =>
                expression? fuel { cur with names := after.names, rest := rest } branches
                  (.capture body :: items)
              | _ => none
    | '[' :: rest =>
      (class? verbose rest).bind fun (item, rest) => next (item :: items) rest
    | '?' :: rest => repeatWith 0 (some 1) rest
    | '*' :: rest => repeatWith 0 none rest
    | '+' :: rest => repeatWith 1 none rest
    | '{' :: rest =>
      (counts? verbose rest).bind fun ((least, most), rest) =>
        repeatWith least most rest
    | '\\' :: rest => (escape? verbose rest).bind fun (a, rest) => next (.atom a :: items) rest
    | '.' :: rest => next (.any :: items) rest
    | '^' :: rest => next (.atom (.anchor .lineStart) :: items) rest
    | '$' :: rest => next (.atom (.anchor .lineEnd) :: items) rest
    | c :: rest => next (.atom (.char c false) :: items) rest

mutual

/-- How deep the items of a class are nested. -/
def ClassItem.depth : ClassItem → Nat
  | .empty | .atom _ | .range _ _ | .posix _ _ => 0
  | .bracket _ body => body.depth + 1
  | .union items => ClassItem.depthOfAll items + 1
  | .combine _ a b => max a.depth b.depth + 1

/-- How deep the deepest of some items is nested. -/
def ClassItem.depthOfAll : List ClassItem → Nat
  | [] => 0
  | item :: items => max item.depth (ClassItem.depthOfAll items)

end

mutual

/-- How deep the parts of an expression are nested. -/
def Expression.depth : Expression → Nat
  | .empty | .flags _ | .atom _ | .any => 0
  | .bracket _ body => body.depth + 1
  | .repeated body _ _ _ => body.depth + 1
  | .group _ body => body.depth + 1
  | .capture body => body.depth + 1
  | .alt branches => Expression.depthOfAll branches + 1
  | .concat items => Expression.depthOfAll items + 1

/-- How deep the deepest of some expressions is nested. -/
def Expression.depthOfAll : List Expression → Nat
  | [] => 0
  | e :: es => max e.depth (Expression.depthOfAll es)

end

/-- The deepest nesting that a pattern text may have. -/
def nestLimit : Nat := 250

/-- The reading of a pattern text, if it is one. -/
def Expression.parse? (text : String) : Option Expression :=
  let cs := text.toList
  (expression? (cs.length + 1) ⟨false, [], cs⟩ [] []).bind fun (e, after) =>
    if after.rest.isEmpty && e.depth ≤ nestLimit then some e else none

end Verdict.Pattern
