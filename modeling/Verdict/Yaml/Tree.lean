import Verdict.Table
import Verdict.Yaml.Token.Basic

/-!
# Trees of YAML

The nodes of a document as its text has them, with aliases in place of what they stand for.

## Main definitions

* `Verdict.Yaml.Tree` — a node of a document.
* `Verdict.Yaml.Grammar` — a reader of tokens.
* `Verdict.Yaml.Tree.ofTokens?` — the only document of a list of tokens.

## Design

A node with an anchor gets a number, and an alias is the number of its anchor. The number is that of
the names used so far. So if a name is used again, the number of its new node is given once more to
the next anchor that is new, and it stands for the last node that has it.
-/

namespace Verdict.Yaml

/-- A node of a document. -/
inductive Tree where
  | alias (number : Nat)
  | scalar (anchor? : Option Nat) (s : Scalar)
  | sequence (anchor? : Option Nat) (tag? : Option String) (items : List Tree)
  | mapping (anchor? : Option Nat) (tag? : Option String) (members : List (Tree × Tree))

namespace Tree

instance : Inhabited Tree := ⟨.alias 0⟩

/-- The node that stands where nothing is written. -/
def blank : Tree := .scalar none .blank

end Tree

/-! ### Readers of tokens -/

/-- Tokens that are to be read, and the anchors of those that are. -/
structure Unread where
  tokens : List Token
  /-- The number of the last anchor of each name. -/
  anchors : Table Nat := []
  /-- What the handles of tags stand for. -/
  handles : List (String × List UInt8) := []

/-- A reader of tokens. -/
abbrev Grammar (α : Type) : Type := StateT Unread Option α

namespace Grammar

/-- The next token. -/
def peek : Grammar (Option Token) := do return (← get).tokens.head?

/-- Skip the next token. -/
def skip : Grammar Unit := modify fun u => { u with tokens := u.tokens.drop 1 }

/-- Skip the next token if it is the given one. -/
def skipIf (token : Token) : Grammar Bool := do
  if (← peek) = some token then
    skip
    return true
  return false

/-- Whether the next token is one of the given ones. -/
def isNext (tokens : List Token) : Grammar Bool := do return (← peek).any tokens.contains

/-- Give a node its anchor, if it has one. -/
def anchored (name? : Option String) : Grammar (Option Nat) := do
  match name? with
  | none => return none
  | some name =>
    let anchors := (← get).anchors
    modify fun u => { u with anchors := anchors.put name anchors.length }
    return some anchors.length

/-- The tag that a handle and a suffix make; one that is no text names nothing. -/
def tagOf (handle : String) (suffix : List UInt8) : Grammar String := do
  let start ← if handle.isEmpty then pure [] else
    ((← get).handles.lookup handle : Option (List UInt8))
  return (String.fromUTF8? (start ++ suffix).toByteArray).getD ""

/-- The anchor and the tag in front of a node, in either order. -/
def properties : Grammar (Option String × Option String) := do
  match ← peek with
  | some (.anchor name) =>
    skip
    match ← peek with
    | some (.tag handle suffix) =>
      skip
      return (some name, some (← tagOf handle suffix))
    | _ => return (some name, none)
  | some (.tag handle suffix) =>
    skip
    match ← peek with
    | some (.anchor name) =>
      skip
      return (some name, some (← tagOf handle suffix))
    | _ => return (none, some (← tagOf handle suffix))
  | _ => return (none, none)

/-! ### Nodes -/

mutual

/-- A node. Block collections count only where blocks are allowed, and items without indentation
only in the members of a block mapping. -/
def node : Nat → Bool → Bool → Grammar Tree
  | 0, _, _ => failure
  | fuel + 1, inBlock, flat => do
    if let some (.alias name) ← peek then
      skip
      return .alias (← ((← get).anchors.get? name : Option Nat))
    let (anchor?, tag?) ← properties
    match ← peek with
    | some .item =>
      if flat then return .sequence (← anchored anchor?) tag? (← flatItems fuel)
      else bare anchor? tag?
    | some (.scalar text style) =>
      skip
      return .scalar (← anchored anchor?) ⟨text, style, tag?.filter (· != "!")⟩
    | some .flowSequence =>
      skip
      return .sequence (← anchored anchor?) tag? (← flowItems fuel true)
    | some .flowMapping =>
      skip
      return .mapping (← anchored anchor?) tag? (← flowMembers fuel true)
    | some .blockSequence =>
      if inBlock then
        skip
        return .sequence (← anchored anchor?) tag? (← blockItems fuel)
      else bare anchor? tag?
    | some .blockMapping =>
      if inBlock then
        skip
        return .mapping (← anchored anchor?) tag? (← blockMembers fuel)
      else bare anchor? tag?
    | _ => bare anchor? tag?
where
  /-- A node of which nothing but properties is written. -/
  bare (anchor? tag? : Option String) : Grammar Tree := do
    if anchor?.isNone && tag?.isNone then failure
    return .scalar (← anchored anchor?) ⟨"", .plain, tag?⟩

/-- The items of a block sequence up to its end. -/
def blockItems : Nat → Grammar (List Tree)
  | 0 => failure
  | fuel + 1 => do
    if ← skipIf .blockEnd then return []
    if ← skipIf .item then
      let item ← if ← isNext [.item, .blockEnd] then pure Tree.blank else node fuel true false
      return item :: (← blockItems fuel)
    failure

/-- The items of a sequence that is as little indented as the mapping around it. -/
def flatItems : Nat → Grammar (List Tree)
  | 0 => failure
  | fuel + 1 => do
    if ← skipIf .item then
      let item ← if ← isNext [.item, .key, .value, .blockEnd] then pure Tree.blank
        else node fuel true false
      return item :: (← flatItems fuel)
    return []

/-- The members of a block mapping up to its end. -/
def blockMembers : Nat → Grammar (List (Tree × Tree))
  | 0 => failure
  | fuel + 1 => do
    if ← skipIf .blockEnd then return []
    if ← skipIf .key then
      let key ← blockPart fuel
      let value ← if ← skipIf .value then blockPart fuel else pure Tree.blank
      return (key, value) :: (← blockMembers fuel)
    failure

/-- A key or value of a block mapping. -/
def blockPart : Nat → Grammar Tree
  | 0 => failure
  | fuel + 1 => do
    if ← isNext [.key, .value, .blockEnd] then return Tree.blank
    node fuel true true

/-- The items of a flow sequence up to its end; all but the first follow a comma. An item with a
key is a mapping of one member. -/
def flowItems : Nat → Bool → Grammar (List Tree)
  | 0, _ => failure
  | fuel + 1, first => do
    if ← skipIf .flowSequenceEnd then return []
    if !first then
      if !(← skipIf .comma) then failure
      if ← skipIf .flowSequenceEnd then return []
    let item ← if ← skipIf .key then pairItem fuel else node fuel false false
    return item :: (← flowItems fuel false)

/-- An item with a key, of which the key may be missing. Then the token behind it does not count. -/
def pairItem : Nat → Grammar Tree
  | 0 => failure
  | fuel + 1 => do
    let key ←
      if ← isNext [.value, .comma, .flowSequenceEnd] then
        skip
        pure Tree.blank
      else node fuel false false
    let value ←
      if ← skipIf .value then
        if ← isNext [.comma, .flowSequenceEnd] then pure Tree.blank else node fuel false false
      else pure Tree.blank
    return .mapping none none [(key, value)]

/-- The members of a flow mapping up to its end; all but the first follow a comma. -/
def flowMembers : Nat → Bool → Grammar (List (Tree × Tree))
  | 0, _ => failure
  | fuel + 1, first => do
    if ← skipIf .flowMappingEnd then return []
    if !first then
      if !(← skipIf .comma) then failure
      if ← skipIf .flowMappingEnd then return []
    let member ←
      if ← skipIf .key then
        let key ← flowPart fuel [.value, .comma, .flowMappingEnd]
        let value ← if ← skipIf .value then flowPart fuel [.comma, .flowMappingEnd]
          else pure Tree.blank
        pure (key, value)
      else pure (← node fuel false false, Tree.blank)
    return member :: (← flowMembers fuel false)

/-- A key or value of a flow mapping, which is missing in front of some tokens. -/
def flowPart : Nat → List Token → Grammar Tree
  | 0, _ => failure
  | fuel + 1, ends => do
    if ← isNext ends then return Tree.blank
    node fuel false false

end

/-! ### Documents -/

/-- The directives of a document: at most one version, which is known, and at most one meaning for
each handle. -/
def directives (versioned : Bool) (handles : List (String × List UInt8)) :
    List Token → Option (List (String × List UInt8) × List Token)
  | .version major minor :: rest =>
    if versioned || major != 1 || (minor != 1 && minor != 2) then none
    else directives true handles rest
  | .handle name start :: rest =>
    if (handles.lookup name).isSome then none
    else directives versioned ((name, start) :: handles) rest
  | rest => some (handles, rest)

/-- The handles that have a meaning without a directive. -/
def knownHandles : List (String × List UInt8) :=
  [("!", "!".toUTF8.toList), ("!!", "tag:yaml.org,2002:".toUTF8.toList)]

/-- The content of a document, which may be missing if its start is marked. -/
def content (marked : Bool) (fuel : Nat) : Grammar Tree := do
  let isMissing ← match ← peek with
    | none | some .documentStart | some .documentEnd | some (.version _ _)
    | some (.handle _ _) => pure true
    | _ => pure false
  if marked && isMissing then return Tree.blank
  node fuel true false

end Grammar

/-- The only document of a list of tokens: none inside if there is no document at all. A document
with directives has a mark at its start. -/
def Tree.ofTokens? (tokens : List Token) : Option (Option Tree) :=
  if tokens.isEmpty then some none
  else
    (Grammar.directives false [] tokens).bind fun (handles, rest) =>
      let marked := rest.head? = some .documentStart
      if rest.length < tokens.length && !marked then none
      else
        let unread : Unread :=
          { tokens := if marked then rest.drop 1 else rest
            handles := handles ++ Grammar.knownHandles }
        ((Grammar.content marked (2 * tokens.length + 2)).run unread).bind fun (tree, unread) =>
          if (unread.tokens.dropWhile (· = .documentEnd)).isEmpty then some (some tree) else none

end Verdict.Yaml
