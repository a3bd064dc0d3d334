import Verdict.Data.Node
import Verdict.Yaml.Token.Stream
import Verdict.Yaml.Tree

/-!
# Reading YAML

An alias stands for the node with its anchor, which is put into its place. A node may stand for
itself in this way, or for very much; the depth and the amount of what an alias brings are bounded.

## Main definitions

* `Verdict.Yaml.Expansion` — what a node is when its aliases are replaced.
* `Verdict.Yaml.Tree.expand` — the expansion of a node.
* `Verdict.Yaml.parse?` — the tree of a text.

## Design

Anchored nodes are expanded in rounds, each of which replaces aliases by what the round before has
found. After as many rounds as there are anchors the nodes that do not stand for themselves are
complete, and in the others something unusable is left.
-/

namespace Verdict.Yaml

/-- What a node is when its aliases are replaced. -/
structure Expansion where
  node : Node
  /-- The depth of its collections. -/
  height : Nat
  /-- The number of aliases in it, with those in what they stand for. -/
  aliases : Nat

namespace Expansion

/-- A node that is none. -/
def unusable : Expansion := ⟨.unusable, 0, 0⟩

/-- A node without parts. -/
def ofNode (n : Node) : Expansion := ⟨n, 0, 0⟩

/-- A collection with parts of some expansions. -/
def around (n : Node) (parts : List Expansion) : Expansion :=
  ⟨n, (parts.map (·.height)).foldl max 0 + 1, (parts.map (·.aliases)).foldr (· + ·) 0⟩

end Expansion

/-- The deepest nesting of collections. -/
def nestingLimit : Nat := 128

/-- The greatest number of aliases for each event of a document. -/
def aliasLimit : Nat := 100

/-- The form of a collection with a tag. -/
def formOf (tag? : Option String) : Form :=
  if tag?.any Scalar.isLocalTag then .taggedYaml else .yaml

namespace Tree

mutual

/-- The expansion of a node inside `depth` collections, where the expansions of anchored nodes are
known. -/
def expand (known : Nat → Expansion) (depth : Nat) : Tree → Expansion
  | .alias number =>
    let target := known number
    { target with
      node := if nestingLimit < depth + target.height then .unusable else target.node
      aliases := target.aliases + 1 }
  | .scalar _ s => .ofNode (.scalar s)
  | .sequence _ tag? items =>
    let parts := expandItems known (depth + 1) items
    .around (limited depth (.list (formOf tag?) (parts.map (·.node)))) parts
  | .mapping _ tag? members =>
    let parts := expandMembers known (depth + 1) members
    .around (limited depth (.dict (formOf tag?) (parts.map fun p => (p.1.node, p.2.node))))
      (parts.flatMap fun p => [p.1, p.2])
where
  /-- A collection inside others, unless there are too many. -/
  limited (depth : Nat) (n : Node) : Node := if depth < nestingLimit then n else .unusable

/-- The expansions of the items of a sequence. -/
def expandItems (known : Nat → Expansion) (depth : Nat) : List Tree → List Expansion
  | [] => []
  | item :: items => expand known depth item :: expandItems known depth items

/-- The expansions of the members of a mapping. -/
def expandMembers (known : Nat → Expansion) (depth : Nat) :
    List (Tree × Tree) → List (Expansion × Expansion)
  | [] => []
  | (key, value) :: members =>
    (expand known depth key, expand known depth value) :: expandMembers known depth members

end

mutual

/-- The anchored nodes of a node with their numbers, in the order of the text. -/
def anchors (t : Tree) : List (Nat × Tree) :=
  match t with
  | .alias _ => []
  | .scalar anchor? s => (anchor?.map fun number => (number, .scalar anchor? s)).toList
  | .sequence anchor? tag? items =>
    (anchor?.map fun number => (number, .sequence anchor? tag? items)).toList ++ anchorsIn items
  | .mapping anchor? tag? members =>
    (anchor?.map fun number => (number, .mapping anchor? tag? members)).toList ++
      anchorsAmong members

/-- The anchored nodes of the items of a sequence. -/
def anchorsIn : List Tree → List (Nat × Tree)
  | [] => []
  | item :: items => anchors item ++ anchorsIn items

/-- The anchored nodes of the members of a mapping. -/
def anchorsAmong : List (Tree × Tree) → List (Nat × Tree)
  | [] => []
  | (key, value) :: members => anchors key ++ (anchors value ++ anchorsAmong members)

end

mutual

/-- The number of events of a node: a collection has one at its start and one at its end. -/
def events : Tree → Nat
  | .alias _ | .scalar _ _ => 1
  | .sequence _ _ items => eventsIn items + 2
  | .mapping _ _ members => eventsAmong members + 2

/-- The number of events of the items of a sequence. -/
def eventsIn : List Tree → Nat
  | [] => 0
  | item :: items => events item + eventsIn items

/-- The number of events of the members of a mapping. -/
def eventsAmong : List (Tree × Tree) → Nat
  | [] => 0
  | (key, value) :: members => events key + events value + eventsAmong members

end

/-- The last anchored node of each number below a bound. -/
def targets (anchored : List (Nat × Tree)) (bound : Nat) : Array (Option Tree) :=
  anchored.foldl (fun found (number, t) => found.setIfInBounds number (some t))
    (Array.replicate bound none)

/-- One more round of expansion. -/
def nextRound (targets : Array (Option Tree)) (known : Array Expansion) : Array Expansion :=
  targets.map fun t? =>
    (t?.map (expand (fun number => known.getD number .unusable) 0)).getD .unusable

/-- The tree of a document, which must not have too many aliases. -/
def toNode (t : Tree) : Node :=
  let anchored := t.anchors
  let targets := targets anchored anchored.length
  let known := Nat.repeat (nextRound targets) (anchored.length + 2) #[]
  let whole := t.expand (fun number => known.getD number .unusable) 0
  if aliasLimit * t.events < whole.aliases then .unusable else whole.node

end Tree

/-- The tree of a text. A text without a document is as good as one with nothing written. -/
def parse? (text : String) : Option Node :=
  (tokens? text).bind fun tokens => (Tree.ofTokens? tokens).map fun t? =>
    ((t?.map Tree.toNode).getD (.scalar .blank))

end Verdict.Yaml
