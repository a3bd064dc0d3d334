import Verdict.CommandLine.Output
import Verdict.Data.Node
import Verdict.Data.Format
import Verdict.Toml.Printer
import Verdict.Validator.Walk

/-!
# Configurations

Defaults for everything that the command line may leave open, kept in files.

## Main definitions

* `Verdict.Configuration` — a configuration; its default is the one that no file changes.
* `Verdict.Configuration.ofNode?` — the configuration of a tree of data.
* `Verdict.Configuration.render?` — the text of a configuration in a format.
-/

namespace Verdict

/-- Defaults of a validation. -/
structure ValidationSettings where
  tagKey : String := defaultTagKey
  maxDepth : Nat := defaultMaxDepth
  /-- The name of a module whose schema gives none. -/
  module? : Option String := none
  lang? : Option String := none
  /-- The path of a catalog of messages. -/
  messages? : Option String := none
  deriving Repr, DecidableEq

/-- Defaults of the output. -/
structure OutputSettings where
  format : OutputFormat := .human
  color : Bool := true
  deriving Repr, DecidableEq

/-- What is to be logged. -/
structure LoggingSettings where
  level? : Option String := none
  format? : Option String := none
  /-- Levels of single targets. -/
  filters : Table String := []
  deriving Repr, DecidableEq

/-- A configuration. -/
structure Configuration where
  validation : ValidationSettings := {}
  output : OutputSettings := {}
  logging : LoggingSettings := {}
  deriving Repr, DecidableEq

namespace ValidationSettings

/-- The names of the members, in order. -/
def names : List String := ["tag_key", "max_depth", "module", "lang", "messages"]

/-- The settings of a tree of data. -/
def ofNode? (n : Node) : Option ValidationSettings := do
  let members ← n.structure? names
  let tagKey ← Node.orDefault Node.text? defaultTagKey (Node.memberAt members 0)
  let maxDepth ← Node.orDefault Node.natural? defaultMaxDepth (Node.memberAt members 1)
  let module? ← Node.optionalText? (Node.memberAt members 2)
  let lang? ← Node.optionalText? (Node.memberAt members 3)
  let messages? ← Node.optionalText? (Node.memberAt members 4)
  return { tagKey, maxDepth, module?, lang?, messages? }

end ValidationSettings

namespace OutputSettings

/-- The settings of a tree of data. -/
def ofNode? (n : Node) : Option OutputSettings := do
  let members ← n.structure? ["format", "color"]
  let format ← Node.orDefault (fun n => n.alternative?.bind OutputFormat.ofName?) .human
    (Node.memberAt members 0)
  let color ← Node.orDefault Node.bool? true (Node.memberAt members 1)
  return { format, color }

end OutputSettings

namespace LoggingSettings

/-- The settings of a tree of data. -/
def ofNode? (n : Node) : Option LoggingSettings := do
  let members ← n.structure? ["level", "format", "filters"]
  let level? ← Node.optionalText? (Node.memberAt members 0)
  let format? ← Node.optionalText? (Node.memberAt members 1)
  let filters ← Node.orDefault Node.textTable? [] (Node.memberAt members 2)
  return { level?, format?, filters }

end LoggingSettings

namespace Configuration

/-- The configuration of a tree of data. -/
def ofNode? (n : Node) : Option Configuration := do
  let members ← n.structure? ["validation", "output", "logging"]
  let validation ← Node.orDefault ValidationSettings.ofNode? {} (Node.memberAt members 0)
  let output ← Node.orDefault OutputSettings.ofNode? {} (Node.memberAt members 1)
  let logging ← Node.orDefault LoggingSettings.ofNode? {} (Node.memberAt members 2)
  return { validation, output, logging }

/-- A member for a text that may be missing. -/
def textMember (name : String) (s : Option String) : List (String × Json) :=
  (s.map fun s => (name, Json.str s)).toList

/-- A configuration as data; what is missing is left out. -/
def toJson (c : Configuration) : Json :=
  .obj
    [("validation", .obj
        ([("tag_key", .str c.validation.tagKey), ("max_depth", .int c.validation.maxDepth)] ++
          textMember "module" c.validation.module? ++ textMember "lang" c.validation.lang? ++
          textMember "messages" c.validation.messages?)),
      ("output", .obj
        [("format", .str c.output.format.name), ("color", .bool c.output.color)]),
      ("logging", .obj
        (textMember "level" c.logging.level? ++ textMember "format" c.logging.format? ++
          if c.logging.filters.isEmpty then [] else [("filters", Json.ofTable c.logging.filters)]))]

/-- The text of a configuration in a format. TOML has no numbers above its bound. -/
def render? (c : Configuration) : DataFormat → Option String
  | .toml => Toml.print? c.toJson
  | .yaml => some (Yaml.print c.toJson)
  | .json => some c.toJson.pretty

/-- The format in which a file of configuration is written. -/
def formatFor (path : String) : DataFormat := (DataFormat.ofPath? path).getD .toml

end Configuration

end Verdict
