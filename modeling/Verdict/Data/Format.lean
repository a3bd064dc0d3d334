import Verdict.Files.Path
import Verdict.Json.Reader
import Verdict.Toml.Reader
import Verdict.Yaml.Reader

/-!
# Formats of data files

Data is written in one of three formats. A file tells its format by the extension of its name, and
an argument by the name of the format.

## Main definitions

* `Verdict.DataFormat` — the formats.
* `Verdict.DataFormat.parse?` — the tree of a text in a format.
* `Verdict.DataFormat.ofPath?` — the format that the extension of a path tells.
-/

namespace Verdict

/-- A text format for data. -/
inductive DataFormat where
  | toml
  | yaml
  | json
  deriving Repr, DecidableEq

namespace DataFormat

/-- The tree of a text in a format. -/
def parse? : DataFormat → String → Option Node
  | .toml, text => Toml.parse? text
  | .yaml, text => Yaml.parse? text
  | .json, text => Json.parse? text

/-! ### Names and extensions -/

/-- The format of an extension. -/
def ofExtension? : String → Option DataFormat
  | "toml" => some .toml
  | "yaml" => some .yaml
  | "yml" => some .yaml
  | "json" => some .json
  | _ => none

/-- The format that the extension of a path tells. -/
def ofPath? (path : String) : Option DataFormat := (Path.extension? path).bind ofExtension?

/-- The name of a format. -/
def name : DataFormat → String
  | .toml => "toml"
  | .yaml => "yaml"
  | .json => "json"

/-- The format of a name. -/
def ofName? (name : String) : Option DataFormat :=
  [toml, json, yaml].find? fun f => f.name == name

end DataFormat

end Verdict
