import Verdict.CommandLine.Failure
import Verdict.CommandLine.Logging
import Verdict.CommandLine.Invocation
import Verdict.Files.Tree

/-!
# Surroundings

What the program finds around it: files, and variables of the environment.

## Main definitions

* `Verdict.Surroundings` — files and environment.
* `Verdict.Surroundings.load` — what a file stands for.
* `Verdict.Surroundings.configuration` — the configuration that is in force.
-/

namespace Verdict

/-- What a program finds around it. -/
structure Surroundings where
  entry? : String → Option Entry
  environment : String → Option String

namespace Surroundings

/-- The text of a file that exists. -/
def text (around : Surroundings) (path : String) : Except Failure String :=
  match around.entry? path with
  | some (.file text) => .ok text
  | some .directory => .error (.inaccessible path)
  | some .unreadable => .error (.inaccessible path)
  | none => .error (.fileNotFound path)

/-- What a text stands for. -/
def parse {α : Type} (format : DataFormat) (read? : Node → Option α) (text : String) :
    Except Failure α :=
  match (format.parse? text).bind read? with
  | some a => .ok a
  | none => .error (.unparsable format)

/-- What a file in one of some formats stands for. -/
def load {α : Type} (around : Surroundings) (formats : List DataFormat) (read? : Node → Option α)
    (path : String) : Except Failure α :=
  if (around.entry? path).isNone then .error (.fileNotFound path)
  else
    match (DataFormat.ofPath? path).filter formats.contains with
    | none => .error (.invalidFormat path (", ".intercalate (formats.map DataFormat.name)))
    | some format => (around.text path).bind (parse format read?)

/-! ### Configurations -/

/-- The configuration in a file. -/
def loadConfiguration (around : Surroundings) (path : String) : Except Failure Configuration :=
  (around.text path).bind fun text =>
    match DataFormat.ofPath? path with
    | none => .error (.invalidFormat path "toml, yaml or json")
    | some format => parse format Configuration.ofNode? text

/-- The directory for the configuration of the user. -/
def userDirectory? (around : Surroundings) : Option String :=
  let base :=
    (around.environment "XDG_CONFIG_HOME").filter Path.isAbsolute <|>
      ((around.environment "HOME").filter fun home => !home.isEmpty).map fun home =>
        Path.join home ".config"
  base.map fun base => Path.join base Invocation.programName

/-- The file that a new configuration for the working directory is written to. -/
def localPath : String := ".fieldrules.toml"

/-- Where a configuration is looked for, in order. -/
def searchPaths (around : Surroundings) : List String :=
  [localPath, ".fieldrules.yaml", ".fieldrules.json"] ++
    (around.userDirectory?.map fun directory =>
      ["config.toml", "config.yaml", "config.json"].map (Path.join directory)).getD []

/-- The configuration at a path, or else in the first place that has one. -/
def configuration (around : Surroundings) (path? : Option String) :
    Except Failure Configuration :=
  match path? with
  | some path => around.loadConfiguration path
  | none =>
    match around.searchPaths.find? fun path => (around.entry? path).isSome with
    | some path => around.loadConfiguration path
    | none => .ok {}

end Surroundings

end Verdict
