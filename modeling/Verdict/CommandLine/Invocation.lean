import Verdict.CommandLine.Matches
import Verdict.CommandLine.Output
import Verdict.Data.Format

/-!
# Invocations

The commands of the program, and what a command line makes it do. The commands are also what a
script for a shell completes.

## Main definitions

* `Verdict.Request` — what the program is to do.
* `Verdict.Invocation` — a request with the options that all of them share.
* `Verdict.Invocation.read` — the invocation of a command line.
* `Verdict.Shell.script` — what makes a shell complete the commands of the program.
-/

namespace Verdict

/-- A shell that completions are written for. -/
inductive Shell where
  | bash
  | zsh
  | fish
  | powerShell
  | elvish
  deriving Repr, DecidableEq

namespace Shell

/-- All shells. -/
def all : List Shell := [.bash, .zsh, .fish, .powerShell, .elvish]

/-- The name of a shell on the command line. -/
def name : Shell → String
  | .bash => "bash"
  | .zsh => "zsh"
  | .fish => "fish"
  | .powerShell => "power-shell"
  | .elvish => "elvish"

/-- The shell of a name. -/
def ofName? (name : String) : Option Shell := all.find? fun s => s.name == name

end Shell

/-- A document to be validated and everything that is to override the configuration. -/
structure ValidationRequest where
  document : String
  schema : String
  module? : Option String := none
  lang? : Option String := none
  messages? : Option String := none
  tagKey? : Option String := none
  maxDepth? : Option Nat := none
  deriving Repr, DecidableEq

/-- What the program is to do. -/
inductive Request where
  | validate (request : ValidationRequest)
  | rules
  /-- Write a configuration, for the user or for the working directory. -/
  | initConfig (user force : Bool)
  | showConfig (format : DataFormat)
  | configPaths
  | completions (shell : Shell)
  deriving Repr, DecidableEq

/-- A request with the options that all of them share. -/
structure Invocation where
  request : Request
  /-- How often the command line asks for more to be logged. -/
  verbose : Nat := 0
  quiet : Bool := false
  /-- The path of the configuration. -/
  config? : Option String := none
  output? : Option OutputFormat := none
  noColor : Bool := false
  deriving Repr, DecidableEq

namespace Invocation

/-- The name of the program. -/
def programName : String := "fieldrules"

/-- The version of the program. -/
def programVersion : String := "0.1.0"

/-- The variable that names the file of the configuration. -/
def configVariable : String := "FIELDRULES_CONFIG"

/-! ### The grammar -/

/-- The options that all commands share. -/
def sharedOptions : List Argument :=
  [{ name := "verbose", short? := some 'v', role := .counter, isGlobal := true },
    { name := "quiet", short? := some 'q', role := .switch, isGlobal := true,
      excludes := ["verbose"] },
    { name := "config", short? := some 'c', role := .valued .path, isGlobal := true,
      environment? := some configVariable },
    { name := "output", short? := some 'o',
      role := .valued (.choice (OutputFormat.all.map OutputFormat.name)), isGlobal := true },
    { name := "no-color", role := .switch, isGlobal := true }]

/-- The command that validates a document. -/
def validateGrammar : CommandGrammar :=
  .mk "validate"
    [{ name := "schema", short? := some 's', role := .valued .path, isRequired := true },
      { name := "module", short? := some 'm', role := .valued .text },
      { name := "lang", short? := some 'l', role := .valued .text },
      { name := "messages", role := .valued .path },
      { name := "tag-key", role := .valued .text },
      { name := "max-depth", role := .valued .natural }]
    [{ name := "document", role := .valued .path, isRequired := true }] []

/-- The commands about configurations. -/
def configGrammar : CommandGrammar :=
  .mk "config" [] []
    [.mk "init" [{ name := "user", role := .switch }, { name := "force", role := .switch }] [] [],
      .mk "show"
        [{ name := "format", short? := some 'f',
           role := .valued (.choice ["toml", "json", "yaml"]) }] [] [],
      .mk "path" [] [] []]

/-- The command that writes completions. -/
def completionsGrammar : CommandGrammar :=
  .mk "completions" []
    [{ name := "shell", role := .valued (.choice (Shell.all.map Shell.name)),
       isRequired := true }] []

/-- The grammar of the command line. -/
def grammar : CommandGrammar :=
  .mk programName sharedOptions []
    [validateGrammar, .mk "rules" [] [] [], configGrammar, completionsGrammar]

/-! ### Invocations of command lines -/

/-- Whether a switch is on. -/
def isOn (m : Matches) (name : String) : Bool := m.found.has name

/-- The request of a command line that the grammar understands. -/
def request? (m : Matches) : Option Request :=
  match m.path with
  | ["validate"] =>
    (m.value? "document").bind fun document =>
      (m.value? "schema").map fun schema =>
        .validate
          { document, schema
            module? := m.value? "module"
            lang? := m.value? "lang"
            messages? := m.value? "messages"
            tagKey? := m.value? "tag-key"
            maxDepth? := (m.value? "max-depth").bind ValueKind.natural? }
  | ["rules"] => some .rules
  | ["config", "init"] => some (.initConfig (isOn m "user") (isOn m "force"))
  | ["config", "show"] =>
    some (.showConfig (((m.value? "format").bind DataFormat.ofName?).getD .toml))
  | ["config", "path"] => some .configPaths
  | ["completions"] => ((m.value? "shell").bind Shell.ofName?).map .completions
  | _ => none

/-- The invocation of a command line that the grammar understands. -/
def ofMatches? (m : Matches) : Option Invocation :=
  (request? m).map fun request =>
    { request
      verbose := m.count "verbose"
      quiet := isOn m "quiet"
      config? := m.value? "config"
      output? := (m.value? "output").bind OutputFormat.ofName?
      noColor := isOn m "no-color" }

/-- The invocation of a command line. -/
def read (environment : String → Option String) (arguments : List String) :
    Except UsageError Invocation :=
  (grammar.read environment arguments).bind fun m =>
    match ofMatches? m with
    | some invocation => .ok invocation
    | none => .error .missingCommand

/-- How often the command line asks for more to be logged; a quiet program does not ask. -/
def verbosity (i : Invocation) : Nat := if i.quiet then 0 else i.verbose

end Invocation

/-! ### Completions -/

namespace Shell

/-- The words that complete the name of the program. -/
def words : List String :=
  Invocation.grammar.subcommands.map CommandGrammar.name ++ [CommandGrammar.helpName]

/-- What makes a shell complete the commands of the program. -/
def script (shell : Shell) : String :=
  let program := Invocation.programName
  let list := " ".intercalate words
  (match shell with
    | .bash => "complete -W '" ++ list ++ "' " ++ program
    | .zsh => "compctl -k '(" ++ list ++ ")' " ++ program
    | .fish => "complete -c " ++ program ++ " -n __fish_use_subcommand -f -a '" ++ list ++ "'"
    | .powerShell =>
      "Register-ArgumentCompleter -Native -CommandName " ++ program ++
        " -ScriptBlock \x7b param($word) -split '" ++ list ++
        "' | Where-Object \x7b $_ -like \"$word*\" \x7d \x7d"
    | .elvish =>
      "set edit:completion:arg-completer[" ++ program ++ "] = \x7b|@words| put " ++ list ++
        " \x7d") ++ "\n"

end Shell

end Verdict
