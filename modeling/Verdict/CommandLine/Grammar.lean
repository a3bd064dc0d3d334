import Verdict.Number.Decimal
import Verdict.Number.Literal

/-!
# Grammars of command lines

A command takes options and positional values, and may have subcommands. An option with a value has
it attached behind an equals sign, or, for a short name, right behind the letter, or as the next
argument.

## Main definitions

* `Verdict.ValueKind` — the kinds of values.
* `Verdict.Argument` — an option or a positional value.
* `Verdict.CommandGrammar` — a command with its subcommands.
-/

namespace Verdict

/-- Why a command line is not carried out. The first two are no mistakes. -/
inductive UsageError where
  | helpRequested
  /-- The version of a command, by its full name. -/
  | versionRequested (command : String)
  /-- Nothing was given to a command that cannot do without. -/
  | nothingGiven
  | missingCommand
  | unknownCommand (name : String)
  | unknownArgument (argument : String)
  | missingArgument (name : String)
  | missingValue (name : String)
  | unexpectedValue (name : String)
  /-- A value that is none of the alternatives. -/
  | invalidValue (name value : String)
  /-- A value that cannot be read. -/
  | malformedValue (name value : String)
  /-- Two arguments that exclude each other, which may be the same one twice. -/
  | conflict (first second : String)
  deriving Repr, DecidableEq

namespace UsageError

/-- The exit code: answering a request is no failure. -/
def exitCode : UsageError → Nat
  | .helpRequested => 0
  | .versionRequested _ => 0
  | _ => 2

end UsageError

/-- The kinds of values. -/
inductive ValueKind where
  | text
  /-- A path must not be empty. -/
  | path
  | choice (names : List String)
  /-- A number of at most 64 bits. -/
  | natural
  deriving Repr, DecidableEq

namespace ValueKind

/-- The number that a text spells: digits, maybe behind a plus sign, of at most 64 bits. -/
def natural? (s : String) : Option Nat :=
  let digits := match s.toList with
    | '+' :: rest => rest
    | cs => cs
  if digits.isEmpty then none
  else (Literal.positional? 10 digits).filter (· < Literal.naturalLimit)

/-- What is wrong with a value of an argument, if anything is. -/
def problem? (kind : ValueKind) (name value : String) : Option UsageError :=
  match kind with
  | .text => none
  | .path => if value.isEmpty then some (.missingValue name) else none
  | .choice names => if names.contains value then none else some (.invalidValue name value)
  | .natural => if (natural? value).isSome then none else some (.malformedValue name value)

end ValueKind

/-- What an argument does. -/
inductive ArgumentRole where
  | help
  | version
  /-- It is on once it is given, and may be given once. -/
  | switch
  /-- It counts how often it is given. -/
  | counter
  | valued (kind : ValueKind)
  deriving Repr, DecidableEq

/-- An option or a positional value. -/
structure Argument where
  /-- The name, which for an option follows two dashes. -/
  name : String
  /-- The letter that follows one dash. -/
  short? : Option Char := none
  role : ArgumentRole
  isRequired : Bool := false
  /-- Whether the option is understood by all subcommands too. -/
  isGlobal : Bool := false
  /-- The options that must not be given beside this one. -/
  excludes : List String := []
  /-- The variable of the environment that gives a value where the command line does not. -/
  environment? : Option String := none
  deriving Repr, DecidableEq

/-- A command with its subcommands. -/
inductive CommandGrammar where
  | mk (name : String) (options positionals : List Argument) (subcommands : List CommandGrammar)

namespace CommandGrammar

/-- The name of a command. -/
def name : CommandGrammar → String
  | .mk name _ _ _ => name

/-- The options of a command. -/
def options : CommandGrammar → List Argument
  | .mk _ options _ _ => options

/-- The positional values of a command, in order. -/
def positionals : CommandGrammar → List Argument
  | .mk _ _ positionals _ => positionals

/-- The subcommands of a command. -/
def subcommands : CommandGrammar → List CommandGrammar
  | .mk _ _ _ subcommands => subcommands

/-- The subcommand of a name. -/
def subcommand? (g : CommandGrammar) (name : String) : Option CommandGrammar :=
  g.subcommands.find? fun sub => sub.name == name

/-- The options that every command has. -/
def standardOptions : List Argument :=
  [{ name := "help", short? := some 'h', role := .help },
    { name := "version", short? := some 'V', role := .version }]

/-- The option of a name among those that a command understands. -/
def option? (globals : List Argument) (g : CommandGrammar) (name : String) : Option Argument :=
  (g.options ++ globals ++ standardOptions).find? fun a => a.name == name

/-- The option of a letter among those that a command understands. -/
def short? (globals : List Argument) (g : CommandGrammar) (letter : Char) : Option Argument :=
  (g.options ++ globals ++ standardOptions).find? fun a => a.short? == some letter

/-- The subcommand that explains the others; only a command with subcommands has it. -/
def helpName : String := "help"

/-- Ask a command to explain a subcommand of a subcommand and so on. -/
def explain : CommandGrammar → List String → UsageError
  | _, [] => .helpRequested
  | g, name :: rest =>
    match g.subcommand? name with
    | some sub => explain sub rest
    | none =>
      if name = helpName ∧ !g.subcommands.isEmpty ∧ rest.isEmpty then .helpRequested
      else .unknownCommand name

end CommandGrammar

end Verdict
