import Verdict.CommandLine.Grammar
import Verdict.Table

/-!
# Reading command lines

A command line is read from left to right, one command at a time: a subcommand reads the rest before
its command looks at what it was given itself. The value of an option is looked at only when the
next argument has shown that it is complete.

## Main definitions

* `Verdict.Found` — what a command line says about an argument.
* `Verdict.Matches` — what it says about the arguments of all commands along a path of subcommands.
* `Verdict.CommandGrammar.read` — what a command line says.
-/

namespace Verdict

/-- Where the value of an argument comes from. -/
inductive Origin where
  | environment
  | commandLine
  deriving Repr, DecidableEq

/-- What is known of an argument: where it was given, its value, and how often it was counted. -/
structure Found where
  origin : Origin
  value : String := ""
  count : Nat := 0
  deriving Repr, DecidableEq

/-- The greatest count of an option. -/
def countLimit : Nat := 255

/-- What a command line says. -/
structure Matches where
  /-- The subcommands, from the outermost one on. -/
  path : List String
  found : Table Found
  deriving Repr, DecidableEq

namespace Matches

/-- The value of an argument, if there is one. -/
def value? (m : Matches) (name : String) : Option String := (m.found.get? name).map Found.value

/-- How often an argument was counted. -/
def count (m : Matches) (name : String) : Nat := ((m.found.get? name).map Found.count).getD 0

/-- Add what a command knows to what its subcommand knows. The subcommand has precedence, except
that the command line prevails over the environment. -/
def under (inner : Matches) (name : String) (outer : Table Found) : Matches :=
  { path := name :: inner.path
    found := outer.foldl (fun found entry =>
      match found.get? entry.1 with
      | none => found.put entry.1 entry.2
      | some f =>
        if f.origin = .environment ∧ entry.2.origin = .commandLine then found.put entry.1 entry.2
        else found) inner.found }

end Matches

/-- How far a command has read its arguments. -/
structure CommandState where
  /-- The names of the commands up to this one. -/
  names : List String
  grammar : CommandGrammar
  /-- The global options of the commands around this one. -/
  globals : List Argument
  found : Table Found := []
  /-- The last argument that takes a value, with its value if it has come. -/
  pending? : Option (Argument × Option String) := none
  /-- Whether the next argument is a value unless it looks like an option. -/
  awaiting : Bool := false
  /-- The positional values that are still open. -/
  remaining : List Argument
  /-- Whether all that follows is positional. -/
  trailing : Bool := false

namespace CommandState

/-- A command that has read nothing yet. -/
def start (names : List String) (g : CommandGrammar) (globals : List Argument) : CommandState :=
  { names := names ++ [g.name], grammar := g, globals := globals, remaining := g.positionals }

/-- The global options for the subcommands of a command. -/
def passedOn (s : CommandState) : List Argument :=
  s.grammar.options.filter Argument.isGlobal ++ s.globals

/-- Take the value of an argument. An argument takes one value only. -/
def take (s : CommandState) (a : Argument) (kind : ValueKind) (origin : Origin) (value : String) :
    Except UsageError CommandState :=
  if s.found.has a.name then .error (.conflict a.name a.name)
  else
    match kind.problem? a.name value with
    | some problem => .error problem
    | none => .ok { s with found := s.found.put a.name { origin := origin, value := value } }

/-- Take the value that is pending, if there is one. -/
def settle (s : CommandState) : Except UsageError CommandState :=
  match s.pending? with
  | none => .ok s
  | some (a, none) => .error (.missingValue a.name)
  | some (a, some value) =>
    match a.role with
    | .valued kind => { s with pending? := none }.take a kind .commandLine value
    | .help | .version | .switch | .counter => .ok { s with pending? := none }

/-- Do what an option without a value asks for. -/
def apply (s : CommandState) (a : Argument) : Except UsageError CommandState :=
  s.settle.bind fun s =>
    match a.role with
    | .help => .error .helpRequested
    | .version => .error (.versionRequested ("-".intercalate s.names))
    | .switch =>
      if s.found.has a.name then .error (.conflict a.name a.name)
      else .ok { s with found := s.found.put a.name { origin := .commandLine, count := 1 } }
    | .counter =>
      let count := ((s.found.get? a.name).map Found.count).getD 0
      .ok { s with
        found := s.found.put a.name
          { origin := .commandLine, count := min countLimit (count + 1) } }
    | .valued _ => .ok s

/-- Read an option that takes a value, with the value if it is attached. -/
def expect (s : CommandState) (a : Argument) (kind : ValueKind) (attached? : Option String) :
    Except UsageError CommandState :=
  s.settle.bind fun s =>
    match attached? with
    | some value => (s.take a kind .commandLine value).map fun s => { s with awaiting := false }
    | none => .ok { s with pending? := some (a, none), awaiting := true }

/-- Read an option by its name, with what is behind an equals sign. -/
def readLong (s : CommandState) (name : String) (attached? : Option String) :
    Except UsageError CommandState :=
  match s.grammar.option? s.globals name with
  | none => .error (.unknownArgument ("--" ++ name))
  | some a =>
    match a.role with
    | .valued kind => s.expect a kind attached?
    | .help | .version | .switch | .counter =>
      if attached?.isSome then .error (.unexpectedValue a.name)
      else (s.apply a).map fun s => { s with awaiting := false }

/-- Read the letters behind one dash. What follows the letter of an option with a value is the
value. -/
def readShort (s : CommandState) : List Char → Except UsageError CommandState
  | [] => .ok { s with awaiting := false }
  | letter :: rest =>
    match s.grammar.short? s.globals letter with
    | none => .error (.unknownArgument (String.ofList ['-', letter]))
    | some a =>
      match a.role with
      | .valued kind =>
        s.expect a kind (match rest with
          | [] => none
          | '=' :: value => some (String.ofList value)
          | value => some (String.ofList value))
      | .help | .version | .switch | .counter => (s.apply a).bind fun s => readShort s rest

/-- Read a positional value. -/
def readPositional (s : CommandState) (value : String) : Except UsageError CommandState :=
  match s.remaining with
  | a :: more =>
    s.settle.map fun s =>
      { s with pending? := some (a, some value), awaiting := false, remaining := more }
  | [] =>
    if s.grammar.subcommands.isEmpty || (s.trailing && (s.grammar.subcommand? value).isSome) ||
        (s.trailing && value == CommandGrammar.helpName) then
      .error (.unknownArgument value)
    else .error (.unknownCommand value)

/-- Read one argument that names no subcommand. -/
def readArgument (s : CommandState) (argument : String) : Except UsageError CommandState :=
  if s.trailing then s.readPositional argument
  else
    match argument.toList with
    | ['-', '-'] => .ok { s with trailing := true }
    | '-' :: '-' :: long =>
      let name := String.ofList (long.takeWhile (· != '='))
      s.readLong name (match long.dropWhile (· != '=') with
        | [] => none
        | _ :: value => some (String.ofList value))
    | '-' :: letter :: letters => s.readShort (letter :: letters)
    | _ =>
      if s.awaiting then
        .ok { s with
          pending? := s.pending?.map fun p => (p.1, some argument), awaiting := false }
      else s.readPositional argument

/-- Give the arguments that are missing the values that the environment has for them. -/
def complete (s : CommandState) (environment : String → Option String) :
    Except UsageError CommandState :=
  (s.grammar.options ++ s.globals).foldlM (fun s a =>
    match a.role, a.environment?.bind environment with
    | .valued kind, some value =>
      if s.found.has a.name then .ok s else s.take a kind .environment value
    | _, _ => .ok s) s

/-- What is wrong with the arguments of a command as a whole, if anything is. -/
def problem? (s : CommandState) (hasSubcommand : Bool) : Option UsageError :=
  let arguments := s.grammar.options ++ s.globals ++ s.grammar.positionals
  let given (a : Argument) : Bool := s.found.has a.name
  let conflicts := arguments.flatMap fun a =>
    (a.excludes.filter fun other => given a && s.found.has other).map fun other =>
      UsageError.conflict a.name other
  if !hasSubcommand && !s.grammar.subcommands.isEmpty then
    some (if s.found.isEmpty then .nothingGiven else .missingCommand)
  else
    conflicts.head? <|>
      (arguments.find? fun a => a.isRequired && !given a).map fun a => .missingArgument a.name

/-- Look at the arguments of a command once all of them are read. -/
def finish (s : CommandState) (environment : String → Option String) (hasSubcommand : Bool) :
    Except UsageError (Table Found) :=
  s.settle.bind fun s =>
    (s.complete environment).bind fun s =>
      match s.problem? hasSubcommand with
      | some problem => .error problem
      | none => .ok s.found

/-- Read arguments. A name of a subcommand makes the subcommand read the rest. -/
def read (environment : String → Option String) (s : CommandState) :
    List String → Except UsageError Matches
  | [] => (s.finish environment false).map fun found => { path := [], found := found }
  | argument :: rest =>
    let step := (s.readArgument argument).bind fun s => read environment s rest
    if s.trailing || s.awaiting then step
    else
      match s.grammar.subcommand? argument with
      | some sub =>
        (read environment (start s.names sub s.passedOn) rest).bind fun inner =>
          (s.finish environment true).map fun found => inner.under sub.name found
      | none =>
        if argument = CommandGrammar.helpName ∧ !s.grammar.subcommands.isEmpty then
          .error (s.grammar.explain rest)
        else step

end CommandState

namespace CommandGrammar

/-- What a command line says. -/
def read (g : CommandGrammar) (environment : String → Option String) (arguments : List String) :
    Except UsageError Matches :=
  (CommandState.start [] g []).read environment arguments

end CommandGrammar

end Verdict
