import Verdict.CommandLine.Configuration
import Verdict.CommandLine.LogFilter

/-!
# Logging

What is logged depends on how often the command line asks for more, on the configuration, and on the
environment, in that order.

## Main definitions

* `Verdict.LogFormat` — the formats of log lines.
* `Verdict.LoggingPlan` — what is logged.
* `Verdict.LoggingPlan.ofVerbosity` — the plan that the command line asks for.
* `Verdict.LoggingPlan.isValid` — whether its filters can be understood.
-/

namespace Verdict

/-- A format of log lines. -/
inductive LogFormat where
  | compact
  | full
  | json
  deriving Repr, DecidableEq

namespace LogFormat

/-- The name of a format. -/
def name : LogFormat → String
  | .compact => "compact"
  | .full => "full"
  | .json => "json"

/-- The format of a name in any mix of cases. -/
def ofName? (name : String) : Option LogFormat :=
  [compact, full, json].find? fun f => f.name.toList == name.toList.map Char.toLower

end LogFormat

/-- What is logged. -/
structure LoggingPlan where
  level : String := "warn"
  format : LogFormat := .compact
  console : Bool := true
  threadIds : Bool := false
  sourceLocation : Bool := false
  filters : Table String := []
  deriving Repr, DecidableEq

namespace LoggingPlan

/-- The plan of a command line that asks so many times for more. -/
def ofVerbosity : Nat → LoggingPlan
  | 0 => {}
  | 1 => { level := "info" }
  | 2 => { level := "debug", sourceLocation := true }
  | _ => { level := "trace", format := .full, sourceLocation := true, threadIds := true }

/-- Take over settings. Their level counts only if the command line asks for nothing. -/
def withSettings (p : LoggingPlan) (verbosity : Nat) (s : LoggingSettings) : LoggingPlan :=
  { p with
    level := if verbosity = 0 then s.level?.getD p.level else p.level
    format := (s.format?.bind LogFormat.ofName?).getD p.format
    filters := p.filters.merge s.filters }

/-- The variable that names a level or a filter. -/
def levelVariable : String := "RUST_LOG"

/-- The variable that names a format. -/
def formatVariable : String := "FIELDRULES_LOG_FORMAT"

/-- Take over what the environment says. -/
def withEnvironment (p : LoggingPlan) (environment : String → Option String) : LoggingPlan :=
  { p with
    level := (environment levelVariable).getD p.level
    format := ((environment formatVariable).bind LogFormat.ofName?).getD p.format }

/-- The plan of a program that is to be quiet. -/
def quieted (p : LoggingPlan) : LoggingPlan :=
  { p with level := "error", filters := [], console := false }

/-- Whether the level and the filters of a plan can be understood. -/
def isValid (p : LoggingPlan) : Bool :=
  LogFilter.isFilter p.level &&
    p.filters.all fun f => LogFilter.isDirective (f.1 ++ "=" ++ f.2).toList

/-- A plan as data. -/
def toJson (p : LoggingPlan) : Json :=
  .obj
    [("level", .str p.level), ("format", .str p.format.name), ("console", .bool p.console),
      ("thread_ids", .bool p.threadIds), ("source_location", .bool p.sourceLocation),
      ("module_filters", Json.ofTable p.filters)]

end LoggingPlan

end Verdict
