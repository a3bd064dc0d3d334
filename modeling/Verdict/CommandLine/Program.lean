import Verdict.CommandLine.Requests

/-!
# The program

What a command line does, given the surroundings, up to writing what comes out of it.

## Main definitions

* `Verdict.Conclusion` — what a run comes to.
* `Verdict.Run` — a run, up to a file that it may have to write.
* `Verdict.runProgram` — what a command line does.
-/

namespace Verdict

namespace Invocation

/-- What an invocation logs, whether or not there is a configuration. -/
def loggingPlan (i : Invocation) (around : Surroundings) : LoggingPlan :=
  let asked := LoggingPlan.ofVerbosity i.verbosity
  let configured :=
    match around.configuration i.config? with
    | .ok c => asked.withSettings i.verbosity c.logging
    | .error _ => asked
  let plan := configured.withEnvironment around.environment
  if i.quiet then plan.quieted else plan

/-- Whether an invocation uses colours on a terminal. -/
def usesColor (i : Invocation) (around : Surroundings) : Bool :=
  !i.noColor &&
    match around.configuration i.config? with
    | .ok c => c.output.color
    | .error _ => true

/-- The script that an invocation asks for. -/
def script (i : Invocation) : String :=
  match i.request with
  | .completions shell => shell.script
  | _ => ""

end Invocation

/-- What a run of the program comes to: an exit code, and what is written where. -/
structure Conclusion where
  exitCode : Nat
  output : String := ""
  /-- The lines about what went wrong. -/
  complaints : List String := []
  deriving Repr, DecidableEq

/-- What a run comes to after a report. -/
def Report.conclusion (r : Report) (earlier : List String) (script : String) (color : Bool) :
    Conclusion :=
  match r.result with
  | .ok () => { exitCode := 0, output := r.output ++ script, complaints := earlier }
  | .error failure =>
    { exitCode := failure.exitCode
      output := r.output
      complaints := earlier ++ if failure.isReported then [] else [failure.complaint color] }

/-- What a run does: it comes to an end, or it is to write a file first. -/
inductive Run where
  | done (conclusion : Conclusion)
  | store (path text : String) (after : Bool → Conclusion)

/-- What a command line does that the grammar understands. -/
def Invocation.run (i : Invocation) (around : Surroundings) (terminal : Bool) : Run :=
  let color := terminal && i.usesColor around
  let complaints :=
    if (i.loggingPlan around).isValid then []
    else ["Failed to initialize logging: " ++ Failure.invalidLogFilter.text]
  let conclude (r : Report) : Conclusion := r.conclusion complaints i.script color
  match i.carryOut around color with
  | .done report => .done (conclude report)
  | .store path text after => .store path text fun stored => conclude (after stored)

/-- What the program says to a command line that asks for something else than work. -/
def UsageError.conclusion (e : UsageError) : Conclusion :=
  let usage := "Usage: " ++ Invocation.programName ++ " [OPTIONS] <COMMAND>\n\nCommands: " ++
    ", ".intercalate Shell.words ++ "\n"
  match e with
  | .helpRequested => { exitCode := e.exitCode, output := usage }
  | .versionRequested command =>
    { exitCode := e.exitCode, output := command ++ " " ++ Invocation.programVersion ++ "\n" }
  | _ => { exitCode := e.exitCode, complaints := [usage] }

/-- What a command line does. -/
def runProgram (around : Surroundings) (terminal : Bool) (arguments : List String) : Run :=
  match Invocation.read around.environment arguments with
  | .error e => .done e.conclusion
  | .ok i => i.run around terminal

end Verdict
