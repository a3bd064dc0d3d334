import Verdict.CommandLine.Failure
import Verdict.Value.Basic

/-!
# Reports

## Main definitions

* `Verdict.Warning` — the warnings of the program.
* `Verdict.Report` — what an invocation has done.
* `Verdict.Course` — what it does, up to a file that it may have to write.
-/

namespace Verdict

/-- A warning of the program. -/
inductive Warning where
  | noCatalog (lang : String)
  | invalid (count : Nat)
  /-- A notice of the validator. -/
  | noticed (notice : Notice)
  deriving Repr, DecidableEq

namespace Warning

/-- The wording of a warning. -/
def message : Warning → String
  | .noCatalog _ => "No message catalog configured; using default messages"
  | .invalid _ => "Validation failed"
  | .noticed notice => notice.message

/-- The details of a warning, by name. -/
def details : Warning → List (String × String)
  | .noCatalog lang => [("lang", lang)]
  | .invalid count => [("count", toString count)]
  | .noticed notice => notice.details

/-- The warnings among the events of a validation. -/
def ofEvents (events : Array (Event Record)) : List Warning :=
  ((events.toList.filterMap Event.notice?).filter fun n => n.level == .warn).map .noticed

end Warning

/-- What an invocation has done. -/
structure Report where
  result : Except Failure Unit := .ok ()
  output : String := ""
  warnings : List Warning := []

/-- What an invocation does: it is done, or it is to write a file, and what it has done depends on
whether that succeeds. -/
inductive Course where
  | done (report : Report)
  | store (path text : String) (after : Bool → Report)

end Verdict
