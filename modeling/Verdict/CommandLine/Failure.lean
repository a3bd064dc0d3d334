import Verdict.Data.Format
import Verdict.Schema.Basic
import Verdict.Text.Style
import Verdict.Validator.Basic

/-!
# Failures

Why the program does not succeed, with the wording and the exit code of every cause.

## Main definitions

* `Verdict.Failure` — a cause.
* `Verdict.Failure.text` — its wording.
* `Verdict.Failure.exitCode` — the exit code it leads to.
-/

namespace Verdict

/-- Why the program does not succeed. -/
inductive Failure where
  /-- The document is not valid; the errors are on record already. -/
  | invalid (count : Nat)
  | unbindable (cause : BindError)
  | unlocalizable (cause : LanguageError)
  /-- A file cannot be read or written. -/
  | inaccessible (path : String)
  | fileNotFound (path : String)
  /-- The extension of a file tells none of the formats that are expected. -/
  | invalidFormat (path expected : String)
  /-- A file is not in its format, or not for its purpose. -/
  | unparsable (format : DataFormat)
  /-- A configuration holds what its format cannot express. -/
  | inexpressible
  /-- It is not known where the configuration of the user is. -/
  | noUserDirectory
  | invalidLogFilter
  /-- A failure with what was going on. -/
  | during (activity : String) (cause : Failure)
  deriving Repr, DecidableEq

/-- How failures call a format. -/
def DataFormat.title : DataFormat → String
  | .toml => "TOML"
  | .yaml => "YAML"
  | .json => "JSON"

namespace Failure

/-- The wording of a failure. -/
def text : Failure → String
  | .invalid count => toString count ++ " field(s) failed validation"
  | .unbindable cause => cause.message
  | .unlocalizable cause => cause.message
  | .inaccessible path => "IO error: cannot access " ++ path
  | .fileNotFound path => "File not found: " ++ path
  | .invalidFormat path expected => "Invalid file format for " ++ path ++ ": expected " ++ expected
  | .unparsable format => format.title ++ " error: not a usable document"
  | .inexpressible => DataFormat.toml.title ++ " error: a value is out of range"
  | .noUserDirectory => "Configuration error: Unable to determine user config directory"
  | .invalidLogFilter => "Configuration error: Invalid log filter"
  | .during activity cause => activity ++ ": " ++ cause.text

/-- The exit code of a failure. -/
def exitCode : Failure → Nat
  | .invalid _ => 1
  | .unbindable _ | .unlocalizable _ | .invalidFormat _ _ | .unparsable _ => 65
  | .fileNotFound _ => 66
  | .inaccessible _ | .inexpressible => 74
  | .noUserDirectory | .invalidLogFilter => 78
  | .during _ _ => 99

/-- Whether the output tells of a failure already. -/
def isReported : Failure → Bool
  | .invalid _ => true
  | _ => false

/-- The line that tells of a failure. -/
def complaint (f : Failure) (color : Bool) : String :=
  (if color then Text.Style.alarm.paint "Error:" else "Error:") ++ " " ++ f.text

end Failure

end Verdict
