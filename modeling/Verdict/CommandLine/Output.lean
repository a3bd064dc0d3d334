import Verdict.Errors.Basic
import Verdict.Json.Printer
import Verdict.Text.Spacing
import Verdict.Text.Style
import Verdict.Yaml.Printer

/-!
# What the program writes

Remarks for people are written in the human format only, and the less important ones not when the
program is to be quiet. Results are written in every format.

## Main definitions

* `Verdict.OutputFormat` — the formats of results.
* `Verdict.Presentation` — how output is presented.
* `Verdict.Presentation.report` — the report of validation errors.
* `Verdict.Presentation.table` — a table with headings.
-/

namespace Verdict

/-- A format of results. -/
inductive OutputFormat where
  | human
  | json
  | yaml
  | jsonPretty
  deriving Repr, DecidableEq

namespace OutputFormat

/-- All formats. -/
def all : List OutputFormat := [.human, .json, .yaml, .jsonPretty]

/-- The name of a format. -/
def name : OutputFormat → String
  | .human => "human"
  | .json => "json"
  | .yaml => "yaml"
  | .jsonPretty => "json-pretty"

/-- The format of a name. -/
def ofName? (name : String) : Option OutputFormat := all.find? fun f => f.name == name

/-- A value in a format; people get indented JSON. -/
def render : OutputFormat → Json → String
  | .json, v => v.compact
  | .yaml, v => Yaml.print v
  | .jsonPretty, v => v.pretty
  | .human, v => v.pretty

/-- One line of the human report: the path and the text of an error. -/
def errorLine (path : String) (e : FieldError) : String := "  " ++ path ++ ": " ++ e.text ++ "\n"

/-- Errors in a format: a line each for people, and a response otherwise. -/
def renderErrors (f : OutputFormat) (e : Errors) : String :=
  match f with
  | .human => String.join (e.toList.map fun item => errorLine item.1 item.2)
  | .json => f.render e.response
  | .yaml => f.render e.response
  | .jsonPretty => f.render e.response

end OutputFormat

/-- How output is presented. -/
structure Presentation where
  format : OutputFormat
  color : Bool
  quiet : Bool
  deriving Repr, DecidableEq

namespace Presentation

/-- Whether output is for people. -/
def isHuman (p : Presentation) : Bool := p.format == .human

/-- A text as a line. -/
def line (s : String) : String := s ++ "\n"

/-- A text in a style, where colours are used, and another one otherwise. -/
def styled (p : Presentation) (style : Text.Style) (colored plain : String) : String :=
  if p.color then style.paint colored else plain

/-- A remark on progress. -/
def info (p : Presentation) (message : String) : String :=
  if p.quiet || !p.isHuman then ""
  else line (p.styled .blue "ℹ" "INFO:" ++ " " ++ message)

/-- A remark on success. -/
def success (p : Presentation) (message : String) : String :=
  if p.quiet || !p.isHuman then "" else line (p.styled .green message message)

/-- A warning. -/
def warning (p : Presentation) (message : String) : String :=
  if !p.isHuman then "" else line (p.styled .yellow message ("WARNING: " ++ message))

/-- An error. -/
def error (p : Presentation) (message : String) : String :=
  if !p.isHuman then "" else line (p.styled .red message ("ERROR: " ++ message))

/-- The heading of a section, behind an empty line. -/
def heading (p : Presentation) (title : String) : String :=
  if p.quiet || !p.isHuman then ""
  else
    line "" ++
      line (p.styled .brightBlue ("═══ " ++ title ++ " ═══") ("=== " ++ title ++ " ==="))

/-- A text with a line break at its end. -/
def endLine (s : String) : String := if s.toList.getLast? = some '\n' then s else line s

/-- A result. -/
def data (p : Presentation) (v : Json) : String := endLine (p.format.render v)

/-- A line of the human report, its path in bold. -/
def emphasized (cs : List Char) : String :=
  match Text.splitAtFirst? [':', ' '] cs with
  | some (path, message) =>
    Text.Style.bold.paint (String.ofList path) ++ ": " ++ String.ofList message
  | none => String.ofList cs

/-- The report of validation errors. It is the result of a validation, so it is written even when
the program is to be quiet. -/
def report (p : Presentation) (e : Errors) : String :=
  if p.isHuman then
    p.error ("✗ Validation failed - " ++ toString e.size ++ " error(s)") ++
      String.join ((Text.lines (p.format.renderErrors e).toList).map fun cs =>
        line (if p.color then emphasized cs else String.ofList cs))
  else endLine (p.format.renderErrors e)

/-! ### Tables -/

/-- A text with blanks up to a width. -/
def padded (width : Nat) (s : String) : String :=
  s ++ String.ofList (List.replicate (width - s.length) ' ')

/-- The least widths that hold the cells of a row, for the columns that have one. -/
def widen (widths : List Nat) (cells : List String) : List Nat :=
  widths.zipIdx.map fun (width, i) => max width ((cells[i]?.map String.length).getD 0)

/-- The cells of a row padded to the widths of their columns; cells without a column stay as they
are. -/
def paddedCells : List Nat → List String → List String
  | _, [] => []
  | [], cell :: cells => cell :: paddedCells [] cells
  | width :: widths, cell :: cells => padded width cell :: paddedCells widths cells

/-- A table with headings. -/
def table (p : Presentation) (headings : List String) (rows : List (List String)) : String :=
  if p.quiet || !p.isHuman then ""
  else
    let widths := rows.foldl widen (headings.map String.length)
    let head := " │ ".intercalate (paddedCells widths headings)
    let rule := "─┼─".intercalate (widths.map fun w => String.ofList (List.replicate w '─'))
    line (p.styled .bold head head) ++ line rule ++
      String.join (rows.map fun cells =>
        line (String.ofList (Text.trimEnd (" │ ".intercalate (paddedCells widths cells)).toList)))

end Presentation

end Verdict
