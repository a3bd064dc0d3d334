import Verdict.CommandLine.Output
import Verdict.Proofs.Text.Spacing
import Verdict.Proofs.Walk.Flat
import Verdict.Proofs.Walk.Place

/-!
# The report for people

The report for people is meant to have one line for each path. It is first written as one text, with
a line feed behind each error, and this text is then read line by line. The paths and the texts of
the errors are written as they are, and they are arbitrary: keys of maps and values may hold line
feeds. So the report has one line more for each of these, and a line that ends in a carriage return
loses it.

## Main definitions

* `Verdict.Errors.rows` — the lines that the report is meant to have.
* `Verdict.Errors.shownRows` — the lines that the text has.
* `Verdict.Errors.lineFeeds` — how many lines this is more.

## Main results

* `Verdict.Presentation.hasLines_report` — the lines of the report.
* `Verdict.Presentation.report_lines_iff` — when they are the ones that are meant.
* `Verdict.Presentation.report_forged_line` — a value that adds a line.
-/

namespace Verdict

namespace Errors

/-- The line for each path: two blanks, the path, a colon and a blank, and the text of its error. -/
def rows (e : Errors) : List String :=
  e.toList.map fun item => "  " ++ item.1 ++ ": " ++ item.2.text

/-- These lines, cut at the line feeds in them. -/
def shownRows (e : Errors) : List String := e.rows.flatMap Text.pieces

/-- How many line feeds there are in the paths and the texts. -/
def lineFeeds (e : Errors) : Nat :=
  (e.toList.flatMap fun item => item.1.toList ++ item.2.text.toList).count '\n'

/-- The line in front of the others. -/
def countLine (e : Errors) : String :=
  "ERROR: ✗ Validation failed - " ++ toString e.size ++ " error(s)"

variable {e : Errors}

/-- The number of errors is the length of their list. -/
lemma size_eq_length (e : Errors) : e.size = e.toList.length := Array.length_toList.symm

/-- The line feeds in a line are those in its path and its text. -/
lemma count_row (item : String × FieldError) :
    ("  " ++ item.1 ++ ": " ++ item.2.text).toList.count '\n' =
      (item.1.toList ++ item.2.text.toList).count '\n' := by
  have hblanks : "  ".toList.count '\n' = 0 := by decide
  have hcolon : ": ".toList.count '\n' = 0 := by decide
  simp only [String.toList_append, List.count_append, hblanks, hcolon, Nat.zero_add, Nat.add_zero]

/-- Each line feed makes for one more line.

**Proof sketch.** Induction on the errors. A line has one piece more than line feeds, and its line
feeds are those in its path and its text. -/
lemma length_shownRows (e : Errors) : e.shownRows.length = e.size + e.lineFeeds := by
  rw [size_eq_length, shownRows, rows, lineFeeds]
  induction e.toList with
  | nil => rfl
  | cons item items ih =>
    rw [List.map_cons, List.flatMap_cons, List.length_append, ih, Text.length_pieces, count_row,
      List.length_cons, List.flatMap_cons]
    simp only [List.count_append]
    omega

/-- There are no line feeds if and only if there is none in any line. -/
lemma lineFeeds_eq_zero_iff : e.lineFeeds = 0 ↔ ∀ row ∈ e.rows, '\n' ∉ row.toList := by
  simp only [← List.count_eq_zero, rows, List.forall_mem_map, count_row]
  simp only [lineFeeds, List.count_eq_zero, List.mem_flatMap, not_exists, not_and]

/-- Without line feeds in them the lines stay as they are. -/
lemma shownRows_eq_rows (h : e.lineFeeds = 0) : e.shownRows = e.rows :=
  Text.flatMap_pieces_of_unbroken (lineFeeds_eq_zero_iff.mp h)

/-- A line ends in a carriage return if and only if the text of its error does.

**Proof sketch.** In front of the text there is a blank, so that an empty text does not end the line
in a carriage return. -/
lemma getLast?_row (item : String × FieldError) :
    ("  " ++ item.1 ++ ": " ++ item.2.text).toList.getLast? = some '\r' ↔
      item.2.text.toList.getLast? = some '\r' := by
  have hblank : ("  " ++ item.1 ++ ": ").toList.getLast? = some ' ' := by
    have hcolon : ": ".toList = [':', ' '] := by decide
    rw [String.toList_append, hcolon, List.getLast?_append_of_ne_nil _ (List.cons_ne_nil _ _)]
    rfl
  rw [String.toList_append, List.getLast?_append, hblank]
  cases item.2.text.toList.getLast? with
  | none => simp
  | some c => rfl

/-- No line changes without carriage returns at the end if and only if no text ends in one. -/
lemma map_dropReturn_rows_eq_iff : e.rows.map Text.dropReturn = e.rows ↔
    ∀ item ∈ e.toList, item.2.text.toList.getLast? ≠ some '\r' := by
  rw [rows, List.map_map, List.map_inj_left]
  exact forall₂_congr fun item _ =>
    Text.dropReturn_eq_self_iff.trans (not_congr (getLast?_row item))

/-- The line in front holds no line feed. -/
lemma notMem_countLine (e : Errors) : '\n' ∉ e.countLine.toList := by
  have hdigits (n : Nat) : '\n' ∉ (toString n).toList := mt isDigit_of_mem_toString (by decide)
  unfold countLine
  simp only [String.toList_append, List.mem_append, not_or]
  exact ⟨⟨by decide, hdigits e.size⟩, by decide⟩

end Errors

namespace OutputFormat

/-- The text for people consists of the lines of the errors, cut at the line feeds in them. -/
lemma hasLines_renderErrors (e : Errors) :
    Text.HasLines (human.renderErrors e) e.shownRows := by
  have hjoin : human.renderErrors e = String.join (e.rows.map fun row => row ++ "\n") := by
    rw [Errors.rows, List.map_map]
    rfl
  rw [hjoin]
  exact Text.hasLines_join e.rows

end OutputFormat

namespace Presentation

/-- The report consists of the line in front and of the lines of the text, each without a carriage
return at its end. -/
lemma hasLines_report (quiet : Bool) (e : Errors) :
    Text.HasLines (report ⟨.human, false, quiet⟩ e)
      (e.countLine :: e.shownRows.map Text.dropReturn) := by
  have htext := OutputFormat.hasLines_renderErrors e
  have hunbroken : ∀ row ∈ e.shownRows.map Text.dropReturn, '\n' ∉ row.toList :=
    List.forall_mem_map.mpr fun row hrow => Text.notMem_dropReturn (htext.unbroken row hrow)
  have hbelow := Text.hasLines_join (e.shownRows.map Text.dropReturn)
  rw [Text.flatMap_pieces_of_unbroken hunbroken, ← htext.lines_eq, List.map_map] at hbelow
  rw [← htext.lines_eq]
  exact hbelow.cons e.notMem_countLine

/-- **The lines of the report for people.** There is one for each path and one for each line feed in
a path or a text. So they are the lines that are meant, in the text and in the report, if and only
if there is no such line feed, and in the report no text ends in a carriage return.

**Proof sketch.** The text consists of the lines of the errors cut at their line feeds
(`OutputFormat.hasLines_renderErrors`), and the report of the line in front and these without
carriage returns (`hasLines_report`). A text has one list of lines only (`Text.HasLines.unique`), so
it is enough to compare. -/
theorem report_lines_iff (e : Errors) (quiet : Bool) :
    let text := OutputFormat.human.renderErrors e
    let shown := report ⟨.human, false, quiet⟩ e
    (∀ lines, Text.HasLines text lines → lines.length = e.size + e.lineFeeds) ∧
      (Text.HasLines text e.rows ↔ e.lineFeeds = 0) ∧
      Text.HasLines text e.shownRows ∧
      Text.HasLines shown (e.countLine :: e.shownRows.map Text.dropReturn) ∧
      (Text.HasLines shown (e.countLine :: e.rows) ↔
        e.lineFeeds = 0 ∧ ∀ item ∈ e.toList, item.2.text.toList.getLast? ≠ some '\r') := by
  intro text shown
  have htext := OutputFormat.hasLines_renderErrors e
  have hshown := hasLines_report quiet e
  refine ⟨fun lines hlines => ?_, ⟨fun hrows => ?_, fun hnone => ?_⟩, htext, hshown, ?_⟩
  · rw [hlines.unique htext, e.length_shownRows]
  · exact Errors.lineFeeds_eq_zero_iff.mpr hrows.unbroken
  · rw [← Errors.shownRows_eq_rows hnone]
    exact htext
  · constructor
    · intro hrows
      have hnone := Errors.lineFeeds_eq_zero_iff.mpr (List.forall_mem_cons.mp hrows.unbroken).2
      have hsame := (List.cons.inj (hrows.unique hshown)).2
      rw [Errors.shownRows_eq_rows hnone] at hsame
      exact ⟨hnone, Errors.map_dropReturn_rows_eq_iff.mp hsame.symm⟩
    · rintro ⟨hnone, hends⟩
      rw [Errors.shownRows_eq_rows hnone, Errors.map_dropReturn_rows_eq_iff.mpr hends] at hshown
      exact hshown

/-- A value with a line feed is too long, and the report has its error on two lines, of which the
second looks like the line of another path. A value with a carriage return at its end, in a message
that ends with the value, is one line of the text, but the report drops the carriage return.

**Proof sketch.** The errors of both records are computed, and the lines of their reports are known
by `hasLines_report`. -/
theorem report_forged_line :
    let v : Validator Record := Validator.new "Document"
    let record (name : String) : Record :=
      .plain [⟨"Name", .str name, [("validate", "max=1")], []⟩]
    let e := (v.validate (record "a\n  Total: forged")).result
    let returned := ((v.withDefaults [("max", "bad $\x7b2\x7d")]).validate (record "a\r")).result
    (e.size = 1 ∧ ¬Text.HasLines (OutputFormat.human.renderErrors e) e.rows ∧
      Text.HasLines (report ⟨.human, false, false⟩ e)
        ["ERROR: ✗ Validation failed - 1 error(s)", "  Name: Document a",
          "  Total: forged exceeds maximum value 1"]) ∧
    returned.rows = ["  Name: bad a\r"] ∧ Text.HasLines (report ⟨.human, false, false⟩ returned)
      ["ERROR: ✗ Validation failed - 1 error(s)", "  Name: bad a"] := by
  intro v record e returned
  have hlist : e.toList =
      [("Name", .message "Document a\n  Total: forged exceeds maximum value 1")] := by
    have hevents : v.scope.flatEvents (record "a\n  Total: forged") =
        [("Name", .message "Document a\n  Total: forged exceeds maximum value 1")] := by
      decide +kernel
    rw [Validator.toList_validate, hevents]
    rfl
  have hreturned : returned.toList = [("Name", .message "bad a\r")] := by
    have hevents : (v.withDefaults [("max", "bad $\x7b2\x7d")]).scope.flatEvents (record "a\r") =
        [("Name", .message "bad a\r")] := by
      decide +kernel
    rw [Validator.toList_validate, hevents]
    rfl
  have hshown := hasLines_report false e
  have hdropped := hasLines_report false returned
  unfold Errors.countLine at hshown hdropped
  rw [Errors.size_eq_length, Errors.shownRows, Errors.rows, hlist] at hshown
  rw [Errors.size_eq_length, Errors.shownRows, Errors.rows, hreturned] at hdropped
  refine ⟨⟨?_, fun hrows => ?_, ?_⟩, ?_, ?_⟩
  · rw [Errors.size_eq_length, hlist]
    rfl
  · have hunbroken := hrows.unbroken
    rw [Errors.rows, hlist] at hunbroken
    exact absurd (hunbroken _ List.mem_cons_self) (by decide)
  · convert hshown using 1
    decide +kernel
  · rw [Errors.rows, hreturned]
    rfl
  · convert hdropped using 1
    decide +kernel

end Presentation

end Verdict
