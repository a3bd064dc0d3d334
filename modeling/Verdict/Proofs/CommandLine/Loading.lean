import Mathlib.Data.List.Basic
import Verdict.CommandLine.Surroundings

/-!
# What files stand for

A file is of use if it is there, its extension tells an accepted format, it can be read in this
format, and what is read can be used. Whatever is missing of this, the program fails in a way that
is no verdict on a document.

## Main definitions

* `Verdict.Surroundings.Holds` — a file stands for something.
* `Verdict.Surroundings.Configured` — a configuration is in force.
* `Verdict.Surroundings.ofFiles` — some files, and nothing else.

## Main results

* `Verdict.Failure.exitCode_ne` — the exit codes of failures that are no verdicts.
* `Verdict.Surroundings.load_eq_ok_iff`, `Verdict.Surroundings.configuration_eq_ok_iff` — what is
  loaded.
-/

namespace Verdict

/-- Two steps come to a result if the first does and the second does on it. -/
lemma except_bind_eq_ok_iff {ε α β : Type} {x : Except ε α} {next : α → Except ε β} {b : β} :
    x.bind next = .ok b ↔ ∃ a, x = .ok a ∧ next a = .ok b := by
  cases x <;> simp [Except.bind]

/-- Two steps fail if the first does, or the second on the result of the first. -/
lemma except_bind_eq_error_iff {ε α β : Type} {x : Except ε α} {next : α → Except ε β} {e : ε} :
    x.bind next = .error e ↔ x = .error e ∨ ∃ a, x = .ok a ∧ next a = .error e := by
  cases x <;> simp [Except.bind]

/-- A failure that is no verdict has neither the exit code of success nor that of a verdict. -/
lemma Failure.exitCode_ne {f : Failure} (h : f.isReported = false) :
    f.exitCode ≠ 0 ∧ f.exitCode ≠ 1 := by
  cases f with
  | invalid => exact absurd h (by simp [isReported])
  | unbindable | unlocalizable | inaccessible | fileNotFound | invalidFormat | unparsable
  | inexpressible | noUserDirectory | invalidLogFilter | during => simp [exitCode]

namespace Surroundings

variable {α : Type} {around : Surroundings} {formats : List DataFormat} {read? : Node → Option α}
  {path : String} {a : α} {f : Failure}

/-- There is a file at a path whose extension tells one of some formats. In this format its text is
that of a tree of data, which stands for something. -/
def Holds (around : Surroundings) (formats : List DataFormat) (read? : Node → Option α)
    (path : String) (a : α) : Prop :=
  ∃ text format node, around.entry? path = some (.file text) ∧
    DataFormat.ofPath? path = some format ∧ format ∈ formats ∧ format.parse? text = some node ∧
      read? node = some a

/-- The formats of configurations. -/
def configurationFormats : List DataFormat := [.toml, .yaml, .json]

/-- A configuration is in force: that at the path that is asked for, or else that in the first place
where there is something. Without any it is the default. -/
def Configured (around : Surroundings) (path? : Option String) (c : Configuration) : Prop :=
  match path? <|> around.searchPaths.find? fun path => (around.entry? path).isSome with
  | some path => around.Holds configurationFormats Configuration.ofNode? path c
  | none => c = {}

/-- Some files, and nothing else. -/
def ofFiles (files : Table String) : Surroundings :=
  { entry? := fun path => (files.get? path).map .file, environment := fun _ => none }

/-! ### Texts -/

/-- The text at a path is that of the file there. -/
lemma text_eq_ok_iff {text : String} :
    around.text path = .ok text ↔ around.entry? path = some (.file text) := by
  rw [Surroundings.text]
  split <;> simp_all

/-- A file that cannot be read is no verdict. -/
lemma isReported_of_text (h : around.text path = .error f) : f.isReported = false := by
  rw [Surroundings.text] at h
  split at h <;> cases h <;> rfl

/-- A text is parsed if it is that of a tree of data, and this stands for something. -/
lemma parse_eq_ok_iff {format : DataFormat} {text : String} :
    parse format read? text = .ok a ↔
      ∃ node, format.parse? text = some node ∧ read? node = some a := by
  rw [← Option.bind_eq_some_iff, parse]
  cases (format.parse? text).bind read? <;> simp

/-- A text that cannot be parsed is no verdict. -/
lemma isReported_of_parse {format : DataFormat} {text : String}
    (h : parse format read? text = .error f) : f.isReported = false := by
  rw [parse] at h
  split at h <;> cases h
  rfl

/-- The text of a file is read, and then parsed. -/
lemma bind_parse_eq_ok_iff {format : DataFormat} :
    (around.text path).bind (parse format read?) = .ok a ↔
      ∃ text node, around.entry? path = some (.file text) ∧ format.parse? text = some node ∧
        read? node = some a := by
  simp only [except_bind_eq_ok_iff, text_eq_ok_iff, parse_eq_ok_iff, exists_and_left]

/-- A file that cannot be read or parsed is no verdict. -/
lemma isReported_of_bind_parse {format : DataFormat}
    (h : (around.text path).bind (parse format read?) = .error f) : f.isReported = false := by
  obtain htext | ⟨text, -, hparse⟩ := except_bind_eq_error_iff.mp h
  · exact isReported_of_text htext
  · exact isReported_of_parse hparse

/-! ### Files -/

/-- What is loaded from a file is what it stands for.

**Proof sketch.** By whether something is at the path, whether its extension tells a format, and
whether this is one of those to choose from. -/
lemma load_eq_ok_iff :
    around.load formats read? path = .ok a ↔ around.Holds formats read? path a := by
  rw [load, Holds]
  cases hentry : around.entry? path with
  | none => simp
  | some entry =>
    rw [if_neg (by simp)]
    cases hformat : DataFormat.ofPath? path with
    | none => simp
    | some format =>
      by_cases hmem : format ∈ formats
      · rw [Option.filter_some_pos (by simpa using hmem)]
        dsimp only
        rw [bind_parse_eq_ok_iff, hentry]
        simp [hmem]
      · rw [Option.filter_some_neg (by simpa using hmem)]
        simp [hmem]

/-- A file that cannot be loaded is no verdict. -/
lemma isReported_of_load (h : around.load formats read? path = .error f) :
    f.isReported = false := by
  rw [load] at h
  split_ifs at h with hmissing
  · cases h
    rfl
  · split at h
    · cases h
      rfl
    · exact isReported_of_bind_parse h

/-! ### Configurations -/

/-- Configurations may be in any format. -/
lemma mem_configurationFormats (format : DataFormat) : format ∈ configurationFormats := by
  cases format <;> decide

/-- The configuration that is loaded from a path is the one that the file there stands for. -/
lemma loadConfiguration_eq_ok_iff {c : Configuration} : around.loadConfiguration path = .ok c ↔
    around.Holds configurationFormats Configuration.ofNode? path c := by
  rw [loadConfiguration, Holds]
  cases DataFormat.ofPath? path with
  | none => cases around.text path <;> simp [Except.bind]
  | some format =>
    rw [bind_parse_eq_ok_iff]
    simp [mem_configurationFormats]

/-- A configuration that cannot be loaded from a path is no verdict. -/
lemma isReported_of_loadConfiguration (h : around.loadConfiguration path = .error f) :
    f.isReported = false := by
  obtain htext | ⟨text, -, hparse⟩ := except_bind_eq_error_iff.mp h
  · exact isReported_of_text htext
  · split at hparse
    · cases hparse
      rfl
    · exact isReported_of_parse hparse

/-- The configuration that an invocation gets is the one that is in force. -/
lemma configuration_eq_ok_iff {path? : Option String} {c : Configuration} :
    around.configuration path? = .ok c ↔ around.Configured path? c := by
  rw [Configured]
  cases path? with
  | some path => exact loadConfiguration_eq_ok_iff
  | none =>
    rw [configuration]
    cases hfind : around.searchPaths.find? fun path => (around.entry? path).isSome with
    | some path => exact loadConfiguration_eq_ok_iff
    | none => simp [eq_comm]

/-- Where there is nothing, the configuration is the default. -/
lemma configured_default (h : ∀ path ∈ around.searchPaths, around.entry? path = none) :
    around.Configured none {} := by
  have hnone : around.searchPaths.find? (fun path => (around.entry? path).isSome) = none := by
    rw [List.find?_eq_none]
    intro path hpath
    simp [h path hpath]
  rw [Configured, hnone]
  rfl

/-- A configuration that cannot be loaded is no verdict. -/
lemma isReported_of_configuration {path? : Option String}
    (h : around.configuration path? = .error f) : f.isReported = false := by
  cases path? with
  | some path => exact isReported_of_loadConfiguration h
  | none =>
    rw [configuration] at h
    split at h
    · exact isReported_of_loadConfiguration h
    · contradiction

end Surroundings

end Verdict
