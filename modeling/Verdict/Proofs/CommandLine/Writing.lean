import Mathlib.Data.List.Basic
import Verdict.CommandLine.Program
import Verdict.Proofs.CommandLine.Loading
import Verdict.Proofs.Files.Tree

/-!
# Runs that write

The program writes no file but a new configuration, if a command line asks for one, and then only
where there is none or where it may be overwritten. All other runs leave the files as they are.

## Main definitions

* `Verdict.FileTree.surroundings` — what a program finds in a tree of files.
* `Verdict.Run.among` — what a run comes to in a tree of files, and the tree after it.
* `Verdict.Surroundings.AsksFor` — a command line asks for a new configuration.

## Main results

* `Verdict.runProgram_of_asksFor` — what becomes of the tree if a new configuration is asked for.
* `Verdict.runProgram_of_not_asksFor` — otherwise the tree stays as it is.
-/

namespace Verdict

/-- What a program finds in a tree of files. -/
def FileTree.surroundings (t : FileTree) (environment : String → Option String) : Surroundings :=
  { entry? := t.entry?, environment := environment }

/-- What a run comes to in a tree of files, and the tree after it. -/
def Run.among (t : FileTree) : Run → Conclusion × FileTree
  | .done conclusion => (conclusion, t)
  | .store path text after =>
    match t.store? path text with
    | some t' => (after true, t')
    | none => (after false, t)

namespace Surroundings

/-- The path of a new configuration, which is for the working directory or for the user. -/
def initPath? (around : Surroundings) (user : Bool) : Option String :=
  if user then around.userDirectory?.map fun d => Path.join d "config.toml" else some localPath

/-- A command line asks for a new configuration at a path: the grammar understands it, there is a
configuration to present the output by, and nothing is at the path unless it may be overwritten. -/
structure AsksFor (around : Surroundings) (arguments : List String) (i : Invocation)
    (user force : Bool) (path : String) : Prop where
  read_eq : Invocation.read around.environment arguments = .ok i
  request_eq : i.request = .initConfig user force
  configured : ∃ c, around.Configured i.config? c
  path_eq : around.initPath? user = some path
  free : around.entry? path = none ∨ force = true

variable {around : Surroundings} {path : String} {user force : Bool}

/-! ### The text of a new configuration -/

/-- A new configuration is written in TOML.

**Proof sketch.** For the user, the last name of the path is that below the directory. -/
lemma formatFor_of_initPath? (h : around.initPath? user = some path) :
    DataFormat.ofPath? path = some .toml := by
  rw [initPath?] at h
  split_ifs at h with huser
  · obtain ⟨directory, -, rfl⟩ := Option.map_eq_some_iff.mp h
    rw [DataFormat.ofPath?, Path.extension?, Path.fileName?_join _ (by decide) (by decide)]
    decide
  · obtain rfl := Option.some.inj h
    decide

/-- The text of the default configuration is read as the default configuration. -/
lemma exists_default_text : ∃ text node, ({} : Configuration).render? .toml = some text ∧
    DataFormat.toml.parse? text = some node ∧ Configuration.ofNode? node = some {} := by
  have hround : ((({} : Configuration).render? .toml).bind fun text =>
      (DataFormat.toml.parse? text).bind Configuration.ofNode?) = some {} := by
    decide +kernel
  obtain ⟨text, htext, hround⟩ := Option.bind_eq_some_iff.mp hround
  obtain ⟨node, hnode, hread⟩ := Option.bind_eq_some_iff.mp hround
  exact ⟨text, node, htext, hnode, hread⟩

end Surroundings

section Runs

variable {around : Surroundings} {arguments : List String} {i : Invocation} {user force : Bool}
  {path : String}

/-! ### What is to be written -/

/-- A new configuration is to be written where its path is free, and then the success is that of
writing it.

**Proof sketch.** The path asks for TOML, in which there is a text for the default, and nothing
stands in the way. -/
lemma initConfiguration_of_free (p : Presentation) (hpath : around.initPath? user = some path)
    (hfree : around.entry? path = none ∨ force = true) :
    ∃ text node after, initConfiguration around p user force = .store path text after ∧
      DataFormat.toml.parse? text = some node ∧ Configuration.ofNode? node = some {} ∧
      (after true).result = .ok () ∧ (after false).result = .error (.inaccessible path) := by
  obtain ⟨text, node, htext, hnode, hread⟩ := Surroundings.exists_default_text
  have hformat : Configuration.formatFor path = .toml := by
    rw [Configuration.formatFor, Surroundings.formatFor_of_initPath? hpath]
    rfl
  have hmay : ¬((around.entry? path).isSome && !force) = true := by
    rcases hfree with hnone | rfl
    · simp [hnone]
    · simp
  rw [Surroundings.initPath?] at hpath
  rw [initConfiguration, hpath]
  dsimp only
  rw [if_neg hmay, hformat, htext]
  exact ⟨text, node, _, rfl, hnode, hread, rfl, rfl⟩

/-- Where no path for it is free, no new configuration is to be written.

**Proof sketch.** There is no path for it, or something is there that may not be overwritten. -/
lemma initConfiguration_of_not_free (p : Presentation)
    (h : ∀ path, around.initPath? user = some path →
      ¬(around.entry? path = none ∨ force = true)) :
    ∃ report, initConfiguration around p user force = .done report := by
  rw [initConfiguration]
  cases hpath : around.initPath? user with
  | none =>
    rw [Surroundings.initPath?] at hpath
    rw [hpath]
    exact ⟨_, rfl⟩
  | some path =>
    obtain ⟨hentry, hforce⟩ := not_or.mp (h path hpath)
    rw [Surroundings.initPath?] at hpath
    rw [hpath]
    dsimp only
    rw [if_pos (by simpa [Option.isSome_iff_ne_none] using And.intro hentry hforce)]
    exact ⟨_, rfl⟩

/-- Only what asks for a new configuration may write. -/
lemma perform_eq_done (h : ∀ user force, i.request ≠ .initConfig user force) (c : Configuration)
    (color : Bool) : ∃ report, i.perform around c color = .done report := by
  rw [Invocation.perform]
  cases hrequest : i.request with
  | initConfig user force => exact absurd hrequest (h user force)
  | validate | rules | showConfig | configPaths | completions => exact ⟨_, rfl⟩

/-- A command line that asks for a new configuration has the default written.

**Proof sketch.** The configuration to present the output by is there, so the request is performed,
and it is to write at the path (`initConfiguration_of_free`). -/
lemma runProgram_eq_store (h : around.AsksFor arguments i user force path) (terminal : Bool) :
    ∃ text node after, runProgram around terminal arguments = .store path text after ∧
      DataFormat.toml.parse? text = some node ∧ Configuration.ofNode? node = some {} ∧
      (after true).exitCode = 0 ∧
      (after false).exitCode = (Failure.inaccessible path).exitCode := by
  obtain ⟨c, hc⟩ := h.configured
  obtain ⟨text, node, after, hinit, hnode, hread, hyes, hno⟩ :=
    initConfiguration_of_free (i.presentation c (terminal && i.usesColor around)) h.path_eq h.free
  have hperform : i.perform around c (terminal && i.usesColor around) = .store path text after := by
    rw [Invocation.perform, h.request_eq]
    exact hinit
  rw [runProgram, h.read_eq]
  dsimp only
  rw [Invocation.run, Invocation.carryOut, Surroundings.configuration_eq_ok_iff.mpr hc]
  dsimp only
  rw [hperform]
  refine ⟨text, node, _, rfl, hnode, hread, ?_, ?_⟩
  · rw [Report.conclusion, hyes]
  · rw [Report.conclusion, hno]

/-- Any other command line writes nothing.

**Proof sketch.** A command line that is not understood and a configuration that cannot be loaded
end the run. Otherwise the request is performed, and of all requests only that for a new
configuration may write, but not here. -/
lemma runProgram_eq_done (h : ∀ i user force path, ¬around.AsksFor arguments i user force path)
    (terminal : Bool) : ∃ conclusion, runProgram around terminal arguments = .done conclusion := by
  rw [runProgram]
  cases hread : Invocation.read around.environment arguments with
  | error e => exact ⟨_, rfl⟩
  | ok i =>
    dsimp only
    rw [Invocation.run, Invocation.carryOut]
    cases hconfiguration : around.configuration i.config? with
    | error failure => exact ⟨_, rfl⟩
    | ok c =>
      have hc := Surroundings.configuration_eq_ok_iff.mp hconfiguration
      obtain ⟨report, hreport⟩ :
          ∃ report, i.perform around c (terminal && i.usesColor around) = .done report := by
        by_cases hrequest : ∃ user force, i.request = .initConfig user force
        · obtain ⟨user, force, hrequest⟩ := hrequest
          rw [Invocation.perform, hrequest]
          exact initConfiguration_of_not_free _ fun path hpath hfree =>
            h i user force path ⟨hread, hrequest, ⟨c, hc⟩, hpath, hfree⟩
        · exact perform_eq_done (fun user force hr => hrequest ⟨user, force, hr⟩) c _
      dsimp only
      rw [hreport]
      exact ⟨_, rfl⟩

end Runs

/-! ### Trees of files -/

section Trees

variable {t : FileTree} {environment : String → Option String} {arguments : List String}
  {i : Invocation} {user force : Bool} {path : String}

/-- **A new configuration is written where it is asked for.** If it can be written, the exit code is
that of success, and the tree gains this file and is as before in all else. If the path does not
lead upwards, the file is loaded as the default configuration, and it replaces no other one unless
it may. If nothing can be written at the path, the exit code is that of an inaccessible file, and
the tree stays as it is.

**Proof sketch.** The run is to write the default at the path (`runProgram_eq_store`), so what
becomes of the tree is what writing makes of it: `gains_of_store?`, `entry?_of_store?` and
`kept_of_store?`. Whether a file can be written does not depend on its text. -/
theorem runProgram_of_asksFor (h : (t.surroundings environment).AsksFor arguments i user force path)
    (terminal : Bool) :
    ∃ conclusion t', (runProgram (t.surroundings environment) terminal arguments).among t =
      (conclusion, t') ∧
      ((conclusion.exitCode = 0 ∧
          (∃ place text, t.place? true path = some place ∧ t.Gains place text t') ∧
          (".." ∉ Path.parts path →
            (t'.surroundings environment).loadConfiguration path = .ok {} ∧
            (force = false → ∀ other s, t.at? other = some (.file s) →
              t'.at? other = some (.file s)))) ∨
        (conclusion.exitCode = (Failure.inaccessible path).exitCode ∧ t' = t ∧
          ∀ text, t.store? path text = none)) := by
  obtain ⟨text, node, after, hrun, hnode, hread, hyes, hno⟩ := runProgram_eq_store h terminal
  rw [hrun, Run.among]
  cases hstore : t.store? path text with
  | some t' =>
    obtain ⟨place, hplace, hgains⟩ := FileTree.gains_of_store? hstore
    refine ⟨after true, t', rfl, Or.inl ⟨hyes, ⟨place, text, hplace, hgains⟩, fun hup => ⟨?_, ?_⟩⟩⟩
    · exact Surroundings.loadConfiguration_eq_ok_iff.mpr ⟨text, .toml, node,
        FileTree.entry?_of_store? hstore hup, Surroundings.formatFor_of_initPath? h.path_eq,
        Surroundings.mem_configurationFormats _, hnode, hread⟩
    · intro hforce other s hfile
      have hnone : t.entry? path = none := h.free.resolve_right (by simp [hforce])
      exact FileTree.kept_of_store? hstore hup hnone hfile
  | none =>
    refine ⟨after false, t, rfl, Or.inr ⟨hno, rfl, fun other => ?_⟩⟩
    exact FileTree.store?_eq_none_of_store? hstore other

/-- The configuration of an empty working directory. -/
example :
    let t : FileTree := ⟨[], ["work"]⟩
    let run := (runProgram (t.surroundings fun _ => none) false ["config", "init"]).among t
    run.1.exitCode = 0 ∧ run.2.files.map (·.1) = [["work", ".fieldrules.toml"]] := by
  decide +kernel

/-- **All other runs leave the files as they are.** -/
theorem runProgram_of_not_asksFor
    (h : ∀ i user force path, ¬(t.surroundings environment).AsksFor arguments i user force path)
    (terminal : Bool) :
    ((runProgram (t.surroundings environment) terminal arguments).among t).2 = t := by
  obtain ⟨conclusion, hrun⟩ := runProgram_eq_done h terminal
  rw [hrun, Run.among]

end Trees

end Verdict
