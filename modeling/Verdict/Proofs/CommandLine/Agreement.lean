import Mathlib
import Verdict.CommandLine.Program
import Verdict.Proofs.CommandLine.Ending
import Verdict.Proofs.CommandLine.Loading
import Verdict.Proofs.Schema.Bound

/-!
# Verdict, exit code and output

A command line that asks for a validation has an exit code and writes something. Both agree with the
verdict of the validator: the exit code tells whether there are errors, or that the validator did
not run, and in a format for machines the output is the document for the errors, or nothing.

## Main definitions

* `Verdict.ValidationRequest.Engages` — everything that the validator needs is there.
* `Verdict.ValidationRequest.engine` — the validator that runs then.
* `Verdict.Conclusion.AgreesWith` — a conclusion agrees with the errors of a validation.

## Main results

* `Verdict.ValidationRequest.judge_eq_ok_iff` — the verdict is that of the validator.
* `Verdict.runProgram_agrees` — conclusions agree with the verdict.
-/

namespace Verdict

namespace ValidationRequest

/-- Everything that the validator needs is there: a schema; a document that is an object, read as a
record under the schema; a catalog, if one is named; and a language with a code, if there is one. -/
structure Engages (r : ValidationRequest) (c : ValidationSettings) (around : Surroundings)
    (schema : Schema) (catalog? : Option Catalog) (record : Record) : Prop where
  schema_file : around.Holds schemaFormats Schema.ofNode? r.schema schema
  document_file : ∃ members, around.Holds documentFormats Node.toJson? r.document (.obj members) ∧
    schema.bind (.obj members) = .ok record
  catalog_file : Option.Rel (around.Holds documentFormats Catalog.ofNode?)
    (r.messages? <|> c.messages?) catalog?
  language : (r.lang? <|> c.lang?) ≠ some ""

/-- The validator that runs on a document. -/
def engine (r : ValidationRequest) (c : ValidationSettings) (schema : Schema)
    (catalog? : Option Catalog) : Validator Record :=
  let plain : Validator Record :=
    ((Validator.new (r.moduleName c schema)).withMaxDepth (r.maxDepth?.getD c.maxDepth)).setTagKey
      (r.tagKey?.getD c.tagKey)
  let provided := (catalog?.map fun catalog => plain.withProvider catalog.provider).getD plain
  match r.lang? <|> c.lang? with
  | none => provided
  | some lang => (provided.localize lang).validator

variable {r : ValidationRequest} {c : ValidationSettings} {around : Surroundings}
  {schema : Schema} {catalog? : Option Catalog} {record : Record} {errors : Errors} {f : Failure}

/-! ### The verdict -/

/-- The catalog is what the file that is named stands for, and none is named for none.

**Proof sketch.** If a file is named, the catalog is what is loaded from it
(`Surroundings.load_eq_ok_iff`). -/
lemma catalog?_eq_ok_iff : r.catalog? c around = .ok catalog? ↔
    Option.Rel (around.Holds documentFormats Catalog.ofNode?) (r.messages? <|> c.messages?)
      catalog? := by
  rw [ValidationRequest.catalog?]
  cases r.messages? <|> c.messages? with
  | none => cases catalog? <;> simp
  | some path =>
    dsimp only
    cases hload : around.load documentFormats Catalog.ofNode? path with
    | error cause =>
      cases catalog? with
      | none => simp
      | some catalog => simp [← Surroundings.load_eq_ok_iff, hload]
    | ok found =>
      cases catalog? with
      | none => simp
      | some catalog => simp [← Surroundings.load_eq_ok_iff, hload]

/-- A catalog that cannot be loaded is no verdict. -/
lemma isReported_of_catalog? (h : r.catalog? c around = .error f) : f.isReported = false := by
  rw [ValidationRequest.catalog?] at h
  split at h
  · contradiction
  · split at h
    · contradiction
    · cases h
      rfl

/-- Without a usable catalog there is no validator. -/
lemma validator_of_catalog?_error (h : r.catalog? c around = .error f) (schema : Schema) :
    (r.validator c around schema).2 = .error f := by
  rw [validator, h]

/-- With a catalog, or none, the validator is the engine, unless the language has no code. -/
lemma validator_of_catalog? (h : r.catalog? c around = .ok catalog?) (schema : Schema) :
    (r.validator c around schema).2 =
      if (r.lang? <|> c.lang?) = some "" then .error (.unlocalizable .missingCode)
      else .ok (r.engine c schema catalog?) := by
  rw [validator, engine, h]
  dsimp only
  cases r.lang? <|> c.lang? with
  | none => simp
  | some lang =>
    by_cases hlang : lang = ""
    · simp [Validator.localize, hlang]
    · simp [Validator.localize, hlang]

/-- Without a validator, the failure is no verdict.

**Proof sketch.** There may be no catalog to use, or the language may have no code. -/
lemma isReported_of_validator (h : (r.validator c around schema).2 = .error f) :
    f.isReported = false := by
  cases hcatalog : r.catalog? c around with
  | error failure =>
    rw [validator_of_catalog?_error hcatalog] at h
    cases h
    exact isReported_of_catalog? hcatalog
  | ok catalog? =>
    rw [validator_of_catalog? hcatalog] at h
    split_ifs at h
    cases h
    rfl

/-- The verdict, one step after the other.

**Proof sketch.** By which step fails, if one does. The warnings on the way make no difference to
the verdict. -/
lemma judge_snd (r : ValidationRequest) (c : ValidationSettings) (around : Surroundings) :
    (r.judge c around).2 =
      (around.load schemaFormats Schema.ofNode? r.schema).bind fun schema =>
        (around.load documentFormats Node.toJson? r.document).bind fun document =>
          (r.validator c around schema).2.bind fun validator =>
            match schema.bind document with
            | .error cause => .error (.unbindable cause)
            | .ok record => .ok (validator.validate record).result := by
  rw [judge]
  cases around.load schemaFormats Schema.ofNode? r.schema with
  | error failure => rfl
  | ok schema =>
    cases around.load documentFormats Node.toJson? r.document with
    | error failure => rfl
    | ok document =>
      simp only [Except.bind, Except.map]
      obtain ⟨warnings, validator⟩ := r.validator c around schema
      cases validator with
      | error failure => rfl
      | ok validator => cases schema.bind document <;> rfl

/-- There is a verdict if and only if everything that the validator needs is there, and it is that
of the validator.

**Proof sketch.** The steps of `judge_snd` all succeed just if the schema, the document, the catalog
and the language are there (`Surroundings.load_eq_ok_iff`, `validator_of_catalog?`), and the record
is bound. Only objects are bound, so the document is one. -/
lemma judge_eq_ok_iff : (r.judge c around).2 = .ok errors ↔
    ∃ schema catalog? record, r.Engages c around schema catalog? record ∧
      ((r.engine c schema catalog?).validate record).result = errors := by
  simp only [judge_snd, except_bind_eq_ok_iff, Surroundings.load_eq_ok_iff]
  constructor
  · rintro ⟨schema, hschema, document, hdocument, validator, hvalidator, h⟩
    cases hcatalog : r.catalog? c around with
    | error failure =>
      rw [validator_of_catalog?_error hcatalog] at hvalidator
      contradiction
    | ok catalog? =>
      rw [validator_of_catalog? hcatalog] at hvalidator
      split_ifs at hvalidator with hlang
      obtain rfl := Except.ok.inj hvalidator
      cases hrecord : schema.bind document with
      | error cause => simp [hrecord] at h
      | ok record =>
        rw [hrecord] at h
        obtain ⟨members, rfl, -⟩ := Schema.fields_of_bind hrecord
        exact ⟨schema, catalog?, record, ⟨hschema, ⟨members, hdocument, hrecord⟩,
          catalog?_eq_ok_iff.mp hcatalog, hlang⟩, Except.ok.inj h⟩
  · rintro ⟨schema, catalog?, record, hengages, rfl⟩
    obtain ⟨members, hdocument, hrecord⟩ := hengages.document_file
    refine ⟨schema, hengages.schema_file, .obj members, hdocument, r.engine c schema catalog?, ?_,
      ?_⟩
    · rw [validator_of_catalog? (catalog?_eq_ok_iff.mpr hengages.catalog_file),
        if_neg hengages.language]
    · rw [hrecord]

/-- Without a verdict, the failure is none.

**Proof sketch.** One of the steps of `judge_snd` fails, and each of them with a failure that is no
verdict. -/
lemma isReported_of_judge (h : (r.judge c around).2 = .error f) : f.isReported = false := by
  simp only [judge_snd, except_bind_eq_error_iff] at h
  rcases h with h | ⟨schema, -, h | ⟨document, -, h | ⟨validator, -, h⟩⟩⟩
  · exact Surroundings.isReported_of_load h
  · exact Surroundings.isReported_of_load h
  · exact isReported_of_validator h
  · split at h <;> cases h
    rfl

end ValidationRequest

/-! ### Output -/

namespace Presentation

variable {p : Presentation}

/-- The formats for machines are those that are not for people. -/
lemma isHuman_eq_false (h : p.format ≠ .human) : p.isHuman = false := by
  simpa [isHuman] using h

/-- In a format for machines there are no remarks. -/
lemma info_of_machine (h : p.format ≠ .human) (message : String) : p.info message = "" := by
  rw [info, isHuman_eq_false h]
  simp

/-- A quiet program does not remark on progress. -/
lemma info_of_quiet (h : p.quiet = true) (message : String) : p.info message = "" := by
  rw [info, h]
  simp

/-- A quiet program does not remark on success. -/
lemma success_of_quiet (h : p.quiet = true) (message : String) : p.success message = "" := by
  rw [success, h]
  simp

/-- In a format for machines the report is the document for the errors. -/
lemma report_of_machine (h : p.format ≠ .human) {errors : Errors}
    (hinvalid : errors.isEmpty = false) :
    p.report errors = endLine (p.format.render errors.resultDocument) := by
  rw [report, isHuman_eq_false h, Errors.resultDocument, hinvalid, if_neg Bool.false_ne_true,
    if_neg Bool.false_ne_true]
  cases hformat : p.format with
  | human => exact absurd hformat h
  | json => rfl
  | yaml => rfl
  | jsonPretty => rfl

/-- For people there is a report, and being quiet makes no difference to it. -/
lemma report_of_human (h : p.format = .human) (errors : Errors) :
    p.report errors = report ⟨.human, p.color, false⟩ errors ∧ p.report errors ≠ "" := by
  obtain ⟨format, color, quiet⟩ := p
  obtain rfl : format = .human := h
  refine ⟨rfl, fun hempty => ?_⟩
  have hlength := congrArg String.length hempty
  simp [report, isHuman, error, line] at hlength

end Presentation

/-- A conclusion agrees with the errors of a validation. The exit code tells whether there are any.
In a format for machines the output is the document for them; one line break ends it, except maybe
in YAML, if the text of the last error ends in an empty line. People get a report if there are
errors, whether or not the program is to be quiet; and a quiet program writes nothing if there are
none. -/
structure Conclusion.AgreesWith (conclusion : Conclusion) (errors : Errors)
    (format : OutputFormat) (quiet : Bool) : Prop where
  exitCode_eq : conclusion.exitCode = if errors.isEmpty then 0 else 1
  output_eq : format ≠ .human →
    conclusion.output = Presentation.endLine (format.render errors.resultDocument)
  endsLine : format ≠ .human →
    (format = .yaml → ∀ text ∈ errors.lastText?, ¬EndsInEmptyLine text) →
      EndsLine conclusion.output
  valid_output : format = .human → errors.isEmpty = true → quiet = true → conclusion.output = ""
  invalid_output : format = .human → errors.isEmpty = false →
    ∃ progress color, conclusion.output =
        progress ++ Presentation.report ⟨.human, color, false⟩ errors ∧
      (quiet = true → progress = "") ∧ Presentation.report ⟨.human, color, false⟩ errors ≠ ""

namespace ValidationRequest

variable {r : ValidationRequest} {c : ValidationSettings} {around : Surroundings}

/-- Without a verdict there are no more than remarks on progress. -/
lemma carryOut_of_judge_error {f : Failure} (h : (r.judge c around).2 = .error f)
    (p : Presentation) : r.carryOut c around p =
      { result := .error f, output := p.info ("Validating " ++ r.document)
        warnings := (r.judge c around).1 } := by
  rw [carryOut]
  split <;> simp_all

/-- A verdict without errors is a success. -/
lemma carryOut_of_valid {errors : Errors} (h : (r.judge c around).2 = .ok errors)
    (hvalid : errors.isEmpty = true) (p : Presentation) : r.carryOut c around p =
      { output := p.info ("Validating " ++ r.document) ++
          p.success ("✓ " ++ r.document ++ " is valid") ++
            (if p.isHuman then "" else p.data errors.resultDocument)
        warnings := (r.judge c around).1 } := by
  rw [Errors.resultDocument, if_pos hvalid, carryOut]
  split <;> simp_all

/-- A verdict with errors is a failure with a report. -/
lemma carryOut_of_invalid {errors : Errors} (h : (r.judge c around).2 = .ok errors)
    (hinvalid : errors.isEmpty = false) (p : Presentation) : r.carryOut c around p =
      { result := .error (.invalid errors.size)
        output := p.info ("Validating " ++ r.document) ++ p.report errors
        warnings := (r.judge c around).1 ++ [.invalid errors.size] } := by
  rw [carryOut]
  split <;> simp_all

/-- In a format for machines nothing is written but the document for the errors.

**Proof sketch.** There are no remarks, and the document is the same whether it is written as data
or as a report. -/
lemma output_of_machine {errors : Errors} (h : (r.judge c around).2 = .ok errors)
    {p : Presentation} (hmachine : p.format ≠ .human) (complaints : List String) (color : Bool) :
    ((r.carryOut c around p).conclusion complaints "" color).output =
      Presentation.endLine (p.format.render errors.resultDocument) := by
  have hhuman := Presentation.isHuman_eq_false hmachine
  cases hempty : errors.isEmpty with
  | true =>
    rw [carryOut_of_valid h hempty, hhuman]
    simp [Report.conclusion, Presentation.info_of_machine hmachine, Presentation.success, hhuman,
      Presentation.data]
  | false =>
    rw [carryOut_of_invalid h hempty, ← Presentation.report_of_machine hmachine hempty]
    simp [Report.conclusion, Presentation.info_of_machine hmachine]

/-- With a verdict, the conclusion agrees with it.

**Proof sketch.** With errors or without, the report is known (`carryOut_of_invalid`,
`carryOut_of_valid`), and each part of the agreement is read off it. -/
lemma agreesWith_of_judge {errors : Errors} (h : (r.judge c around).2 = .ok errors)
    (p : Presentation) (complaints : List String) (color : Bool) :
    ((r.carryOut c around p).conclusion complaints "" color).AgreesWith errors p.format
      p.quiet where
  exitCode_eq := by
    cases hempty : errors.isEmpty with
    | true =>
      rw [carryOut_of_valid h hempty]
      rfl
    | false =>
      rw [carryOut_of_invalid h hempty]
      rfl
  output_eq hmachine := output_of_machine h hmachine complaints color
  endsLine hmachine hlast := by
    rw [output_of_machine h hmachine]
    exact OutputFormat.endsLine_render hlast
  valid_output hpeople hempty hquiet := by
    have hhuman : p.isHuman = true := by simpa [Presentation.isHuman] using hpeople
    rw [carryOut_of_valid h hempty, Presentation.info_of_quiet hquiet,
      Presentation.success_of_quiet hquiet, hhuman]
    rfl
  invalid_output hpeople hempty := by
    obtain ⟨hreport, hne⟩ := Presentation.report_of_human hpeople errors
    refine ⟨p.info ("Validating " ++ r.document), p.color, ?_,
      fun hquiet => Presentation.info_of_quiet hquiet _, hreport ▸ hne⟩
    rw [carryOut_of_invalid h hempty, hreport]
    rfl

/-- Without a verdict, the exit code is neither of success nor of a verdict, and in a format for
machines nothing is written. -/
lemma conclusion_of_judge_error {f : Failure} (h : (r.judge c around).2 = .error f)
    (p : Presentation) (complaints : List String) (color : Bool) :
    let conclusion := (r.carryOut c around p).conclusion complaints "" color
    (conclusion.exitCode ≠ 0 ∧ conclusion.exitCode ≠ 1) ∧
      (p.format ≠ .human → conclusion.output = "") := by
  rw [carryOut_of_judge_error h]
  exact ⟨Failure.exitCode_ne (isReported_of_judge h),
    fun hmachine => Presentation.info_of_machine hmachine _⟩

end ValidationRequest

/-- A validation comes to an end, under a configuration or without one.

**Proof sketch.** What is run depends on the configuration only, which is there or not. -/
lemma Invocation.run_validate {i : Invocation} {r : ValidationRequest}
    (h : i.request = .validate r) (around : Surroundings) (terminal : Bool) :
    ∃ complaints color, i.run around terminal = .done (Report.conclusion
      (match around.configuration i.config? with
        | .ok c => r.carryOut c.validation around (i.presentation c color)
        | .error failure => { result := .error failure }) complaints "" color) := by
  refine ⟨if (i.loggingPlan around).isValid then []
    else ["Failed to initialize logging: " ++ Failure.invalidLogFilter.text],
    terminal && i.usesColor around, ?_⟩
  rw [run, carryOut, script, h]
  cases around.configuration i.config? with
  | error failure => rfl
  | ok c =>
    dsimp only
    rw [perform, h]

section Programs

variable {around : Surroundings} {arguments : List String} {i : Invocation} {r : ValidationRequest}

/-- An invocation is for machines: the format that the command line asks for, or else the
configuration that is in force, is one of theirs. -/
def Invocation.IsForMachines (i : Invocation) (around : Surroundings) : Prop :=
  ∀ c, around.Configured i.config? c → i.output?.getD c.output.format ≠ .human

/-- If everything that the validator needs is there, then the conclusion agrees with its errors. -/
lemma agreesWith_of_engages {terminal : Bool}
    (hread : Invocation.read around.environment arguments = .ok i)
    (hrequest : i.request = .validate r) {conclusion : Conclusion}
    (hrun : runProgram around terminal arguments = .done conclusion) {c : Configuration}
    {schema : Schema} {catalog? : Option Catalog} {record : Record}
    (hc : around.Configured i.config? c)
    (hengages : r.Engages c.validation around schema catalog? record) :
    conclusion.AgreesWith ((r.engine c.validation schema catalog?).validate record).result
      (i.output?.getD c.output.format) i.quiet := by
  obtain ⟨complaints, color, hvalidate⟩ := i.run_validate hrequest around terminal
  rw [runProgram, hread] at hrun
  rw [Surroundings.configuration_eq_ok_iff.mpr hc] at hvalidate
  obtain rfl := Run.done.inj (hvalidate.symm.trans hrun)
  exact ValidationRequest.agreesWith_of_judge
    (ValidationRequest.judge_eq_ok_iff.mpr ⟨schema, catalog?, record, hengages, rfl⟩) _ _ _

/-- If anything is missing, then the exit code is neither of success nor of a verdict, and in a
format for machines nothing is written.

**Proof sketch.** Either no configuration is in force, or there is no verdict: with a verdict
everything would be there (`judge_eq_ok_iff`). -/
lemma conclusion_of_not_engages {terminal : Bool}
    (hread : Invocation.read around.environment arguments = .ok i)
    (hrequest : i.request = .validate r) {conclusion : Conclusion}
    (hrun : runProgram around terminal arguments = .done conclusion)
    (hmissing : ∀ c schema catalog? record, around.Configured i.config? c →
      ¬r.Engages c.validation around schema catalog? record) :
    (conclusion.exitCode ≠ 0 ∧ conclusion.exitCode ≠ 1) ∧
      (i.IsForMachines around → conclusion.output = "") := by
  obtain ⟨complaints, color, hvalidate⟩ := i.run_validate hrequest around terminal
  rw [runProgram, hread] at hrun
  obtain rfl := Run.done.inj (hvalidate.symm.trans hrun)
  cases hconfiguration : around.configuration i.config? with
  | error failure =>
    exact ⟨Failure.exitCode_ne (Surroundings.isReported_of_configuration hconfiguration),
      fun _ => rfl⟩
  | ok c =>
    have hc := Surroundings.configuration_eq_ok_iff.mp hconfiguration
    cases hjudge : (r.judge c.validation around).2 with
    | error failure =>
      obtain ⟨hexit, houtput⟩ := ValidationRequest.conclusion_of_judge_error hjudge
        (i.presentation c color) complaints color
      exact ⟨hexit, fun hmachine => houtput (hmachine c hc)⟩
    | ok errors =>
      obtain ⟨schema, catalog?, record, hengages, -⟩ := ValidationRequest.judge_eq_ok_iff.mp hjudge
      exact absurd hengages (hmissing c schema catalog? record hc)

/-- In a format for machines, command lines that ask for the same under the same configuration and
in the same format have the same output.

**Proof sketch.** If everything that the validator needs is there, both outputs are the document for
its errors. Otherwise both are empty. -/
lemma output_eq_of_same_request {terminal terminal' : Bool} {arguments' : List String}
    {i' : Invocation} (hread : Invocation.read around.environment arguments = .ok i)
    (hread' : Invocation.read around.environment arguments' = .ok i')
    (hrequest : i.request = .validate r) (hrequest' : i'.request = i.request)
    (hconfig : i'.config? = i.config?) (houtput : i'.output? = i.output?)
    (hmachines : i.IsForMachines around) {conclusion conclusion' : Conclusion}
    (hrun : runProgram around terminal arguments = .done conclusion)
    (hrun' : runProgram around terminal' arguments' = .done conclusion') :
    conclusion'.output = conclusion.output := by
  rw [hrequest] at hrequest'
  by_cases hengages : ∃ c schema catalog? record, around.Configured i.config? c ∧
      r.Engages c.validation around schema catalog? record
  · obtain ⟨c, schema, catalog?, record, hc, hengages⟩ := hengages
    have hagrees := agreesWith_of_engages hread hrequest hrun hc hengages
    have hagrees' := agreesWith_of_engages hread' hrequest' hrun' (hconfig ▸ hc) hengages
    rw [houtput] at hagrees'
    rw [hagrees'.output_eq (hmachines c hc), hagrees.output_eq (hmachines c hc)]
  · have hmissing : ∀ c schema catalog? record, around.Configured i.config? c →
        ¬r.Engages c.validation around schema catalog? record :=
      fun c schema catalog? record hc h => hengages ⟨c, schema, catalog?, record, hc, h⟩
    have hmachines' : i'.IsForMachines around := by
      rwa [Invocation.IsForMachines, hconfig, houtput]
    have hnone := conclusion_of_not_engages hread hrequest hrun hmissing
    have hnone' := conclusion_of_not_engages hread' hrequest' hrun' (hconfig ▸ hmissing)
    rw [hnone'.2 hmachines', hnone.2 hmachines]

/-- **The validate command has a conclusion that agrees with the verdict.** If everything that the
validator needs is there, and so it runs, then exit code and output are those for its errors, in the
format that the command line asks for, or else the configuration. Otherwise, whatever is missing,
the exit code is neither that of success nor that of a verdict, and in a format for machines the
output is empty. In a format for machines the output is the same for all command lines that ask for
the same under the same configuration, on a terminal or not, whether quiet, coloured or neither.

**Proof sketch.** The validate command comes to an end (`Invocation.run_validate`). The three parts
are `agreesWith_of_engages`, `conclusion_of_not_engages` and `output_eq_of_same_request`. -/
theorem runProgram_agrees (terminal : Bool)
    (hread : Invocation.read around.environment arguments = .ok i)
    (hrequest : i.request = .validate r) :
    ∃ conclusion, runProgram around terminal arguments = .done conclusion ∧
      (∀ c schema catalog? record, around.Configured i.config? c →
        r.Engages c.validation around schema catalog? record →
          conclusion.AgreesWith ((r.engine c.validation schema catalog?).validate record).result
            (i.output?.getD c.output.format) i.quiet) ∧
      ((∀ c schema catalog? record, around.Configured i.config? c →
          ¬r.Engages c.validation around schema catalog? record) →
        (conclusion.exitCode ≠ 0 ∧ conclusion.exitCode ≠ 1) ∧
          (i.IsForMachines around → conclusion.output = "")) ∧
      (i.IsForMachines around → ∀ terminal' arguments' i' conclusion',
        Invocation.read around.environment arguments' = .ok i' → i'.request = i.request →
          i'.config? = i.config? → i'.output? = i.output? →
            runProgram around terminal' arguments' = .done conclusion' →
              conclusion'.output = conclusion.output) := by
  obtain ⟨complaints, color, hvalidate⟩ := i.run_validate hrequest around terminal
  have hprogram : runProgram around terminal arguments = i.run around terminal := by
    rw [runProgram, hread]
  have hrun := hprogram.trans hvalidate
  refine ⟨_, hrun, ?_, ?_, ?_⟩
  · intro c schema catalog? record hc hengages
    exact agreesWith_of_engages hread hrequest hrun hc hengages
  · intro hmissing
    exact conclusion_of_not_engages hread hrequest hrun hmissing
  · intro hmachines terminal' arguments' i' conclusion' hread' hrequest' hconfig houtput hrun'
    exact output_eq_of_same_request hread hread' hrequest hrequest' hconfig houtput hmachines hrun
      hrun'

end Programs

/-! ### A schema with one name -/

/-- A schema in JSON, by which a name is required. -/
lemma Surroundings.holds_required_name (around : Surroundings)
    (h : around.entry? "s.json" =
      some (.file "\x7b\"fields\":\x7b\"Name\":\"required\"\x7d\x7d")) :
    around.Holds ValidationRequest.schemaFormats Schema.ofNode? "s.json"
      (.mk none [("Name", .bare "required")]) :=
  ⟨_, .json, .dict .json [(.str "fields", .dict .json [(.str "Name", .str "required")])], h,
    by decide +kernel, by decide, by cbv, by cbv⟩

/-- A document in JSON, without any name. -/
lemma Surroundings.holds_no_members (around : Surroundings)
    (h : around.entry? "a.json" = some (.file "\x7b\x7d")) :
    around.Holds ValidationRequest.documentFormats Node.toJson? "a.json" (.obj []) :=
  ⟨_, .json, .dict .json [], h, by decide +kernel, by decide, by cbv, by cbv⟩

/-- A document without a name that its schema requires, validated quietly for machines: the exit
code is that of a verdict, and the output is one line with the error.

**Proof sketch.** Everything that the validator needs is in the two files, so the law gives exit
code and output by its errors, and these are computed. -/
theorem runProgram_missing_name :
    let around : Surroundings := .ofFiles
      [("a.json", "\x7b\x7d"), ("s.json", "\x7b\"fields\":\x7b\"Name\":\"required\"\x7d\x7d")]
    ∃ conclusion, runProgram around false
        ["validate", "a.json", "--schema", "s.json", "--output", "json", "--quiet"] =
          .done conclusion ∧
      conclusion.exitCode = 1 ∧ conclusion.output =
        "\x7b\"message\":\"Validation Error(s)\",\"errors\":" ++
          "\x7b\"Name\":\"a Name cannot be blank\"\x7d\x7d\n" := by
  intro around
  let r : ValidationRequest := { document := "a.json", schema := "s.json" }
  let i : Invocation := { request := .validate r, quiet := true, output? := some .json }
  let schema : Schema := .mk none [("Name", .bare "required")]
  let record : Record := .plain [⟨"Name", .absent, [("validate", "required")], []⟩]
  have hread : Invocation.read around.environment
      ["validate", "a.json", "--schema", "s.json", "--output", "json", "--quiet"] = .ok i := rfl
  have hc : around.Configured i.config? {} := Surroundings.configured_default (by decide +kernel)
  have hengages : r.Engages {} around schema none record :=
    ⟨around.holds_required_name rfl, ⟨[], around.holds_no_members rfl, rfl⟩, .none, by decide⟩
  have herrors : ((r.engine {} schema none).validate record).result.toList =
      [("Name", .message "a Name cannot be blank")] := by
    have hevents : (r.engine {} schema none).scope.flatEvents record =
        [("Name", .message "a Name cannot be blank")] := by
      decide +kernel
    rw [Validator.toList_validate, hevents]
    decide
  have hinvalid : ¬((r.engine {} schema none).validate record).result.isEmpty = true := by
    rw [Errors.isEmpty_iff, herrors]
    simp
  obtain ⟨conclusion, hrun, hagrees, -, -⟩ := runProgram_agrees false hread rfl
  have hconclusion := hagrees {} schema none record hc hengages
  refine ⟨conclusion, hrun, by rw [hconclusion.exitCode_eq, if_neg hinvalid], ?_⟩
  rw [hconclusion.output_eq (by decide), Errors.resultDocument, if_neg hinvalid, herrors]
  decide +kernel

/-- A message of a catalog that ends in an empty line, in YAML: the line breaks at its end are kept,
and so more than one ends the output.

**Proof sketch.** The catalog is in a third file. By the law the output is the document for the
errors, which is computed; it ends in two line breaks. -/
theorem runProgram_empty_line :
    let around : Surroundings := .ofFiles
      [("a.json", "\x7b\x7d"), ("s.json", "\x7b\"fields\":\x7b\"Name\":\"required\"\x7d\x7d"),
        ("m.json", "\x7b\"en\":\x7b\"default.error.required\":\"blank\\n\\n\"\x7d\x7d")]
    let arguments := ["validate", "a.json", "--schema", "s.json", "--messages", "m.json", "--lang",
      "en", "--output", "yaml"]
    ∃ conclusion, runProgram around false arguments = .done conclusion ∧
      conclusion.output = "message: Validation Error(s)\nerrors:\n  Name: |+\n    blank\n\n" ∧
      ¬EndsLine conclusion.output := by
  intro around arguments
  let r : ValidationRequest :=
    { document := "a.json", schema := "s.json", messages? := some "m.json", lang? := some "en" }
  let i : Invocation := { request := .validate r, output? := some .yaml }
  let schema : Schema := .mk none [("Name", .bare "required")]
  let catalog : Catalog := [("en", [("default.error.required", "blank\n\n")])]
  let record : Record := .plain [⟨"Name", .absent, [("validate", "required")], []⟩]
  have hread : Invocation.read around.environment arguments = .ok i := rfl
  have hc : around.Configured i.config? {} := Surroundings.configured_default (by decide +kernel)
  have hcatalog : around.Holds ValidationRequest.documentFormats Catalog.ofNode? "m.json" catalog :=
    ⟨_, .json,
      .dict .json [(.str "en", .dict .json [(.str "default.error.required", .str "blank\n\n")])],
      rfl, by decide +kernel, by decide, by cbv, by cbv⟩
  have hengages : r.Engages {} around schema (some catalog) record :=
    ⟨around.holds_required_name rfl, ⟨[], around.holds_no_members rfl, rfl⟩, .some hcatalog,
      by decide⟩
  have herrors : ((r.engine {} schema (some catalog)).validate record).result.toList =
      [("Name", .message "blank\n\n")] := by
    have hevents : (r.engine {} schema (some catalog)).scope.flatEvents record =
        [("Name", .message "blank\n\n")] := by
      decide +kernel
    rw [Validator.toList_validate, hevents]
    decide
  obtain ⟨complaints, color, hvalidate⟩ := i.run_validate (r := r) rfl around false
  have hrun : runProgram around false arguments = i.run around false := by rw [runProgram, hread]
  rw [hvalidate] at hrun
  have houtput := (agreesWith_of_engages hread rfl hrun hc hengages).output_eq (by decide)
  rw [Errors.resultDocument, if_neg (by rw [Errors.isEmpty_iff, herrors]; simp), herrors] at houtput
  have htext := houtput.trans (show _ =
    "message: Validation Error(s)\nerrors:\n  Name: |+\n    blank\n\n" by decide +kernel)
  refine ⟨_, hrun, htext, not_endsLine_of_suffix ?_⟩
  rw [htext]
  decide +kernel

end Verdict
