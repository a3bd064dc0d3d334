import Verdict.CommandLine.Report
import Verdict.CommandLine.Surroundings
import Verdict.Errors.Basic
import Verdict.Schema.Json

/-!
# Validating a document

A request to validate a document is answered in two steps: the validator comes to a verdict on the
document, and the verdict becomes output and result. The validator does not run at all if a file is
missing or of no use, if the language has no code, or if the document is no object.

## Main definitions

* `Verdict.ValidationRequest.judge` — the verdict of the validator.
* `Verdict.ValidationRequest.carryOut` — the verdict as output and result.
-/

namespace Verdict

namespace ValidationRequest

/-- The formats of documents and catalogs. -/
def documentFormats : List DataFormat := [.json, .yaml]

/-- The formats of schemas. -/
def schemaFormats : List DataFormat := [.json, .yaml, .toml]

/-- The name of the module: the command line, the schema and the configuration are asked in this
order, and the name of the document serves if none of them has one. -/
def moduleName (r : ValidationRequest) (c : ValidationSettings) (schema : Schema) : String :=
  (r.module? <|> schema.module? <|> c.module?).getD ((Path.stem? r.document).getD "Document")

/-- The catalog of messages, if there is to be one. -/
def catalog? (r : ValidationRequest) (c : ValidationSettings) (around : Surroundings) :
    Except Failure (Option Catalog) :=
  match r.messages? <|> c.messages? with
  | none => .ok none
  | some path =>
    match around.load documentFormats Catalog.ofNode? path with
    | .ok catalog => .ok (some catalog)
    | .error cause => .error (.during ("loading message catalog " ++ path) cause)

/-- The validator for a document. -/
def validator (r : ValidationRequest) (c : ValidationSettings) (around : Surroundings)
    (schema : Schema) : List Warning × Except Failure (Validator Record) :=
  let plain : Validator Record :=
    ((Validator.new (r.moduleName c schema)).withMaxDepth (r.maxDepth?.getD c.maxDepth)).setTagKey
      (r.tagKey?.getD c.tagKey)
  match r.catalog? c around with
  | .error failure => ([], .error failure)
  | .ok catalog? =>
    let provided := (catalog?.map fun catalog => plain.withProvider catalog.provider).getD plain
    match r.lang? <|> c.lang? with
    | none => ([], .ok provided)
    | some lang =>
      let answer := provided.localize lang
      (if catalog?.isNone then [.noCatalog lang] else [],
        match answer.result with
        | .ok () => .ok answer.validator
        | .error cause => .error (.unlocalizable cause))

/-- The verdict of the validator on the document: its errors, of which there may be none. -/
def judge (r : ValidationRequest) (c : ValidationSettings) (around : Surroundings) :
    List Warning × Except Failure Errors :=
  let sources : Except Failure (Schema × Json) :=
    (around.load schemaFormats Schema.ofNode? r.schema).bind fun schema =>
      (around.load documentFormats Node.toJson? r.document).map fun document =>
        (schema, document)
  match sources with
  | .error failure => ([], .error failure)
  | .ok (schema, document) =>
    match r.validator c around schema with
    | (warnings, .error failure) => (warnings, .error failure)
    | (warnings, .ok validator) =>
      match schema.bind document with
      | .error cause => (warnings, .error (.unbindable cause))
      | .ok record =>
        let answer := validator.validate record
        (warnings ++ Warning.ofEvents answer.events, .ok answer.result)

/-- The verdict on the document as output and result. -/
def carryOut (r : ValidationRequest) (c : ValidationSettings) (around : Surroundings)
    (p : Presentation) : Report :=
  let started := p.info ("Validating " ++ r.document)
  match r.judge c around with
  | (warnings, .error failure) =>
    { result := .error failure, output := started, warnings := warnings }
  | (warnings, .ok errors) =>
    if errors.isEmpty then
      { output := started ++ p.success ("✓ " ++ r.document ++ " is valid") ++
          (if p.isHuman then "" else p.data (.obj [("valid", .bool true)]))
        warnings := warnings }
    else
      { result := .error (.invalid errors.size)
        output := started ++ p.report errors
        warnings := warnings ++ [.invalid errors.size] }

end ValidationRequest

end Verdict
