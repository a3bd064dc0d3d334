import Verdict.Message.Resolver
import Verdict.Rule.Builtin
import Verdict.Validator.Event

/-!
# Walking a record

A record is validated field by field. The rules of a field run in order up to the first one that
fails. Then every record inside the value of the field is walked in a scope of its own: its module
is the path at which it was met, and its errors come back under that path.

## Main definitions

* `Verdict.Scope` — what the walk of one record depends on.
* `Verdict.Journal` — what a walk leaves: errors and events.
* `Verdict.Value.records` — the records inside a value with their paths.
* `Verdict.Scope.checkField` — the rules of a field on a value.
* `Verdict.Scope.walk` — the walk of a record.

## Design

The walk calls itself once per level of nested records, and counts down how many more levels the
nesting limit allows. So it ends on all records, also on those that contain themselves.
-/

namespace Verdict

variable {ρ : Type}

/-- The rule string of a field that is not to be looked at. -/
def skipMark : String := "-"

/-- The nesting limit unless another one is asked for. -/
def defaultMaxDepth : Nat := 32

/-- What the walk of one record depends on. -/
structure Scope (ρ : Type) where
  module : String
  tagKey : String
  registry : Registry ρ
  /-- The language of messages, while they are localized. -/
  lang? : Option String
  /-- The localized messages of this module. -/
  messages : Messages
  provider : Provider
  defaults : Messages
  maxDepth : Nat
  /-- How many records enclose this one. -/
  depth : Nat

/-- What a walk leaves behind. -/
structure Journal (ρ : Type) where
  errors : Errors := .empty
  events : Array (Event ρ) := #[]

namespace Journal

/-- Leave an event. -/
def event (j : Journal ρ) (e : Event ρ) : Journal ρ := { j with events := j.events.push e }

/-- Leave a notice. -/
def notice (j : Journal ρ) (n : Notice) : Journal ρ := j.event (.noticed n)

/-- Leave an error. -/
def error (j : Journal ρ) (path : String) (e : FieldError) : Journal ρ :=
  { j with errors := j.errors.record path e }

end Journal

namespace Value

variable [HasFields ρ]

mutual

/-- The records met in a value at a path, in order, with the path of each. -/
def records (path : String) : Value ρ → List (String × ρ)
  | .record r => [(path, r)]
  | .seq items => recordsOfItems path 0 items
  | .map entries => recordsOfEntries path entries
  | .absent | .bool _ | .int _ | .uint _ | .float _ | .str _ => []

/-- The records met in the elements of a sequence, of which the first has the given position. -/
def recordsOfItems (path : String) (i : Nat) : List (Value ρ) → List (String × ρ)
  | [] => []
  | item :: items =>
    records (path ++ "[" ++ toString i ++ "]") item ++ recordsOfItems path (i + 1) items

/-- The records met in the entries of a map: first in the key, then in the value. -/
def recordsOfEntries (path : String) : List (Value ρ × Value ρ) → List (String × ρ)
  | [] => []
  | (key, value) :: entries =>
    let place := path ++ "[" ++ key.text ++ "]"
    records (place ++ "(key)") key ++ records (place ++ "(value)") value ++
      recordsOfEntries path entries

end

end Value

namespace Scope

variable [HasFields ρ]

/-- The error for a rule that failed on a field. -/
def resolve (s : Scope ρ) (field : String) (tag : Tag ρ) (value : Value ρ) : FieldError :=
  let localized := s.lang?.map fun _ => s.messages
  match resolveMessage localized s.defaults s.module field tag.name [value.text, tag.param] with
  | some message => .message message
  | none => .failed

/-- Run the rules of a field on a value up to the first that fails; the flag tells whether none did.
Rules that cannot judge the value are passed over with a warning. -/
def checkField (s : Scope ρ) (name : String) (value : Value ρ) :
    List (Tag ρ) → Journal ρ → Bool × Journal ρ
  | [], j => (true, j)
  | tag :: tags, j =>
    let j := j.event (.checked tag value)
    match tag.check value with
    | .valid => s.checkField name value tags j
    | .failed =>
      (false, (j.notice (.ruleFailed s.module name tag.name)).error name (s.resolve name tag value))
    | .unsupported =>
      s.checkField name value tags
        (j.notice (.unsupportedKind s.module name tag.name value.kind))
    | .badParameter =>
      s.checkField name value tags
        (j.notice (.badParameter s.module name tag.name tag.param value.kind))

/-- The rules of a field: the attached ones, then those of its rule string. -/
def bindField (s : Scope ρ) (f : Field ρ) (raw : String) : Except TagError (List (Tag ρ)) :=
  match s.registry.bindSpecs f.specs with
  | .error e => .error e
  | .ok specs =>
    match s.registry.parseTags raw with
    | .error e => .error e
    | .ok tags => .ok (specs ++ tags)

/-- Check one field, then meet every record in its value. -/
def visit (s : Scope ρ) (meet : String → ρ → Journal ρ → Journal ρ) (j : Journal ρ) (f : Field ρ) :
    Journal ρ :=
  let raw := (f.tag? s.tagKey).getD ""
  if raw = skipMark then j
  else
    let j :=
      match s.bindField f raw with
      | .ok tags => (s.checkField f.name f.value tags j).2
      | .error e => (j.notice (.unboundRules s.module f.name e)).error f.name (.ofTagError e)
    (f.value.records f.name).foldl (fun j met => meet met.1 met.2 j) j

/-- Refuse a record beyond the nesting limit. -/
def refuse (s : Scope ρ) (path : String) (j : Journal ρ) : Journal ρ :=
  (j.notice (.tooDeep s.module path s.maxDepth)).error path (.depthExceeded s.maxDepth)

/-- The scope of a record met at a path. -/
def child (s : Scope ρ) (path : String) : Scope ρ :=
  { s with
    module := path
    messages := match s.lang? with
      | some lang => s.provider lang path
      | none => []
    depth := s.depth + 1 }

/-- Enter a record met at a path: its localized messages are asked for, if there is a
language. -/
def enter (s : Scope ρ) (path : String) (j : Journal ρ) : Journal ρ :=
  let j := j.notice (.descending s.module path (s.depth + 1))
  match s.lang? with
  | some lang => j.event (.requested lang path)
  | none => j

/-- Walk the fields of a record in order, with so many more levels of records allowed below it. -/
def walk (s : Scope ρ) : Nat → ρ → Journal ρ → Journal ρ
  | 0, r, j => (HasFields.fields r).foldl (s.visit fun path _ j => s.refuse path j) j
  | levels + 1, r, j =>
    (HasFields.fields r).foldl
      (s.visit fun path inner j =>
        let j := s.enter path j
        let below := (s.child path).walk levels inner { events := j.events }
        { errors := j.errors.appendScoped path below.errors, events := below.events }) j

end Scope

end Verdict
