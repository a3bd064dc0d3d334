import Verdict.Rule.Basic
import Verdict.Text.Spacing
import Verdict.Text.Listing

/-!
# Rule strings

A rule string lists clauses `name` or `name=param` with commas between them. A comma or equality
sign after an odd number of backslashes is escaped. An escaped comma belongs to its clause and loses
one backslash.

## Main definitions

* `Verdict.Tag` — a clause bound to its rule.
* `Verdict.Clause.split` — the clauses of a rule string.
* `Verdict.Registry.parseTags` — a rule string bound to the rules of a registry.
* `Verdict.Registry.bindSpecs` — attached rules bound to the rules of a registry.
-/

namespace Verdict

/-- A clause of a rule string, bound to its rule. -/
structure Tag (ρ : Type) where
  name : String
  param : String
  rule : Rule ρ

namespace Tag

variable {ρ : Type}

/-- What the rule says of a value under the parameter of the clause. -/
def check (t : Tag ρ) (v : Value ρ) : Outcome := t.rule.check v t.param

/-- Whether two tags have one name, one parameter and one rule. -/
def same (a b : Tag ρ) : Bool :=
  a.name == b.name && a.param == b.param && a.rule.identity == b.rule.identity

/-- The diagnostic listing of a tag; the rule is not shown. -/
def listing (t : Tag ρ) : Text.Listing :=
  .fields "Tag" [("name", .text t.name), ("param", .text t.param)] true

end Tag

/-- Why a rule string cannot be bound. -/
inductive TagError where
  | unknownRule (name : String)
  deriving Repr, DecidableEq

/-- The wording of a binding error. -/
def TagError.message : TagError → String
  | .unknownRule name => "unknown rule " ++ Text.quote name

namespace Clause

/-- Whether the run of backslashes is odd after one more character. -/
def oddAfter (odd : Bool) (c : Char) : Bool := c == '\\' && !odd

/-- Split a text at every occurrence of a separator after an even run of backslashes; the flag tells
whether the run just read is odd. -/
def splitFrom (separator : Char) (odd : Bool) : List Char → List (List Char)
  | [] => [[]]
  | c :: rest =>
    let parts := splitFrom separator (oddAfter odd c) rest
    if c = separator ∧ odd = false then [] :: parts
    else
      match parts with
      | part :: more => (c :: part) :: more
      | [] => [[c]]

/-- Split a text at its unescaped separators. -/
def splitUnescaped (separator : Char) (cs : List Char) : List (List Char) :=
  splitFrom separator false cs

/-- The part of a text before a separator after an even run of backslashes and the part after it,
if there is one. -/
def cutFrom (separator : Char) (odd : Bool) : List Char → Option (List Char × List Char)
  | [] => none
  | c :: rest =>
    if c = separator ∧ odd = false then some ([], rest)
    else (cutFrom separator (oddAfter odd c) rest).map fun parts => (c :: parts.1, parts.2)

/-- A text cut in two at its first unescaped separator. -/
def cutUnescaped (separator : Char) (cs : List Char) : Option (List Char × List Char) :=
  cutFrom separator false cs

/-- A text in which every comma has lost one backslash in front of it. -/
def unescapeCommas : List Char → List Char
  | '\\' :: ',' :: rest => ',' :: unescapeCommas rest
  | c :: rest => c :: unescapeCommas rest
  | [] => []

/-- The name and the parameter of a clause, without the blanks around them. -/
def read (clause : List Char) : String × String :=
  let clause := unescapeCommas clause
  let (name, param) := (cutUnescaped '=' clause).getD (clause, [])
  (String.ofList (Text.trim name), String.ofList (Text.trim param))

/-- The names and parameters of the clauses of a rule string; the empty string has no clauses. -/
def split (raw : String) : List (String × String) :=
  if raw.isEmpty then [] else (splitUnescaped ',' raw.toList).map read

end Clause

namespace Registry

variable {ρ : Type}

/-- Find the rule of a clause. -/
def bind (r : Registry ρ) (name param : String) : Except TagError (Tag ρ) :=
  if name.isEmpty then .error (.unknownRule name)
  else
    match r.get? name with
    | some rule => .ok ⟨name, param, rule⟩
    | none => .error (.unknownRule name)

/-- Find the rules of clauses in order; the first clause without a rule is the error. -/
def bindAll (r : Registry ρ) : List (String × String) → Except TagError (List (Tag ρ))
  | [] => .ok []
  | (name, param) :: rest =>
    match r.bind name param with
    | .error e => .error e
    | .ok tag =>
      match r.bindAll rest with
      | .error e => .error e
      | .ok tags => .ok (tag :: tags)

/-- A rule string bound to the rules of a registry. -/
def parseTags (r : Registry ρ) (raw : String) : Except TagError (List (Tag ρ)) :=
  r.bindAll (Clause.split raw)

/-- Attached rules bound to the rules of a registry. Their names and parameters are taken as they
are, blanks included. -/
def bindSpecs (r : Registry ρ) (specs : List RuleSpec) : Except TagError (List (Tag ρ)) :=
  r.bindAll (specs.map fun spec => (spec.name, spec.param))

/-- The diagnostic listing of a registry: its names. -/
def listing (r : Registry ρ) : Text.Listing :=
  .fields "RuleRegistry" [("rules", .list (r.names.map .text))] false

end Registry

end Verdict
