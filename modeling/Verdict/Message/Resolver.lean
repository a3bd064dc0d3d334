import Verdict.Data.Node
import Verdict.Message.Template

/-!
# Finding messages

The message of a failed rule is looked for in three places: the localized templates of the module
for the field and rule, those for the rule with any field, and the default templates.

## Main definitions

* `Verdict.Provider` — where localized templates come from.
* `Verdict.Catalog` — localized templates by language.
* `Verdict.resolveMessage` — the message of a failed rule.
-/

namespace Verdict

/-- A source of localized templates, by language and module. -/
abbrev Provider := String → String → Messages

/-- The source without templates. -/
def Provider.none : Provider := fun _ _ => []

/-- Localized templates by language. Their keys name modules, so one table serves all of them. -/
abbrev Catalog := Table Messages

/-- The source that a catalog is. -/
def Catalog.provider (c : Catalog) : Provider := fun lang _ => (c.get? lang).getD []

/-- The catalog of a tree of data: tables of texts by language, of which the last of each language
counts. -/
def Catalog.ofNode? (n : Node) : Option Catalog :=
  (n.membersWith? Node.textTable?).map Table.ofList

/-- The languages of a catalog in ascending order. -/
def Catalog.languages (c : Catalog) : List String := c.keys

/-- The message of a rule that failed on a field of a module, if there is a template for it. There
are no localized templates while no language is set. Only the second place knows labels for the
module and the field; where they are missing, the names serve. -/
def resolveMessage (localized? : Option Messages) (defaults : Messages)
    (module field rule : String) (args : List String) : Option String :=
  let message? := localized?.bind fun t =>
    t.format? (module ++ "." ++ field ++ ".error." ++ rule) args <|>
      let moduleLabel := (t.get? (module ++ ".label")).getD module
      let fieldLabel := (t.get? (module ++ "." ++ field ++ ".label")).getD field
      t.format? ("default.error." ++ rule) (moduleLabel :: fieldLabel :: args)
  message? <|> defaults.format? rule (module :: field :: args)

end Verdict
