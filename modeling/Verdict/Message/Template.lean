import Verdict.Table

/-!
# Message templates

A template is a text with numbered places `$\x7bn\x7d` for arguments.

## Main definitions

* `Verdict.Messages` — templates by key.
* `Verdict.formatMessage` — a template with its arguments put in.
* `Verdict.Messages.builtin` — the templates of the built-in rules.
-/

namespace Verdict

/-- A text in which the first occurrence of another one is replaced, if there is any. -/
def replaceFirst (needle replacement : List Char) : List Char → List Char
  | [] => if needle.isEmpty then replacement else []
  | c :: rest =>
    if needle.isPrefixOf (c :: rest) then replacement ++ (c :: rest).drop needle.length
    else c :: replaceFirst needle replacement rest

/-- The place of an argument in a template. -/
def placeholder (i : Nat) : List Char := '$' :: '{' :: (toString i).toList ++ ['}']

/-- Put arguments into a text one after the other, the first one at the place of a given number.
Each goes to the first occurrence of its place in the text made so far. -/
def insertArgs (text : List Char) (i : Nat) : List String → List Char
  | [] => text
  | arg :: args => insertArgs (replaceFirst (placeholder i) arg.toList text) (i + 1) args

/-- A template with its arguments put in; places without an argument stay as they are. -/
def formatMessage (template : String) (args : List String) : String :=
  String.ofList (insertArgs template.toList 0 args)

/-- Templates by key, in ascending order of the keys. -/
abbrev Messages := Table String

namespace Messages

/-- The templates of the built-in rules. Their arguments are the module, the field, the value and
the parameter. -/
def builtin : Messages :=
  Table.ofList [
    ("required", "$\x7b0\x7d $\x7b1\x7d cannot be blank"),
    ("email", "$\x7b0\x7d $\x7b2\x7d is not a valid e-mail address"),
    ("len", "$\x7b0\x7d $\x7b2\x7d should be in size $\x7b3\x7d"),
    ("min", "$\x7b0\x7d $\x7b2\x7d is less than minimum value $\x7b3\x7d"),
    ("max", "$\x7b0\x7d $\x7b2\x7d exceeds maximum value $\x7b3\x7d"),
    ("inList", "$\x7b0\x7d $\x7b2\x7d is not contained within the list $\x7b3\x7d"),
    ("regexp", "$\x7b0\x7d $\x7b2\x7d is not a valid data")]

/-- The template of a key with arguments put in. -/
def format? (m : Messages) (key : String) (args : List String) : Option String :=
  (m.get? key).map fun template => formatMessage template args

end Messages

end Verdict
