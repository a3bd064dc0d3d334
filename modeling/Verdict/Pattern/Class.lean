import Verdict.Text.Age
import Verdict.Text.Spacing
import Verdict.Text.Boundary
import Verdict.Text.CaseFold
import Verdict.Text.Category
import Verdict.Text.Property
import Verdict.Text.Script

/-!
# Named character classes

The classes that patterns name: digits, blanks and word characters, the POSIX classes in brackets,
and classes by a property of Unicode.

## Main definitions

* `Verdict.Pattern.wordChars`, `Verdict.Pattern.digitChars`, `Verdict.Pattern.blankChars`
* `Verdict.Pattern.posixClass?` — the class of a POSIX name.
* `Verdict.Pattern.propertyClass?` — the class of a property name.
-/

namespace Verdict.Pattern

open Text (CharSet NamedSet)

/-- The members of a general category. -/
def category (name : String) : CharSet :=
  (NamedSet.find? Text.generalCategories name).getD .empty

/-- The members of a binary property. -/
def property (name : String) : CharSet :=
  (NamedSet.find? Text.binaryProperties name).getD .empty

/-- The decimal digits of all scripts. -/
def digitChars : CharSet := category "nd"

/-- White space. -/
def blankChars : CharSet := property "whitespace"

/-- Word characters: letters, marks, decimal digits, connectors and joiners. -/
def wordChars : CharSet :=
  .unionAll [property "alphabetic", category "mn", category "mc", category "me", category "nd",
    category "pc", property "joincontrol"]

/-- The ASCII digits. -/
def asciiDigits : CharSet := .range '0' '9'

/-- ASCII white space. -/
def asciiBlanks : CharSet := ⟨[(9, 13), (32, 32)]⟩

/-- The ASCII word characters. -/
def asciiWord : CharSet := ⟨[(48, 57), (65, 90), (95, 95), (97, 122)]⟩

/-- All ASCII characters. -/
def asciiAll : CharSet := ⟨[(0, 127)]⟩

/-- The class of a POSIX name; all of them are ASCII. -/
def posixClass? (name : String) : Option CharSet :=
  match name with
  | "alnum" => some ⟨[(48, 57), (65, 90), (97, 122)]⟩
  | "alpha" => some ⟨[(65, 90), (97, 122)]⟩
  | "ascii" => some asciiAll
  | "blank" => some ⟨[(9, 9), (32, 32)]⟩
  | "cntrl" => some ⟨[(0, 31), (127, 127)]⟩
  | "digit" => some asciiDigits
  | "graph" => some ⟨[(33, 126)]⟩
  | "lower" => some ⟨[(97, 122)]⟩
  | "print" => some ⟨[(32, 126)]⟩
  | "punct" => some ⟨[(33, 47), (58, 64), (91, 96), (123, 126)]⟩
  | "space" => some asciiBlanks
  | "upper" => some ⟨[(65, 90)]⟩
  | "word" => some asciiWord
  | "xdigit" => some ⟨[(48, 57), (65, 70), (97, 102)]⟩
  | _ => none

/-- A property name as it is compared: ASCII only, in lower case, without blanks, hyphens and
underscores, and without a leading `is`. -/
def normalName (name : String) : String :=
  let chars := name.toList.filter fun c => c.toNat < 0x80 && c != ' ' && c != '-' && c != '_'
  let chars := chars.map Char.toLower
  let startsWithIs := match name.toList with
    | a :: b :: _ => a.toLower == 'i' && b.toLower == 's'
    | _ => false
  let body := if startsWithIs then chars.drop 2 else chars
  -- One abbreviation begins with these two letters itself.
  if startsWithIs && body == ['c'] then "isc" else String.ofList body

/-- The categories that group others, under their short and long names. -/
def categoryGroups : List (List String × List String) :=
  [(["l", "letter"], ["lu", "ll", "lt", "lm", "lo"]),
    (["lc", "casedletter"], ["lu", "ll", "lt"]),
    (["m", "mark", "combiningmark"], ["mn", "mc", "me"]),
    (["n", "number"], ["nd", "nl", "no"]),
    (["p", "punctuation", "punct"], ["pc", "pd", "ps", "pe", "pi", "pf", "po"]),
    (["s", "symbol"], ["sm", "sc", "sk", "so"]),
    (["z", "separator"], ["zs", "zl", "zp"]),
    (["c", "other"], ["cc", "cf", "co", "cn"])]

/-- The class of a general category or group of categories. -/
def categoryClass? (name : String) : Option CharSet :=
  match name with
  | "any" => some .all
  | "assigned" => some (category "cn").complement
  | "ascii" => some asciiAll
  | _ =>
    match categoryGroups.find? fun group => group.1.contains name with
    | some group => some (.unionAll (group.2.map category))
    | none => NamedSet.find? Text.generalCategories name

/-- The class of a script. -/
def scriptClass? (name : String) : Option CharSet := NamedSet.find? Text.scripts name

/-- The class of the characters that a script uses, its own or not. -/
def scriptUseClass? (name : String) : Option CharSet :=
  NamedSet.find? Text.scriptExtensions name <|> scriptClass? name

/-- The class of a name that stands alone: a binary property, a category or a script, tried in this
order. Three names are both categories and properties, and mean the categories. -/
def propertyClass? (name : String) : Option CharSet :=
  let name := normalName name
  let asProperty :=
    if ["cf", "sc", "lc"].contains name then none else NamedSet.find? Text.binaryProperties name
  (asProperty <|> categoryClass? name) <|> scriptClass? name

/-- The class of a property with a value. -/
def propertyValueClass? (name value : String) : Option CharSet :=
  let value := normalName value
  match normalName name with
  | "gc" | "generalcategory" => categoryClass? value
  | "sc" | "script" => scriptClass? value
  | "scx" | "scriptextensions" => scriptUseClass? value
  | "age" => Text.age? value
  | "gcb" | "graphemeclusterbreak" => NamedSet.find? Text.graphemeBreaks value
  | "wb" | "wordbreak" => NamedSet.find? Text.wordBreaks value
  | "sb" | "sentencebreak" => NamedSet.find? Text.sentenceBreaks value
  | _ => none

end Verdict.Pattern
