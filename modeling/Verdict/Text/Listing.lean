import Verdict.Text.Quoted

/-!
# Diagnostic listings

The tree shape in which values, fields and validators are listed for diagnosis, on one line or
indented.

## Main definitions

* `Verdict.Text.Listing` — a listing.
* `Verdict.Text.Listing.line` — all on one line.
* `Verdict.Text.Listing.lines` — an element a line, indented by four blanks a level.
-/

namespace Verdict.Text

/-- A diagnostic listing. -/
inductive Listing where
  | atom (text : String)
  /-- A constructor and its arguments. -/
  | call (name : String) (args : List Listing)
  | list (items : List Listing)
  | map (entries : List (Listing × Listing))
  /-- A structure with named fields; `more` marks that some are not shown. -/
  | fields (name : String) (entries : List (String × Listing)) (more : Bool)

namespace Listing

/-- A quoted text. -/
def text (s : String) : Listing := .atom (quote s)

/-- A value that may be missing. -/
def option : Option Listing → Listing
  | none => .atom "None"
  | some l => .call "Some" [l]

/-- Join texts with a separator between them. -/
def joined (separator : String) (items : List String) : String := separator.intercalate items

mutual

/-- A listing on one line. -/
def line : Listing → String
  | .atom text => text
  | .call name [] => name
  | .call name (arg :: args) => name ++ "(" ++ joined ", " (lineAll (arg :: args)) ++ ")"
  | .list items => "[" ++ joined ", " (lineAll items) ++ "]"
  | .map entries => "\x7b" ++ joined ", " (lineEntries entries) ++ "\x7d"
  | .fields name entries more =>
    let shown := lineFields entries ++ (if more then [".."] else [])
    if shown.isEmpty then name else name ++ " \x7b " ++ joined ", " shown ++ " \x7d"

/-- Each listing of a list on one line. -/
def lineAll : List Listing → List String
  | [] => []
  | item :: items => line item :: lineAll items

/-- Each entry of a map on one line. -/
def lineEntries : List (Listing × Listing) → List String
  | [] => []
  | (key, value) :: entries => (line key ++ ": " ++ line value) :: lineEntries entries

/-- Each named field on one line. -/
def lineFields : List (String × Listing) → List String
  | [] => []
  | (name, value) :: entries => (name ++ ": " ++ line value) :: lineFields entries

end

/-- Lines moved to the right by one level. -/
def indent (lines : List String) : List String := lines.map ("    " ++ ·)

/-- Lines followed by a comma. -/
def closed : List String → List String
  | [] => []
  | [last] => [last ++ ","]
  | first :: rest => first :: closed rest

/-- Put a text in front of the first line. -/
def prepend (text : String) : List String → List String
  | [] => [text]
  | first :: rest => (text ++ first) :: rest

/-- Join two blocks of lines at the last line of the first. -/
def attach (text : String) (after : List String) : List String → List String
  | [] => prepend text after
  | [last] => prepend (last ++ text) after
  | first :: rest => first :: attach text after rest

/-- Elements between an opening and a closing line; nothing between them goes on one line. -/
def block (opening closing : String) (elements : List (List String)) : List String :=
  if elements.isEmpty then [opening ++ closing]
  else opening :: (elements.flatMap fun e => indent (closed e)) ++ [closing]

mutual

/-- A listing with an element a line. -/
def lines : Listing → List String
  | .atom text => [text]
  | .call name [] => [name]
  | .call name (arg :: args) => block (name ++ "(") ")" (linesAll (arg :: args))
  | .list items => block "[" "]" (linesAll items)
  | .map entries => block "\x7b" "\x7d" (linesEntries entries)
  | .fields name entries more =>
    let shown := linesFields entries
    if shown.isEmpty then [if more then name ++ " \x7b .. \x7d" else name]
    else
      (name ++ " \x7b") :: (shown.flatMap fun e => indent (closed e)) ++
        (if more then ["    .."] else []) ++ ["\x7d"]

/-- The lines of each listing of a list. -/
def linesAll : List Listing → List (List String)
  | [] => []
  | item :: items => lines item :: linesAll items

/-- The lines of each entry of a map. -/
def linesEntries : List (Listing × Listing) → List (List String)
  | [] => []
  | (key, value) :: entries => attach ": " (lines value) (lines key) :: linesEntries entries

/-- The lines of each named field. -/
def linesFields : List (String × Listing) → List (List String)
  | [] => []
  | (name, value) :: entries => prepend (name ++ ": ") (lines value) :: linesFields entries

end

/-- A listing with an element a line, as one text. -/
def indented (l : Listing) : String := joined "\n" l.lines

end Listing

end Verdict.Text
