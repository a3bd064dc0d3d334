import Verdict.Text.CharSet

/-!
# Texts of TOML

White space, comments and strings. A string stands on one line, or between triple quotes on several.

## Main definitions

* `Verdict.Toml.skipSpace`, `Verdict.Toml.endOfLine?` — what does not count.
* `Verdict.Toml.string?` — a string at the start of a text.
-/

namespace Verdict.Toml

/-! ### White space and comments -/

/-- Whether a character is a blank inside a line. -/
def isBlank (c : Char) : Bool := c == ' ' || c == '\t'

/-- Whether a character may stand in a text or comment: no control character but the tab. -/
def isAllowed (c : Char) : Bool := c == '\t' || (' ' ≤ c && c != '\x7f')

/-- Drop blanks. -/
def skipBlanks (cs : List Char) : List Char := cs.dropWhile isBlank

/-- Drop a comment up to the end of its line. -/
def skipComment (cs : List Char) : List Char :=
  match cs with
  | '#' :: rest => rest.dropWhile isAllowed
  | _ => cs

/-- The rest after the end of a line, with a comment in front of it; none if something else is
left on the line. -/
def endOfLine? (cs : List Char) : Option (List Char) :=
  match skipComment (skipBlanks cs) with
  | [] => some []
  | '\n' :: rest => some rest
  | '\r' :: '\n' :: rest => some rest
  | _ => none

/-- Drop blanks, line ends and comments. -/
def skipSpace : Nat → List Char → List Char
  | 0, cs => cs
  | fuel + 1, cs =>
    match skipComment (skipBlanks cs) with
    | '\n' :: rest => skipSpace fuel rest
    | '\r' :: '\n' :: rest => skipSpace fuel rest
    | rest => rest

/-! ### Strings -/

/-- A character by a code of a number of digits. -/
def code? (digits : Nat) (cs : List Char) : Option (Char × List Char) :=
  if cs.length < digits then none
  else
    (Text.hexValue? (cs.take digits)).bind fun code =>
      if h : Nat.isValidChar code then some (Char.ofNatAux code h, cs.drop digits) else none

/-- The character of an escape, after its backslash. -/
def escape? : List Char → Option (Char × List Char)
  | 'b' :: rest => some ('\x08', rest)
  | 't' :: rest => some ('\t', rest)
  | 'n' :: rest => some ('\n', rest)
  | 'f' :: rest => some ('\x0c', rest)
  | 'r' :: rest => some ('\r', rest)
  | '"' :: rest => some ('"', rest)
  | '\\' :: rest => some ('\\', rest)
  | 'u' :: rest => code? 4 rest
  | 'U' :: rest => code? 8 rest
  | _ => none

/-- The rest of a string in double quotes. -/
def basic? : Nat → List Char → List Char → Option (String × List Char)
  | 0, _, _ => none
  | fuel + 1, taken, cs =>
    match cs with
    | [] => none
    | '"' :: rest => some (String.ofList taken.reverse, rest)
    | '\\' :: rest => (escape? rest).bind fun (c, rest) => basic? fuel (c :: taken) rest
    | c :: rest => if isAllowed c then basic? fuel (c :: taken) rest else none

/-- The rest of a string in single quotes. -/
def literal? : List Char → List Char → Option (String × List Char)
  | _, [] => none
  | taken, '\'' :: rest => some (String.ofList taken.reverse, rest)
  | taken, c :: rest => if isAllowed c then literal? (c :: taken) rest else none

/-- Drop blanks and line ends. -/
def dropLines : List Char → List Char
  | '\r' :: '\n' :: rest => dropLines rest
  | c :: rest => if isBlank c || c == '\n' then dropLines rest else c :: rest
  | [] => []

/-- The rest of a string between triple quotes. Up to two quotes may stand in front of the closing
ones; a backslash at the end of a line joins it to the next text. -/
def triple? (quote : Char) : Nat → List Char → List Char → Option (String × List Char)
  | 0, _, _ => none
  | fuel + 1, taken, cs =>
    match cs with
    | [] => none
    | c :: rest =>
      let quotes := (cs.takeWhile (· == quote)).length
      if 3 ≤ quotes then
        if 5 < quotes then none
        else
          some (String.ofList (List.replicate (quotes - 3) quote ++ taken).reverse,
            cs.drop quotes)
      else if c == '\\' && quote == '"' then
        match skipBlanks rest with
        | '\n' :: _ | '\r' :: '\n' :: _ =>
          triple? quote fuel taken (dropLines rest)
        | _ => (escape? rest).bind fun (c, rest) => triple? quote fuel (c :: taken) rest
      else if c == '\n' then triple? quote fuel ('\n' :: taken) rest
      else if c == '\r' then
        match rest with
        | '\n' :: rest => triple? quote fuel ('\n' :: taken) rest
        | _ => none
      else if isAllowed c then triple? quote fuel (c :: taken) rest
      else none

/-- A line end at the start of a text does not count. -/
def dropLineEnd : List Char → List Char
  | '\n' :: rest => rest
  | '\r' :: '\n' :: rest => rest
  | cs => cs

/-- A string of one line. -/
def lineString? (cs : List Char) : Option (String × List Char) :=
  match cs with
  | '"' :: rest => basic? (rest.length + 1) [] rest
  | '\'' :: rest => literal? [] rest
  | _ => none

/-- A string of any form. -/
def string? (cs : List Char) : Option (String × List Char) :=
  match cs with
  | '"' :: '"' :: '"' :: rest => triple? '"' (rest.length + 1) [] (dropLineEnd rest)
  | '\'' :: '\'' :: '\'' :: rest => triple? '\'' (rest.length + 1) [] (dropLineEnd rest)
  | _ => lineString? cs

end Verdict.Toml
