import Verdict.Text.Category
import Verdict.Text.Property

/-!
# Quoted text

The diagnostic spelling of a text between double quotes. It keeps to characters that show: all
others are written by their code point.

## Main definitions

* `Verdict.Text.isPrintable` — whether a character shows by itself.
* `Verdict.Text.quote` — a text in quotes.
-/

namespace Verdict.Text

/-- Control and format characters, surrogates, private and unassigned code points, and separators
other than the plain space. -/
def unprintable : CharSet :=
  (CharSet.unionAll (["cc", "cf", "co", "cn", "zl", "zp", "zs"].filterMap
    (NamedSet.find? generalCategories))).diff (.singleton ' ')

/-- Characters that attach to the one before them. -/
def graphemeExtend : CharSet := (NamedSet.find? binaryProperties "graphemeextend").getD .empty

/-- The characters that a quotation writes by their code point. -/
def escapedByCode : CharSet := unprintable.union graphemeExtend

/-- Whether a character shows by itself in a quotation; most texts are ASCII, where the answer needs
no table. -/
def isPrintable (c : Char) : Bool :=
  if c.toNat < 0x80 then ' ' ≤ c && c != '\x7f' else !escapedByCode.contains c

/-- The digits of a number in lower-case hexadecimal. -/
def hexDigits (n : Nat) : List Char := Nat.toDigits 16 n

/-- One character of a quotation. -/
def quoteChar (c : Char) : List Char :=
  match c with
  | '\x00' => ['\\', '0']
  | '\t' => ['\\', 't']
  | '\r' => ['\\', 'r']
  | '\n' => ['\\', 'n']
  | '"' => ['\\', '"']
  | '\\' => ['\\', '\\']
  | c => if isPrintable c then [c] else ['\\', 'u', '{'] ++ hexDigits c.toNat ++ ['}']

/-- A text between double quotes, with everything escaped that would not show. -/
def quote (s : String) : String :=
  String.ofList ('"' :: s.toList.flatMap quoteChar ++ ['"'])

end Verdict.Text
