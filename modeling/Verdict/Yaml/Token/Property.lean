import Verdict.Number.Literal
import Verdict.Yaml.Token.Basic

/-!
# Tags, anchors and directives as tokens

## Main definitions

* `Verdict.Yaml.tag?` — a tag at a place.
* `Verdict.Yaml.name?` — the name of an anchor or alias at a place.
* `Verdict.Yaml.directive?` — a directive at a place.

## Design

The percent signs of a tag write bytes, so tags are lists of bytes until they are complete.
-/

namespace Verdict.Yaml

/-! ### Tags -/

/-- Whether a character may stand in a tag. A tag between angle brackets may hold more. -/
def isTagChar (bracketed : Bool) (c : Char) : Bool :=
  isNameChar c || ";/?:@&=+$.%!~*\x27()".toList.contains c ||
    (bracketed && (c == ',' || c == '[' || c == ']'))

/-- The byte that a percent sign and two digits write. -/
def byte? : List Char → Option UInt8
  | '%' :: a :: b :: _ =>
    (Literal.positional? 16 [a, b]).map Nat.toUInt8
  | _ => none

/-- The number of bytes behind the first byte of a character. -/
def following? (byte : UInt8) : Option Nat :=
  if byte < 0x80 then some 0
  else if 0xC0 ≤ byte && byte < 0xE0 then some 1
  else if 0xE0 ≤ byte && byte < 0xF0 then some 2
  else if 0xF0 ≤ byte && byte < 0xF8 then some 3
  else none

/-- The rest of a tag after the bytes taken so far, which are in reverse. The bytes of a character
are written one after the other, and `due` of them have still to come. -/
def tagBytes? (bracketed : Bool) : Nat → Nat → List UInt8 → Place → Option (List UInt8 × Place)
  | 0, _, _, _ => none
  | fuel + 1, due, taken, p =>
    if 0 < due then
      (byte? p.rest).bind fun byte =>
        if 0x80 ≤ byte && byte < 0xC0 then
          tagBytes? bracketed fuel (due - 1) (byte :: taken) (p.skip 3)
        else none
    else
      match p.head? with
      | some c =>
        if c == '%' then
          (byte? p.rest).bind fun byte => (following? byte).bind fun due =>
            tagBytes? bracketed fuel due (byte :: taken) (p.skip 3)
        else if isTagChar bracketed c then
          tagBytes? bracketed fuel 0 (c.toNat.toUInt8 :: taken) (p.skip 1)
        else some (taken.reverse, p)
      | none => some (taken.reverse, p)

/-- The bytes of a tag at a place. -/
def Place.tagBytes? (p : Place) (bracketed : Bool) : Option (List UInt8 × Place) :=
  Yaml.tagBytes? bracketed (p.rest.length + 1) 0 [] p

/-- The bytes of a tag at a place, of which there must be one. -/
def Place.someTagBytes? (p : Place) (bracketed : Bool) : Option (List UInt8 × Place) :=
  (p.tagBytes? bracketed).filter fun (bytes, _) => !bytes.isEmpty

/-- The handle of a text in quotes of exclamation marks. -/
def handleOf (word : List Char) : String := String.ofList ('!' :: (word ++ ['!']))

/-- A tag without the mark of its end: between angle brackets, behind a handle, or behind the
exclamation mark that is the shortest handle. Nothing behind that mark makes it the tag itself. A
zero byte ends a tag. -/
def tagBody? (p : Place) : Option (Token × Place) :=
  let cut (bytes : List UInt8) : List UInt8 := bytes.takeWhile (· != 0)
  match p.rest.drop 1 with
  | '<' :: _ =>
    ((p.skip 2).someTagBytes? true).bind fun (bytes, p) =>
      if p.head? = some '>' then some (.tag "" (cut bytes), p.skip 1) else none
  | after =>
    let word := after.takeWhile isNameChar
    if (after.drop word.length).head? = some '!' then
      ((p.skip (word.length + 2)).someTagBytes? false).map fun (bytes, p) =>
        (.tag (handleOf word) (cut bytes), p)
    else
      ((p.skip 1).tagBytes? false).map fun (bytes, p) =>
        if (cut bytes).isEmpty then (.tag "" "!".toUTF8.toList, p)
        else (.tag "!" (cut bytes), p)

/-- A tag at a place: white space follows it, or in a flow collection a comma. -/
def tag? (inFlow : Bool) (p : Place) : Option (Token × Place) :=
  (tagBody? p).filter fun (_, p) => startsBlank p.rest || (inFlow && p.head? = some ',')

/-! ### Anchors and aliases -/

/-- A name behind the mark of an anchor or alias; white space or one of some marks follows it. -/
def name? (p : Place) : Option (String × Place) :=
  let p := p.skip 1
  let name := p.rest.takeWhile isNameChar
  let p := p.skip name.length
  if name.isEmpty then none
  else if startsBlank p.rest || p.head?.any "?:,]\x7d%@\u0060".toList.contains then
    some (String.ofList name, p)
  else none

/-! ### Directives -/

/-- A number of a version, of at most nine digits. -/
def versionNumber? (p : Place) : Option (Nat × Place) :=
  let digits := p.rest.takeWhile Char.isDigit
  if digits.isEmpty || 9 < digits.length then none
  else some (digitsValue digits, p.skip digits.length)

/-- The values of the directive for the version. -/
def version? (p : Place) : Option (Token × Place) :=
  (versionNumber? p).bind fun (major, p) =>
    if p.head? = some '.' then
      (versionNumber? (p.skip 1)).map fun (minor, p) => (.version major minor, p)
    else none

/-- The values of the directive for a tag handle: the handle, and what it stands for. -/
def handle? (p : Place) : Option (Token × Place) :=
  if p.head? != some '!' then none
  else
    let after := p.rest.drop 1
    let word := after.takeWhile isNameChar
    let closed := (after.drop word.length).head? = some '!'
    if !closed && !word.isEmpty then none
    else
      let name := if closed then handleOf word else "!"
      let p := p.skip name.length
      if !p.head?.any isBlank then none
      else
        ((p.skipWhile isBlank).someTagBytes? true).bind fun (bytes, p) =>
          if startsBlank p.rest then some (.handle name (bytes.takeWhile (· != 0)), p) else none

/-- A directive at a place, with the end of its line. -/
def directive? (p : Place) : Option (Token × Place) :=
  let p := p.skip 1
  let name := String.ofList (p.rest.takeWhile isNameChar)
  let p := p.skip name.length
  if !startsBlank p.rest then none
  else
    let values? :=
      if name = "YAML" then version? (p.skipWhile isBlank)
      else if name = "TAG" then handle? (p.skipWhile isBlank)
      else none
    values?.bind fun (token, p) => p.endLine?.map fun p => (token, p)

end Verdict.Yaml
