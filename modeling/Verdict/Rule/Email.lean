import Verdict.Pattern.Matcher

/-!
# E-mail addresses

The shape of an address: dot-separated words before the at sign, a dotted host name after it. Beside
ASCII, both take the characters of the Basic Multilingual Plane that an internationalised address
may hold.

## Main definitions

* `Verdict.emailPattern` — the pattern of addresses.
* `Verdict.isEmail` — whether a text is an address.
-/

namespace Verdict

open Text (CharSet)

namespace Email

/-- The characters beyond ASCII. -/
def international : CharSet := ⟨[(0xA0, 0xD7FF), (0xF900, 0xFDCF), (0xFDF0, 0xFFEF)]⟩

/-- Letters. -/
def letters : CharSet := .unionAll [.range 'a' 'z', .range 'A' 'Z', international]

/-- Letters and digits: what a label of a host name begins and ends with. -/
def alphanumerics : CharSet := letters.union (.range '0' '9')

/-- The characters of a set, listed. -/
def listed (chars : String) : CharSet := .unionAll (chars.toList.map .singleton)

/-- What may stand inside a label of a host name. -/
def labelChars : CharSet := alphanumerics.union (listed "._~-")

/-- What the words before the at sign are made of. -/
def localChars : CharSet := alphanumerics.union (listed "!#$%&'*+/=?^_\u0060\x7b|\x7d~-")

/-- Words separated by single dots. -/
def localPart : Pattern :=
  .seq (.plus (.chars localChars)) (.star (.seq (.char '.') (.plus (.chars localChars))))

/-- A label whose first and last character belong to a set. -/
def label (ends : CharSet) : Pattern :=
  .seq (.chars ends) (.opt (.seq (.star (.chars labelChars)) (.chars ends)))

/-- Labels with a dot after each, and a last label between letters. -/
def host : Pattern := .seq (.plus (.seq (label alphanumerics) (.char '.'))) (label letters)

end Email

/-- The pattern of e-mail addresses. -/
def emailPattern : Pattern :=
  .concat [.assert .textStart, Email.localPart, .char '@', Email.host, .opt (.char '.'),
    .assert .textEnd]

/-- Whether a text is an e-mail address. -/
def isEmail (s : String) : Bool := emailPattern.isMatch s

end Verdict
