import Verdict.Pattern.Expression
import Verdict.Pattern.Matcher
import Verdict.Pattern.Room

/-!
# From written patterns to patterns

Flags take effect here: a change holds up to the end of its group, for all alternatives after it.
The result has no flags; its sets and assertions say what they mean.

## Main definitions

* `Verdict.Pattern.Expression.toLayout?` — the layout of what an expression stands for.
* `Verdict.Pattern.compile?` — the pattern of a text, unless it is none or needs too much room.
-/

namespace Verdict.Pattern

open Text (CharSet)

/-- The flags in force. -/
structure Mode where
  caseInsensitive : Bool := false
  multiLine : Bool := false
  dotAll : Bool := false
  unicode : Bool := true
  returns : Bool := false
  swapGreed : Bool := false

namespace Mode

/-- The mode after one change. -/
def apply (m : Mode) (change : Flag × Bool) : Mode :=
  match change with
  | (.caseInsensitive, on) => { m with caseInsensitive := on }
  | (.multiLine, on) => { m with multiLine := on }
  | (.dotAll, on) => { m with dotAll := on }
  | (.unicode, on) => { m with unicode := on }
  | (.returns, on) => { m with returns := on }
  | (.swapGreed, on) => { m with swapGreed := on }
  | (.verbose, _) => m

/-- The mode after changes. -/
def applyAll (m : Mode) (changes : List (Flag × Bool)) : Mode := changes.foldl apply m

/-- The case variants of ASCII letters, added to a set. -/
def closeUnderAsciiCase (s : CharSet) : CharSet :=
  s.union (.ofRanges ((List.range 26).flatMap fun i =>
    (if s.containsCode (65 + i) then [(97 + i, 97 + i)] else []) ++
      (if s.containsCode (97 + i) then [(65 + i, 65 + i)] else [])))

/-- A set as case sensitivity has it. -/
def fold (m : Mode) (s : CharSet) : CharSet :=
  if m.caseInsensitive then
    if m.unicode then s.closeUnderCase else closeUnderAsciiCase s
  else s

/-- The complement of a set among the characters, or among the bytes outside Unicode mode. -/
def negate (m : Mode) (s : CharSet) : CharSet :=
  if m.unicode then s.complement else s.complement.inter ⟨[(0, 255)]⟩

/-- Outside Unicode mode, a set must keep to ASCII: nothing else is a whole character. -/
def checked? (m : Mode) (s : CharSet) : Option CharSet :=
  if m.unicode || s.ranges.all fun range => range.2 < 0x80 then some s else none

/-- A set that may be negated. -/
def finish? (m : Mode) (negated : Bool) (s : CharSet) : Option CharSet :=
  m.checked? (if negated then m.negate (m.fold s) else m.fold s)

/-- The set of a class with a one-letter escape. -/
def shortSet? (m : Mode) (kind : ShortClass) (negated : Bool) : Option CharSet :=
  let s := match kind with
    | .digit => if m.unicode then digitChars else asciiDigits
    | .blank => if m.unicode then blankChars else asciiBlanks
    | .word => if m.unicode then wordChars else asciiWord
  m.checked? (if negated then m.negate s else s)

/-- Whether a written character is allowed in a class: outside Unicode mode it must be ASCII. -/
def allowsInClass (m : Mode) (c : Char) : Bool := m.unicode || c.toNat < 0x80

mutual

/-- The set of an item of a class. -/
def classSet? (m : Mode) : ClassItem → Option CharSet
  | .empty => some .empty
  | .atom (.char c _) => if m.allowsInClass c then some (.singleton c) else none
  | .atom (.short kind negated) => m.shortSet? kind negated
  | .atom (.property set negated) => if m.unicode then m.finish? negated set else none
  | .atom (.anchor _) => none
  | .range first last =>
    if m.allowsInClass first && m.allowsInClass last then some (.range first last) else none
  | .posix set negated => m.finish? negated set
  | .bracket negated body => (classSet? m body).bind (m.finish? negated)
  | .union items => (classSets? m items).map CharSet.unionAll
  | .combine op a b =>
    (classSet? m a).bind fun a => (classSet? m b).map fun b =>
      let (a, b) := (m.fold a, m.fold b)
      match op with
      | .inter => a.inter b
      | .diff => a.diff b
      | .symmDiff => a.symmDiff b

/-- The sets of the items of a class. -/
def classSets? (m : Mode) : List ClassItem → Option (List CharSet)
  | [] => some []
  | item :: items =>
    (classSet? m item).bind fun s => (classSets? m items).map fun rest => s :: rest

end

/-- The assertion that an anchor makes. -/
def assertion (m : Mode) (kind : Anchor) : Assertion :=
  let word := if m.unicode then wordChars else asciiWord
  match kind with
  | .lineStart =>
    if !m.multiLine then .textStart else if m.returns then .returnStart else .lineStart
  | .lineEnd => if !m.multiLine then .textEnd else if m.returns then .returnEnd else .lineEnd
  | .textStart => .textStart
  | .textEnd => .textEnd
  | .wordBoundary => .wordBoundary word
  | .notWordBoundary => .notWordBoundary word
  | .wordStart => .wordStart word
  | .wordEnd => .wordEnd word
  | .wordStartHalf => .wordStartHalf word
  | .wordEndHalf => .wordEndHalf word

/-- The layout of an atom. -/
def atom? (m : Mode) : Atom → Option Layout
  | .char c byCode =>
    if m.unicode || c.toNat < 0x80 then some (.ofSet (m.fold (.singleton c)))
    else if byCode then none
    else some (.literal [c])
  | .short kind negated => (m.shortSet? kind negated).map .ofSet
  | .property set negated =>
    if m.unicode then (m.finish? negated set).map .ofSet else none
  | .anchor kind => some (.assert (m.assertion kind))

/-- The layout of the dot. -/
def any? (m : Mode) : Option Layout :=
  if !m.unicode then none
  else if m.dotAll then some (.ofSet .all)
  else if m.returns then some (.ofSet (CharSet.complement ⟨[(10, 10), (13, 13)]⟩))
  else some (.ofSet (CharSet.complement ⟨[(10, 10)]⟩))

end Mode

namespace Expression

mutual

/-- The layout of what an expression stands for, and the mode after it. -/
def toLayout? (m : Mode) : Expression → Option (Layout × Mode)
  | .empty => some (.empty, m)
  | .flags changes => some (.empty, m.applyAll changes)
  | .atom a => (m.atom? a).map fun l => (l, m)
  | .any => m.any?.map fun l => (l, m)
  | .bracket negated body =>
    ((m.classSet? body).bind (m.finish? negated)).map fun s => (.ofSet s, m)
  | .repeated body least most greedy =>
    (toLayout? m body).map fun (l, m) => (l.times least most (greedy != m.swapGreed), m)
  | .group changes body => (toLayout? (m.applyAll changes) body).map fun (l, _) => (l, m)
  | .capture body => (toLayout? m body).map fun (l, _) => (.capture l, m)
  | .alt branches => (toLayouts? m branches).map fun (ls, m) => (.oneOf ls, m)
  | .concat items => (toLayouts? m items).map fun (ls, m) => (.joined ls, m)

/-- The layouts of expressions in a row; each begins in the mode in which the one before ends. -/
def toLayouts? (m : Mode) : List Expression → Option (List Layout × Mode)
  | [] => some ([], m)
  | e :: es =>
    (toLayout? m e).bind fun (l, m) =>
      (toLayouts? m es).map fun (ls, m) => (l :: ls, m)

end

end Expression

/-- The layout of a text, if the text is a pattern. -/
def layout? (text : String) : Option Layout :=
  (Expression.parse? text).bind fun e => (e.toLayout? {}).map fun (l, _) => l

/-- The pattern of a text: none if the text is no pattern or its automata would be too large. -/
def compile? (text : String) : Option Pattern :=
  ((layout? text).filter Layout.fits).map Layout.toPattern

end Verdict.Pattern
