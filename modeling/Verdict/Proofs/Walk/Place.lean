import Mathlib.Data.List.Basic

/-!
# Places and their texts

A place in a document is the way to it: the name of a field, the positions in the arrays that are
the value of the field, the name of a field of the object that is there, and so on. The path of an
error is the text of its place. This file says when a place can be read off its text.

## Main definitions

* `Verdict.Place` — a place, leg by leg; a leg of the way goes through one field.
* `Verdict.Place.text` — its text: the texts of its legs, with dots between them.
* `Verdict.PlainName` — a name is not empty, and has neither a dot nor an opening bracket.
* `Verdict.Place.Plain` — all names in a place are plain.

## Main results

* `Verdict.Place.Plain.text_injective` — plain places with the same text are the same.

## Design

In the text of a plain place, the first opening bracket ends a name, the first closing bracket ends
a position and the first dot ends a leg. So all three are read in the same way, by cutting a text at
the first character of a kind (`cut_injective`).
-/

namespace Verdict

/-- A leg of the way to a place: the name of a field, and positions in the arrays that are its
value. -/
structure Leg where
  name : String
  positions : List Nat
  deriving Repr, DecidableEq

/-- A place: the legs of the way to it. -/
abbrev Place := List Leg

/-- The text of positions: each of them in brackets. -/
def positionsText : List Nat → String
  | [] => ""
  | i :: positions => "[" ++ toString i ++ "]" ++ positionsText positions

/-- The text of a leg: its name, then its positions. -/
def Leg.text (leg : Leg) : String := leg.name ++ positionsText leg.positions

/-- A name is not empty, and has neither a dot nor an opening bracket. -/
structure PlainName (name : String) : Prop where
  ne_empty : name ≠ ""
  dot_notMem : '.' ∉ name.toList
  bracket_notMem : '[' ∉ name.toList

instance (name : String) : Decidable (PlainName name) :=
  decidable_of_iff (name ≠ "" ∧ '.' ∉ name.toList ∧ '[' ∉ name.toList)
    ⟨fun h => ⟨h.1, h.2.1, h.2.2⟩, fun h => ⟨h.ne_empty, h.dot_notMem, h.bracket_notMem⟩⟩

namespace Place

/-- The texts of further legs: each of them behind a dot. -/
def furtherText : Place → String
  | [] => ""
  | leg :: place => "." ++ leg.text ++ furtherText place

/-- The text of a place: the texts of its legs, with dots between them. -/
def text : Place → String
  | [] => ""
  | leg :: place => leg.text ++ furtherText place

/-- All names in a place are plain. -/
def Plain (place : Place) : Prop := ∀ leg ∈ place, PlainName leg.name

end Place

/-- What is in front of the first character of a kind can be read off a text, and so can the
rest.

**Proof sketch.** What is in front is what is taken from the text while the character does not come:
it is not in there, and the rest starts with it or is empty. -/
lemma cut_injective {a : Char} {front front' rest rest' : List Char} (hfront : a ∉ front)
    (hrest : ∀ c ∈ rest.head?, c = a) (hfront' : a ∉ front') (hrest' : ∀ c ∈ rest'.head?, c = a)
    (h : front ++ rest = front' ++ rest') : front = front' ∧ rest = rest' := by
  have hcut {front rest : List Char} (hfront : a ∉ front) (hrest : ∀ c ∈ rest.head?, c = a) :
      (front ++ rest).takeWhile (· ≠ a) = front := by
    rw [List.takeWhile_append_of_pos fun c hc => by simpa using ne_of_mem_of_not_mem hc hfront]
    cases rest with
    | nil => simp
    | cons c rest =>
      have hc : c = a := hrest c rfl
      simp [hc]
  have heq : front = front' := by rw [← hcut hfront hrest, h, hcut hfront' hrest']
  subst heq
  exact ⟨rfl, List.append_cancel_left h⟩

/-! ### Numbers -/

/-- A number is written with digits only. -/
lemma isDigit_of_mem_toString {n : Nat} {c : Char} (h : c ∈ (toString n).toList) :
    c.isDigit = true := by
  rw [Nat.toString_eq_repr, Nat.toList_repr] at h
  exact Nat.isDigit_of_mem_toDigits (by omega) (by omega) h

/-- A number can be read off its text. -/
lemma eq_of_toString_eq {m n : Nat} (h : (toString m).toList = (toString n).toList) : m = n := by
  rw [Nat.toString_eq_repr, Nat.toString_eq_repr, Nat.toList_repr, Nat.toList_repr] at h
  simpa using congrArg (fun digits => Nat.ofDigitChars 10 digits 0) h

/-! ### Positions -/

/-- The text of positions starts with the first one in brackets. -/
lemma toList_positionsText_cons (i : Nat) (positions : List Nat) :
    (positionsText (i :: positions)).toList =
      '[' :: ((toString i).toList ++ ']' :: (positionsText positions).toList) := by
  simp [positionsText]

/-- The text of positions starts with an opening bracket, if it is not empty. -/
lemma head?_positionsText (positions : List Nat) :
    ∀ c ∈ (positionsText positions).toList.head?, c = '[' := by
  cases positions with
  | nil => simp [positionsText]
  | cons i positions =>
    rw [toList_positionsText_cons]
    simp

/-- There are no dots in the text of positions.

**Proof sketch.** Induction on the positions. Between the brackets there are digits only. -/
lemma dot_notMem_positionsText (positions : List Nat) : '.' ∉ (positionsText positions).toList := by
  induction positions with
  | nil => simp [positionsText]
  | cons i positions ih =>
    have hdigits : '.' ∉ (toString i).toList := mt isDigit_of_mem_toString (by decide)
    rw [toList_positionsText_cons, List.mem_cons, List.mem_append, List.mem_cons]
    rintro (h | h | h | h)
    · exact absurd h (by decide)
    · exact hdigits h
    · exact absurd h (by decide)
    · exact ih h

/-- Positions can be read off their text.

**Proof sketch.** Induction on the positions. The first number is what is in front of the first
closing bracket (`cut_injective`), as it has digits only. -/
lemma positionsText_injective {positions positions' : List Nat}
    (h : (positionsText positions).toList = (positionsText positions').toList) :
    positions = positions' := by
  induction positions generalizing positions' with
  | nil =>
    cases positions' with
    | nil => rfl
    | cons i' positions' => simp [positionsText] at h
  | cons i positions ih =>
    cases positions' with
    | nil => simp [positionsText] at h
    | cons i' positions' =>
      rw [toList_positionsText_cons, toList_positionsText_cons, List.cons.injEq] at h
      have hdigits (n : Nat) : ']' ∉ (toString n).toList := mt isDigit_of_mem_toString (by decide)
      obtain ⟨hposition, hrest⟩ :=
        cut_injective (hdigits i) (by simp) (hdigits i') (by simp) h.2
      rw [eq_of_toString_eq hposition, ih (List.cons.inj hrest).2]

/-! ### Legs -/

namespace Leg

variable {leg leg' : Leg}

/-- The text of a leg is its name, then that of its positions. -/
lemma toList_text (leg : Leg) :
    leg.text.toList = leg.name.toList ++ (positionsText leg.positions).toList := by
  rw [text, String.toList_append]

/-- There are no dots in the text of a leg. -/
lemma dot_notMem_text (h : PlainName leg.name) : '.' ∉ leg.text.toList := by
  rw [toList_text, List.mem_append, not_or]
  exact ⟨h.dot_notMem, dot_notMem_positionsText leg.positions⟩

/-- A leg can be read off its text.

**Proof sketch.** The name is what is in front of the first bracket, and the positions can be read
off the rest (`positionsText_injective`). -/
lemma text_injective (h : PlainName leg.name) (h' : PlainName leg'.name)
    (heq : leg.text.toList = leg'.text.toList) : leg = leg' := by
  rw [toList_text, toList_text] at heq
  obtain ⟨hname, hpositions⟩ :=
    cut_injective h.bracket_notMem (head?_positionsText _) h'.bracket_notMem
      (head?_positionsText _) heq
  obtain ⟨name, positions⟩ := leg
  obtain ⟨name', positions'⟩ := leg'
  rw [Leg.mk.injEq]
  exact ⟨String.toList_inj.mp hname, positionsText_injective hpositions⟩

end Leg

/-! ### Places -/

namespace Place

variable {leg : Leg} {place place' : Place}

/-- Further legs have the text of the place that they are, behind a dot. -/
lemma furtherText_eq (place : Place) :
    furtherText place = if place = [] then "" else "." ++ text place := by
  cases place with
  | nil => rfl
  | cons leg place => simp [furtherText, text, String.append_assoc]

/-- A leg in front of a place has the text of the place behind a dot. -/
lemma text_cons (hplace : place ≠ []) : text (leg :: place) = leg.text ++ "." ++ text place := by
  rw [text, furtherText_eq, if_neg hplace, String.append_assoc]

/-- The text of further legs starts with a dot, if it is not empty. -/
lemma head?_furtherText (place : Place) : ∀ c ∈ (furtherText place).toList.head?, c = '.' := by
  cases place with
  | nil => simp [furtherText]
  | cons leg place => simp [furtherText]

/-- A place whose first field has a name has a text. -/
lemma text_cons_ne_empty (h : leg.name ≠ "") : text (leg :: place) ≠ "" := by
  rw [text, Leg.text, ne_eq, String.append_eq_empty_iff, String.append_eq_empty_iff]
  exact fun hempty => h hempty.1.1

/-- Of plain places, only the whole document has the empty text. -/
lemma Plain.text_eq_empty_iff (h : place.Plain) : place.text = "" ↔ place = [] := by
  cases place with
  | nil => simp [text]
  | cons leg place => simp [text_cons_ne_empty (h leg List.mem_cons_self).ne_empty]

/-- Further plain legs can be read off their text.

**Proof sketch.** Induction on the place. The first leg is what is in front of the second dot, as
there is no dot in the text of a leg whose name is plain, and it can be read off this text
(`Leg.text_injective`). -/
lemma Plain.furtherText_injective (h : place.Plain) (h' : place'.Plain)
    (heq : place.furtherText.toList = place'.furtherText.toList) : place = place' := by
  induction place generalizing place' with
  | nil =>
    cases place' with
    | nil => rfl
    | cons leg' place' => simp [furtherText] at heq
  | cons leg place ih =>
    cases place' with
    | nil => simp [furtherText] at heq
    | cons leg' place' =>
      obtain ⟨hleg, hplace⟩ := List.forall_mem_cons.mp h
      obtain ⟨hleg', hplace'⟩ := List.forall_mem_cons.mp h'
      rw [furtherText, furtherText, String.append_assoc, String.append_assoc, String.toList_append,
        String.toList_append, String.toList_append, String.toList_append] at heq
      obtain ⟨hfirst, hrest⟩ :=
        cut_injective (Leg.dot_notMem_text hleg) (head?_furtherText place)
          (Leg.dot_notMem_text hleg') (head?_furtherText place') (List.append_cancel_left heq)
      rw [Leg.text_injective hleg hleg' hfirst, ih hplace hplace' hrest]

/-- A plain place can be read off its text.

**Proof sketch.** Both places are empty or neither is. So with a dot in front of both texts, this is
the case of further legs. -/
lemma Plain.text_injective (h : place.Plain) (h' : place'.Plain) (heq : place.text = place'.text) :
    place = place' := by
  have hempty : place = [] ↔ place' = [] := by
    rw [← h.text_eq_empty_iff, heq, h'.text_eq_empty_iff]
  apply h.furtherText_injective h'
  rw [furtherText_eq, furtherText_eq, heq]
  simp only [hempty]

end Place

end Verdict
