import Mathlib.Algebra.Ring.Parity
import Mathlib.Data.List.DropRight
import Verdict.Proofs.Text.Spacing
import Verdict.Rule.Tag

/-!
# Escaped separators

A separator is escaped by the run of backslashes in front of it: it separates if the run is even,
and not if it is odd. Reading a rule string splits it at the commas that separate, then takes a
backslash away from each comma, and then looks for an equality sign that separates. This file says
what each of these steps does to the runs in front of the separators.

## Main definitions

* `Verdict.Clause.EachAfter` — each occurrence of a character is after a run of some kind.
* `Verdict.Clause.Flagged` — the same, said by the flag with which a text is read.
* `Verdict.Clause.escapeCommas` — a text with one more backslash in front of each comma.

## Main results

* `Verdict.Clause.flagged_iff_eachAfter_even`, `flagged_iff_eachAfter_odd` — the two forms agree.
* `Verdict.Clause.exists_splitFrom_append` — how a text in two parts is split.
* `Verdict.Clause.splitUnescaped_intercalate`, `flagged_splitUnescaped` — joined texts are split as
  they were, and what is split off has no separator.
* `Verdict.Clause.unescapeCommas_escapeCommas`, `Flagged.escapeCommas`, `Flagged.unescapeCommas` —
  escaping commas, and back.

## Design

`EachAfter` looks back from an occurrence over the whole text in front of it, and is what one wants
to read in a statement. `Flagged` goes along the text like the readers do, and is what their
recursions preserve.
-/

namespace Verdict

namespace Clause

/-! ### Runs of backslashes -/

/-- The length of the run of backslashes at the end of a text. -/
def backslashes (cs : List Char) : Nat := (cs.rtakeWhile (· == '\\')).length

/-- Each occurrence of a character in a text is after a run of backslashes whose length is of some
kind. -/
def EachAfter (c : Char) (kind : Nat → Prop) (cs : List Char) : Prop :=
  ∀ front back, cs = front ++ c :: back → kind (backslashes front)

/-- Whether the run of backslashes is odd after a text. -/
def oddFrom (odd : Bool) (cs : List Char) : Bool := cs.foldl oddAfter odd

/-- Each occurrence of a character in a text is read with some flag, which is true after an odd run
of backslashes. The flag before the text is given. -/
def Flagged (c : Char) (flag odd : Bool) : List Char → Prop
  | [] => True
  | d :: cs => (d = c → odd = flag) ∧ Flagged c flag (oddAfter odd d) cs

variable {c : Char} {flag odd : Bool} {cs front back : List Char}

/-- No character leaves the flag as it is. -/
@[simp] lemma oddFrom_nil : oddFrom odd [] = odd := rfl

/-- The flag after a text goes on from that after its first character. -/
@[simp] lemma oddFrom_cons : oddFrom odd (c :: cs) = oddFrom (oddAfter odd c) cs := rfl

/-- The flag after two texts goes on from that after the first one. -/
@[simp] lemma oddFrom_append : oddFrom odd (front ++ back) = oddFrom (oddFrom odd front) back :=
  List.foldl_append

/-- There is no character in the empty text. -/
@[simp] lemma flagged_nil : Flagged c flag odd [] := trivial

/-- The first character has the flag, if it is the one in question, and the others have it after
that. -/
@[simp] lemma flagged_cons {d : Char} : Flagged c flag odd (d :: cs) ↔
    (d = c → odd = flag) ∧ Flagged c flag (oddAfter odd d) cs := Iff.rfl

/-- A character that is no backslash ends a run. -/
lemma oddAfter_of_ne (h : c ≠ '\\') : oddAfter odd c = false := by
  simp [oddAfter, h]

/-- The flag tells whether the run of backslashes is odd.

**Proof sketch.** Induction from the end of the text. A backslash lengthens the run by one and turns
the flag, and any other character ends both. -/
lemma oddFrom_false_iff : oddFrom false cs = true ↔ Odd (backslashes cs) := by
  induction cs using List.reverseRecOn with
  | nil => simp [backslashes]
  | append_singleton cs c ih =>
    rw [oddFrom_append, oddFrom_cons, oddFrom_nil, backslashes, List.rtakeWhile_concat, oddAfter]
    by_cases hc : c = '\\'
    · rw [if_pos (by simpa using hc), List.length_append, List.length_singleton, Nat.odd_add_one]
      rw [backslashes] at ih
      rw [← ih]
      simp [hc]
    · rw [if_neg (by simpa using hc)]
      simp [hc]

/-- The parts of a text are flagged one after the other. -/
lemma flagged_append : Flagged c flag odd (front ++ back) ↔
    Flagged c flag odd front ∧ Flagged c flag (oddFrom odd front) back := by
  induction front generalizing odd with
  | nil => simp
  | cons d front ih => simp [ih, and_assoc]

/-- One more character of another kind makes no difference. -/
lemma Flagged.concat {d : Char} (h : Flagged c flag odd cs) (hd : d ≠ c) :
    Flagged c flag odd (cs ++ [d]) :=
  flagged_append.mpr ⟨h, fun hdc => absurd hdc hd, trivial⟩

/-- There is no run at the end of a text that ends in another character. -/
lemma oddFrom_concat (h : c ≠ '\\') : oddFrom odd (cs ++ [c]) = false := by
  rw [oddFrom_append, oddFrom_cons, oddAfter_of_ne h, oddFrom_nil]

/-- A text is flagged if each occurrence is after a part that leaves the flag.

**Proof sketch.** Induction on the text. The occurrence at its head is the one with nothing in
front; any other occurrence in the text is one in its tail, with the head in front. -/
lemma flagged_iff : Flagged c flag odd cs ↔
    ∀ front back, cs = front ++ c :: back → oddFrom odd front = flag := by
  induction cs generalizing odd with
  | nil => simp
  | cons d cs ih =>
    rw [flagged_cons, ih]
    constructor
    · rintro ⟨hhead, htail⟩ front back hcs
      cases front with
      | nil => exact hhead (List.cons.inj hcs).1
      | cons e front =>
        obtain ⟨rfl, hrest⟩ := List.cons.inj hcs
        exact htail front back hrest
    · intro h
      refine ⟨?_, fun front back hcs => h (d :: front) back (by rw [hcs]; rfl)⟩
      rintro rfl
      exact h [] cs rfl

/-- Flags that are all true are occurrences after odd runs. -/
lemma flagged_iff_eachAfter_odd : Flagged c true false cs ↔ EachAfter c Odd cs := by
  rw [flagged_iff]
  simp only [oddFrom_false_iff]
  rfl

/-- Flags that are all false are occurrences after even runs. -/
lemma flagged_iff_eachAfter_even : Flagged c false false cs ↔ EachAfter c Even cs := by
  rw [flagged_iff]
  simp only [← Bool.not_eq_true, oddFrom_false_iff, Nat.not_odd_iff_even]
  rfl

/-- Flags can be checked along a text. -/
instance decidableFlagged (c : Char) (flag odd : Bool) :
    (cs : List Char) → Decidable (Flagged c flag odd cs)
  | [] => .isTrue trivial
  | d :: cs =>
    have := decidableFlagged c flag (oddAfter odd d) cs
    inferInstanceAs (Decidable ((d = c → odd = flag) ∧ Flagged c flag (oddAfter odd d) cs))

instance (c : Char) (cs : List Char) : Decidable (EachAfter c Odd cs) :=
  decidable_of_iff _ flagged_iff_eachAfter_odd

instance (c : Char) (cs : List Char) : Decidable (EachAfter c Even cs) :=
  decidable_of_iff _ flagged_iff_eachAfter_even

/-- Blanks end a run. -/
lemma oddFrom_blanks (h : ∀ d ∈ cs, Text.isBlank d = true) : oddFrom false cs = false := by
  induction cs with
  | nil => rfl
  | cons d cs ih =>
    have hd : d ≠ '\\' := by
      rintro rfl
      exact absurd (h '\\' List.mem_cons_self) (by decide)
    rw [oddFrom_cons, oddAfter_of_ne hd]
    exact ih fun e he => h e (List.mem_cons_of_mem _ he)

/-- Trimming leaves the runs inside a text as they are. -/
lemma Flagged.trim (h : Flagged c flag false cs) : Flagged c flag false (Text.trim cs) := by
  obtain ⟨front, back, hfront, -, hcs⟩ := Text.exists_blanks_trim cs
  rw [hcs, List.append_assoc, flagged_append, oddFrom_blanks hfront, flagged_append] at h
  exact h.2.1

/-! ### Splitting and cutting -/

/-- A character separates unless it is another one or after an odd run. -/
lemma not_separates_iff {d : Char} : ¬(d = c ∧ odd = false) ↔ (d = c → odd = true) := by
  rw [not_and, Bool.not_eq_false]

/-- A text without a separator is not split. -/
lemma splitFrom_of_flagged (h : Flagged c true odd cs) : splitFrom c odd cs = [cs] := by
  induction cs generalizing odd with
  | nil => rfl
  | cons d cs ih =>
    rw [splitFrom, ih h.2]
    exact if_neg (not_separates_iff.mpr h.1)

/-- The clauses of a rule string that is not empty. -/
lemma split_of_ne_empty {raw : String} (h : raw ≠ "") :
    split raw = (splitUnescaped ',' raw.toList).map read := by
  rw [split, if_neg (by rwa [String.isEmpty_iff])]

/-- A text has at least one part. -/
lemma splitFrom_ne_nil (c : Char) (odd : Bool) (cs : List Char) : splitFrom c odd cs ≠ [] := by
  cases cs with
  | nil => exact List.cons_ne_nil _ _
  | cons d cs =>
    rw [splitFrom]
    split_ifs with hd
    · exact List.cons_ne_nil _ _
    · cases splitFrom c (oddAfter odd d) cs <;> exact List.cons_ne_nil _ _

/-- A text that is put together of two is split where these are split, and their parts at the joint
are one part.

**Proof sketch.** Induction along the first text. A separator in it is one more part in front. Any
other character belongs to the first part, which is the part at the joint if it is the only one. -/
lemma exists_splitFrom_append (c : Char) (odd : Bool) (front back : List Char) :
    ∃ before last first after, splitFrom c odd front = before ++ [last] ∧
      splitFrom c (oddFrom odd front) back = first :: after ∧
        splitFrom c odd (front ++ back) = before ++ (last ++ first) :: after := by
  induction front generalizing odd with
  | nil =>
    obtain ⟨first, after, hback⟩ := List.exists_cons_of_ne_nil (splitFrom_ne_nil c odd back)
    exact ⟨[], [], first, after, rfl, hback, hback⟩
  | cons d front ih =>
    obtain ⟨before, last, first, after, hfront, hback, hjoint⟩ := ih (oddAfter odd d)
    rw [List.cons_append, splitFrom, splitFrom, hfront, hjoint, oddFrom_cons, hback]
    by_cases hd : d = c ∧ odd = false
    · exact ⟨[] :: before, last, first, after, if_pos hd, rfl, if_pos hd⟩
    · rw [if_neg hd, if_neg hd]
      cases before with
      | nil => exact ⟨[], d :: last, first, after, rfl, rfl, rfl⟩
      | cons part before => exact ⟨(d :: part) :: before, last, first, after, rfl, rfl, rfl⟩

/-- A separator after an even run divides the parts of the texts around it. -/
lemma splitFrom_append_separator (hend : oddFrom odd front = false) (hc : c ≠ '\\') :
    splitFrom c odd (front ++ c :: back) = splitFrom c odd front ++ splitFrom c false back := by
  obtain ⟨before, last, first, after, hfront, hback, hjoint⟩ :=
    exists_splitFrom_append c odd front (c :: back)
  rw [hend, splitFrom, if_pos ⟨rfl, rfl⟩, oddAfter_of_ne hc] at hback
  obtain ⟨rfl, rfl⟩ := List.cons.inj hback
  rw [hjoint, hfront, List.append_nil, List.append_assoc, List.singleton_append]

/-- A separator after an odd run belongs to a part, together with the last part of the text in front
of it and the first part of the text behind it. -/
lemma exists_splitFrom_append_escaped (hend : oddFrom odd front = true) (hc : c ≠ '\\') :
    ∃ before last first after, splitFrom c odd front = before ++ [last] ∧
      splitFrom c false back = first :: after ∧
        splitFrom c odd (front ++ c :: back) = before ++ (last ++ c :: first) :: after := by
  obtain ⟨before, last, first, after, hfront, hback, hjoint⟩ :=
    exists_splitFrom_append c odd front (c :: back)
  obtain ⟨part, parts, hparts⟩ := List.exists_cons_of_ne_nil (splitFrom_ne_nil c false back)
  rw [hend, splitFrom, oddAfter_of_ne hc, hparts,
    if_neg (not_separates_iff.mpr fun _ => rfl)] at hback
  obtain ⟨rfl, rfl⟩ := List.cons.inj hback
  exact ⟨before, last, part, parts, hfront, hparts, hjoint⟩

/-- A text is split at its first separator. -/
lemma splitFrom_append (h : Flagged c true odd front) (hend : oddFrom odd front = false)
    (hc : c ≠ '\\') : splitFrom c odd (front ++ c :: back) = front :: splitFrom c false back := by
  rw [splitFrom_append_separator hend hc, splitFrom_of_flagged h, List.singleton_append]

/-- Texts without a separator that do not end in an odd run are split as they were joined.

**Proof sketch.** Induction on the parts. No separator of the first part counts, and the one behind
it does, as the part does not end in an odd run; so the text is split there (`splitFrom_append`). -/
lemma splitUnescaped_intercalate (hc : c ≠ '\\') {parts : List (List Char)} (hne : parts ≠ [])
    (h : ∀ part ∈ parts, Flagged c true false part ∧ oddFrom false part = false) :
    splitUnescaped c ([c].intercalate parts) = parts := by
  induction parts with
  | nil => contradiction
  | cons part parts ih =>
    obtain ⟨hpart, hend⟩ := h part List.mem_cons_self
    cases parts with
    | nil =>
      rw [List.intercalate_singleton]
      exact splitFrom_of_flagged hpart
    | cons next parts =>
      have hrest := ih (List.cons_ne_nil _ _) fun p hp => h p (List.mem_cons_of_mem _ hp)
      rw [List.intercalate_cons_cons, List.append_assoc, List.singleton_append, splitUnescaped,
        splitFrom_append hpart hend hc]
      exact congrArg _ hrest

/-- What is split off has no separator: the first part is read on with the flag before the text, and
the others start anew.

**Proof sketch.** Induction on the text. A separator that counts makes an empty part in front of the
others, and any other character is put in front of the first part, where it does not count. -/
lemma flagged_splitFrom (hc : c ≠ '\\') (odd : Bool) (cs : List Char) :
    ∃ part parts, splitFrom c odd cs = part :: parts ∧ Flagged c true odd part ∧
      ∀ p ∈ parts, Flagged c true false p := by
  induction cs generalizing odd with
  | nil => exact ⟨[], [], rfl, trivial, by simp⟩
  | cons d cs ih =>
    obtain ⟨part, parts, hsplit, hpart, hparts⟩ := ih (oddAfter odd d)
    rw [splitFrom, hsplit]
    by_cases hd : d = c ∧ odd = false
    · refine ⟨[], part :: parts, if_pos hd, trivial, ?_⟩
      rw [hd.1, oddAfter_of_ne hc] at hpart
      exact List.forall_mem_cons.mpr ⟨hpart, hparts⟩
    · exact ⟨d :: part, parts, if_neg hd, ⟨not_separates_iff.mp hd, hpart⟩, hparts⟩

/-- No part of a split text has a separator. -/
lemma flagged_splitUnescaped (hc : c ≠ '\\') {part : List Char}
    (hpart : part ∈ splitUnescaped c cs) : Flagged c true false part := by
  obtain ⟨first, parts, hsplit, hfirst, hparts⟩ := flagged_splitFrom hc false cs
  rw [splitUnescaped, hsplit] at hpart
  rcases List.mem_cons.mp hpart with rfl | hpart
  · exact hfirst
  · exact hparts part hpart

/-- A text is cut at its first separator. -/
lemma cutFrom_append (h : Flagged c true odd front) (hend : oddFrom odd front = false) :
    cutFrom c odd (front ++ c :: back) = some (front, back) := by
  induction front generalizing odd with
  | nil => exact if_pos ⟨rfl, hend⟩
  | cons d front ih =>
    rw [List.cons_append, cutFrom, if_neg (not_separates_iff.mpr h.1), ih h.2 hend]
    rfl

/-- A text that is not cut has no separator. -/
lemma flagged_of_cutFrom_none (h : cutFrom c odd cs = none) : Flagged c true odd cs := by
  induction cs generalizing odd with
  | nil => trivial
  | cons d cs ih =>
    rw [cutFrom] at h
    split_ifs at h with hd
    exact ⟨not_separates_iff.mp hd, ih (Option.map_eq_none_iff.mp h)⟩

/-- A text is cut at a separator after an even run, and there is none in front of it.

**Proof sketch.** Induction on the text, to the first separator that counts. What is passed over
before it does not count. -/
lemma flagged_of_cutFrom_some (h : cutFrom c odd cs = some (front, back)) :
    cs = front ++ c :: back ∧ Flagged c true odd front ∧ oddFrom odd front = false := by
  induction cs generalizing odd front with
  | nil => contradiction
  | cons d cs ih =>
    rw [cutFrom] at h
    split_ifs at h with hd
    · cases h
      exact ⟨by rw [hd.1]; rfl, trivial, hd.2⟩
    · obtain ⟨⟨front', back'⟩, hcut, hparts⟩ := Option.map_eq_some_iff.mp h
      cases hparts
      obtain ⟨rfl, hfront, hend⟩ := ih hcut
      exact ⟨rfl, ⟨not_separates_iff.mp hd, hfront⟩, hend⟩

/-! ### Escaping commas -/

/-- A text with one more backslash in front of each comma. -/
def escapeCommas (cs : List Char) : List Char :=
  cs.flatMap fun c => if c = ',' then ['\\', ','] else [c]

/-- A comma gets one more backslash. -/
@[simp] lemma escapeCommas_comma : escapeCommas (',' :: cs) = '\\' :: ',' :: escapeCommas cs := rfl

/-- Any other character is kept. -/
lemma escapeCommas_cons (h : c ≠ ',') : escapeCommas (c :: cs) = c :: escapeCommas cs := by
  rw [escapeCommas, List.flatMap_cons, if_neg h]
  rfl

/-- An escaped text does not start with a comma. -/
lemma head?_escapeCommas_ne : (escapeCommas cs).head? ≠ some ',' := by
  cases cs with
  | nil => simp [escapeCommas]
  | cons c cs =>
    by_cases hc : c = ','
    · simp [hc]
    · simpa [escapeCommas_cons hc] using hc

/-- A character that is not a backslash in front of a comma is kept. -/
lemma unescapeCommas_cons (h : c = '\\' → cs.head? ≠ some ',') :
    unescapeCommas (c :: cs) = c :: unescapeCommas cs := by
  rw [unescapeCommas.eq_2]
  rintro rest rfl rfl
  exact h rfl rfl

/-- The backslashes that are put in front of commas are those that are taken away. -/
lemma unescapeCommas_escapeCommas (cs : List Char) : unescapeCommas (escapeCommas cs) = cs := by
  induction cs with
  | nil => rfl
  | cons c cs ih =>
    by_cases hc : c = ','
    · rw [hc, escapeCommas_comma, unescapeCommas, ih]
    · rw [escapeCommas_cons hc, unescapeCommas_cons fun _ => head?_escapeCommas_ne, ih]

/-- Escaping makes the run in front of each comma odd if it was even.

**Proof sketch.** Induction on the text. A comma comes after an even run, and the backslash that is
put in front of it makes this run odd. -/
lemma Flagged.escapeCommas (h : Flagged ',' false odd cs) :
    Flagged ',' true odd (escapeCommas cs) := by
  induction cs generalizing odd with
  | nil => trivial
  | cons c cs ih =>
    by_cases hc : c = ','
    · have hodd := h.1 hc
      have htail := ih h.2
      rw [hc, oddAfter_of_ne (by decide)] at htail
      rw [hc, escapeCommas_comma, hodd]
      exact ⟨by decide, fun _ => rfl, htail⟩
    · rw [escapeCommas_cons hc]
      exact ⟨fun hcomma => absurd hcomma hc, ih h.2⟩

/-- A text in which each comma is escaped is made of backslashes with their commas, each after an
even run, and of characters that are kept. What has to be carried along is that a text which is read
with an odd run does not start with a comma.

**Proof sketch.** Induction along the reader that takes backslashes away. In front of a comma that
it finds, the run before the backslash is even, because the comma itself is after an odd one. A
character that is kept is no comma, since a comma after an odd run would have had its backslash in
front. -/
lemma Flagged.escaped_induction {motive : Bool → List Char → Prop} (nil : ∀ odd, motive odd [])
    (escaped : ∀ rest, motive false rest → motive false ('\\' :: ',' :: rest))
    (kept : ∀ odd c rest, c ≠ ',' → (c = '\\' → rest.head? ≠ some ',') →
      motive (oddAfter odd c) rest → motive odd (c :: rest))
    (h : Flagged ',' true odd cs) (hhead : odd = true → cs.head? ≠ some ',') : motive odd cs := by
  induction cs using unescapeCommas.induct generalizing odd with
  | case1 rest ih =>
    obtain rfl : odd = false := by simpa [oddAfter] using h.2.1 rfl
    exact escaped rest (ih h.2.2 fun hodd => nomatch hodd)
  | case2 c rest hkeep ih =>
    have hc : c ≠ ',' := by
      rintro rfl
      exact hhead (h.1 rfl) rfl
    have hkept : c = '\\' → rest.head? ≠ some ',' := by
      intro hbackslash hrest
      obtain ⟨more, rfl⟩ := List.head?_eq_some_iff.mp hrest
      exact hkeep more hbackslash rfl
    refine kept odd c rest hc hkept (ih h.2 fun hodd => hkept ?_)
    by_contra hne
    rw [oddAfter_of_ne hne] at hodd
    contradiction
  | case3 => exact nil odd

/-- Taking a backslash away from each comma makes the run in front of it even if it was odd.

**Proof sketch.** Induction along the text. A backslash and its comma are read with an even run
before them, and that run stays. All other characters are no commas. -/
lemma Flagged.unescapeCommas (h : Flagged ',' true odd cs)
    (hhead : odd = true → cs.head? ≠ some ',') : Flagged ',' false odd (unescapeCommas cs) := by
  refine Flagged.escaped_induction (motive := fun odd cs => Flagged ',' false odd
    (Clause.unescapeCommas cs)) (fun _ => trivial) ?_ ?_ h hhead
  · exact fun rest ih => ⟨fun _ => rfl, ih⟩
  · intro odd c rest hc hkept ih
    rw [unescapeCommas_cons hkept]
    exact ⟨fun hcomma => absurd hcomma hc, ih⟩

end Clause

end Verdict
