import Verdict.Proofs.Pattern.Matching
import Verdict.Proofs.Text.CharSet

/-!
# Patterns that do not look around

Only assertions look at what stands around a text. Without them a pattern matches a text wherever it
stands, so that it comes down to a property of texts. This file computes the property along the
pattern.

## Main definitions

* `Verdict.Pattern.Denotes` — a pattern matches just the texts with a property, wherever they stand.

## Main results

* `Verdict.Pattern.Denotes.seq`, `Denotes.opt`, `Denotes.star`, `Denotes.plus` — the properties of
  patterns by those of their parts.
* `Verdict.Pattern.denotes_star_chars`, `denotes_plus_chars` — repetitions of one character.
* `Verdict.Pattern.matches_textStart_iff`, `matches_textEnd_iff` — where a text starts and ends.
-/

namespace Verdict.Pattern

/-- A pattern matches just the texts with a property, whatever stands before and after them. -/
def Denotes (p : Pattern) (accepted : List Char → Prop) : Prop :=
  ∀ before within after, p.Matches before within after ↔ accepted within

variable {p q : Pattern} {accepted other : List Char → Prop}

/-- Properties that hold of the same texts are denoted by the same patterns. -/
lemma Denotes.congr (h : p.Denotes accepted) (hiff : ∀ cs, accepted cs ↔ other cs) :
    p.Denotes other :=
  fun before within after => (h before within after).trans (hiff within)

/-- A set of characters matches the texts of one character from it. -/
lemma denotes_chars (set : Text.CharSet) :
    (chars set).Denotes fun cs => ∃ c, set.contains c = true ∧ cs = [c] :=
  fun _ _ _ => Iff.rfl

/-- A character matches itself. -/
lemma denotes_char (c : Char) : (char c).Denotes fun cs => cs = [c] :=
  (denotes_chars _).congr fun cs => by simp

/-- One text after the other. -/
lemma Denotes.seq (hp : p.Denotes accepted) (hq : q.Denotes other) :
    (seq p q).Denotes fun cs => ∃ left right, cs = left ++ right ∧ accepted left ∧ other right := by
  intro before within after
  rw [Matches, Placed.andThen]
  simp only [hp _ _ _, hq _ _ _]

/-- So many texts one after the other.

**Proof sketch.** Induction on the number. One text more is a first text in front of the others. -/
lemma Denotes.times_iff (hp : p.Denotes accepted) (n : Nat) (before within after : List Char) :
    p.Matches.times n before within after ↔
      ∃ parts : List (List Char), parts.length = n ∧ within = parts.flatten ∧
        ∀ part ∈ parts, accepted part := by
  induction n generalizing before within with
  | zero =>
    rw [Placed.times]
    constructor
    · rintro rfl
      exact ⟨[], rfl, rfl, by simp⟩
    · rintro ⟨parts, hlength, rfl, -⟩
      simp [List.eq_nil_of_length_eq_zero hlength]
  | succ n ih =>
    rw [Placed.times, Placed.andThen]
    simp only [hp _ _ _, ih]
    constructor
    · rintro ⟨left, _, rfl, hleft, parts, rfl, rfl, hparts⟩
      exact ⟨left :: parts, rfl, rfl, List.forall_mem_cons.mpr ⟨hleft, hparts⟩⟩
    · rintro ⟨parts, hlength, rfl, hparts⟩
      obtain ⟨left, parts, rfl⟩ := List.exists_cons_of_length_eq_add_one hlength
      obtain ⟨hleft, hparts⟩ := List.forall_mem_cons.mp hparts
      exact ⟨left, parts.flatten, rfl, hleft, parts, by simpa using hlength, rfl, hparts⟩

/-- A text or none.

**Proof sketch.** At most one repetition is none, which matches the empty text, or one, which
matches what is matched. -/
lemma Denotes.opt (hp : p.Denotes accepted) : (opt p).Denotes fun cs => cs = [] ∨ accepted cs := by
  intro before within after
  rw [Pattern.opt, Matches]
  constructor
  · rintro ⟨n, -, hmost, hn⟩
    have hn1 : n ≤ 1 := by simpa using hmost 1 rfl
    obtain ⟨parts, hlength, rfl, hparts⟩ := (hp.times_iff n _ _ _).mp hn
    rcases parts with _ | ⟨part, _ | ⟨next, rest⟩⟩
    · exact .inl rfl
    · exact .inr (by simpa using hparts)
    · rw [List.length_cons, List.length_cons] at hlength
      omega
  · rintro (rfl | hwithin)
    · exact ⟨0, Nat.le_refl 0, by simp, rfl⟩
    · refine ⟨1, by omega, by simp, (hp.times_iff 1 _ _ _).mpr ⟨[within], rfl, by simp, ?_⟩⟩
      simpa using hwithin

/-- Any number of texts, but not fewer than the least one. -/
lemma Denotes.repeated (hp : p.Denotes accepted) (least : Nat) :
    (repeated p least none).Denotes fun cs =>
      ∃ parts : List (List Char), least ≤ parts.length ∧ cs = parts.flatten ∧
        ∀ part ∈ parts, accepted part := by
  intro before within after
  rw [Matches]
  simp only [hp.times_iff]
  constructor
  · rintro ⟨_, hn, -, parts, rfl, hcs, hparts⟩
    exact ⟨parts, hn, hcs, hparts⟩
  · rintro ⟨parts, hn, hcs, hparts⟩
    exact ⟨parts.length, hn, by simp, parts, rfl, hcs, hparts⟩

/-- Any number of texts. -/
lemma Denotes.star (hp : p.Denotes accepted) :
    (star p).Denotes fun cs =>
      ∃ parts : List (List Char), cs = parts.flatten ∧ ∀ part ∈ parts, accepted part :=
  (hp.repeated 0).congr fun cs => by simp

/-- Any number of texts, but at least one. -/
lemma Denotes.plus (hp : p.Denotes accepted) :
    (plus p).Denotes fun cs =>
      ∃ parts : List (List Char), parts ≠ [] ∧ cs = parts.flatten ∧ ∀ part ∈ parts, accepted part :=
  (hp.repeated 1).congr fun cs => by simp [Nat.one_le_iff_ne_zero]

/-! ### Characters -/

/-- The text of some characters is cut into these.

**Proof sketch.** A list of texts of one character each is as long as its text, by induction on the
list. Conversely a text is cut into its characters. -/
lemma exists_flatten_chars_iff {set : Text.CharSet} {cs : List Char} {n : Nat} :
    (∃ parts : List (List Char), n ≤ parts.length ∧ cs = parts.flatten ∧
      ∀ part ∈ parts, ∃ c, set.contains c = true ∧ part = [c]) ↔
      n ≤ cs.length ∧ ∀ c ∈ cs, set.contains c = true := by
  constructor
  · rintro ⟨parts, hn, rfl, hparts⟩
    induction parts generalizing n with
    | nil => simpa using hn
    | cons part parts ih =>
      obtain ⟨⟨c, hc, hpart⟩, hrest⟩ := List.forall_mem_cons.mp hparts
      subst hpart
      rw [List.length_cons] at hn
      obtain ⟨hlength, hall⟩ := ih (n := n - 1) (by omega) hrest
      rw [List.flatten_cons, List.singleton_append, List.length_cons]
      exact ⟨by omega, List.forall_mem_cons.mpr ⟨hc, hall⟩⟩
  · rintro ⟨hn, hall⟩
    refine ⟨cs.map ([·]), by simpa using hn, ?_, by simpa using hall⟩
    rw [← List.flatMap_def, List.flatMap_singleton']

/-- Any number of characters from a set. -/
lemma denotes_star_chars (set : Text.CharSet) :
    (star (chars set)).Denotes fun cs => ∀ c ∈ cs, set.contains c = true :=
  ((denotes_chars set).repeated 0).congr fun cs => by
    rw [exists_flatten_chars_iff]
    simp

/-- Any number of characters from a set, but at least one. -/
lemma denotes_plus_chars (set : Text.CharSet) :
    (plus (chars set)).Denotes fun cs => cs ≠ [] ∧ ∀ c ∈ cs, set.contains c = true :=
  ((denotes_chars set).repeated 1).congr fun cs => by
    rw [exists_flatten_chars_iff, Nat.one_le_iff_ne_zero, ne_eq, List.length_eq_zero_iff]

/-! ### Assertions -/

/-- What one pattern after the other matches, in its surroundings. -/
lemma matches_seq_iff {before within after : List Char} :
    (seq p q).Matches before within after ↔ ∃ left right, within = left ++ right ∧
      p.Matches before left (right ++ after) ∧ q.Matches (before ++ left) right after :=
  Iff.rfl

/-- A text starts where nothing stands before. -/
lemma matches_textStart_iff {before within after : List Char} :
    (assert .textStart).Matches before within after ↔ within = [] ∧ before = [] := by
  simp [Matches, Assertion.holds]

/-- A text ends where nothing stands behind. -/
lemma matches_textEnd_iff {before within after : List Char} :
    (assert .textEnd).Matches before within after ↔ within = [] ∧ after = [] := by
  simp [Matches, Assertion.holds]

end Verdict.Pattern
