import Mathlib.Data.List.TakeWhile
import Verdict.Proofs.Number.Literal
import Verdict.Proofs.Number.Rounding

/-!
# One text read as different kinds of numbers

A rule reads its parameter as the kind of number that it stands beside: a signed integer, an
unsigned one, or a floating-point number. This file compares what the three readers make of one
text.

## Main definitions

* `Verdict.Literal.PaddedByZero` — decimal digits with a zero in front of them.

## Main results

* `Verdict.Literal.natural?_of_integer?` — a signed literal is a natural one under its sign.
* `Verdict.Literal.decimal_or_padded` — what is both an integer and a floating-point number is
  decimal, but for a zero in front.
* `Verdict.Literal.exists_value_parse?` — without such a zero it is one number, rounded for the one.
-/

namespace Verdict.Literal

/-! ### Integers -/

variable {cs : List Char} {n : Nat} {m : Int}

/-- An unsigned literal has no sign to be split off. -/
lemma splitSign_of_natural? (h : natural? cs = some n) : splitSign cs = (false, cs) := by
  rw [splitSign]
  · rintro rest rfl
    rw [natural?_sign (.inl rfl)] at h
    contradiction
  · rintro rest rfl
    rw [natural?_sign (.inr rfl)] at h
    contradiction

/-- A signed literal is a natural one under its sign.

**Proof sketch.** The reader of signed literals takes the sign off as the reader of floating-point
numbers does: one case for each sign, and one for none, where the literal is natural and so has no
sign to be split off. -/
lemma natural?_of_integer? (h : integer? cs = some m) :
    ∃ n, natural? (splitSign cs).2 = some n ∧
      m = if (splitSign cs).1 then -(n : Int) else n := by
  by_cases hminus : cs.head? = some '-'
  · obtain ⟨rest, rfl⟩ := List.head?_eq_some_iff.mp hminus
    obtain ⟨n, hn, -, rfl⟩ := integer?_minus.mp h
    exact ⟨n, hn, rfl⟩
  · by_cases hplus : cs.head? = some '+'
    · obtain ⟨rest, rfl⟩ := List.head?_eq_some_iff.mp hplus
      obtain ⟨n, hn, -, rfl⟩ := integer?_plus.mp h
      exact ⟨n, hn, rfl⟩
    · obtain ⟨n, hn, -, rfl⟩ := (integer?_unsigned hminus hplus).mp h
      rw [splitSign_of_natural? hn]
      exact ⟨n, hn, rfl⟩

/-! ### Decimals -/

/-- Decimal digits behind a zero: an octal number beside integers, but a decimal one beside
floating-point numbers. -/
def PaddedByZero (cs : List Char) : Prop := ∃ c rest, cs = '0' :: c :: rest ∧ isDigit c = true

/-- The digits of decimals by their code points. -/
lemma isDigit_eq_true_iff {c : Char} : isDigit c = true ↔ 48 ≤ c.toNat ∧ c.toNat ≤ 57 := by
  have h0 : '0'.toNat = 48 := rfl
  have h9 : '9'.toNat = 57 := rfl
  simp only [isDigit, Char.le_def, UInt32.le_iff_toNat_le, Char.toNat_val, Bool.and_eq_true,
    decide_eq_true_iff]
  omega

/-- The digits of base ten are those of decimals. -/
lemma digitIn?_ten_eq_some_iff {c : Char} {d : Nat} :
    digitIn? 10 c = some d ↔ isDigit c = true ∧ d = c.toNat - '0'.toNat := by
  have h0 : '0'.toNat = 48 := rfl
  rw [digitIn?_eq_some_iff (by decide), isDigit_iff (by decide), isDigit_eq_true_iff]
  omega

/-- All characters of a number are digits. -/
lemma Spells.exists_isDigit {base : Nat} (h : Spells base cs n) :
    ∀ c ∈ cs, ∃ d, IsDigit base c d := by
  obtain ⟨-, digits, hall, -⟩ := h
  have hboth : List.Forall₂ (fun c d => (∃ d, IsDigit base c d) ∧ IsDigit base c d)
      cs.reverse digits := hall.imp fun c d hd => ⟨⟨d, hd⟩, hd⟩
  have hleft := ((List.forall₂_and_left _ _).mp hboth).1
  exact fun c hc => hleft c (List.mem_reverse.mpr hc)

/-- Digits are worth the same for both readers.

**Proof sketch.** The one reader may fail at each character and the other does not look; along a
text that the first one reads, both add the same digit to ten times the number so far. Induction on
the text, with this number generalized. -/
lemma digitsValue_of_positional? (h : positional? 10 cs = some n) :
    digitsValue cs = n ∧ ∀ c ∈ cs, isDigit c = true := by
  have hfold : ∀ (cs : List Char) (start : Nat),
      cs.foldlM (fun n c => (digitIn? 10 c).map (10 * n + ·)) start = some n →
        cs.foldl (fun n c => 10 * n + (c.toNat - '0'.toNat)) start = n ∧
          ∀ c ∈ cs, isDigit c = true := by
    intro cs
    induction cs with
    | nil =>
      intro start hstart
      exact ⟨Option.some.inj hstart, by simp⟩
    | cons c cs ih =>
      intro start hstart
      rw [List.foldlM_cons] at hstart
      obtain ⟨next, hnext, hrest⟩ := Option.bind_eq_some_iff.mp hstart
      obtain ⟨d, hd, rfl⟩ := Option.map_eq_some_iff.mp hnext
      obtain ⟨hc, rfl⟩ := digitIn?_ten_eq_some_iff.mp hd
      obtain ⟨hvalue, hall⟩ := ih _ hrest
      exact ⟨hvalue, List.forall_mem_cons.mpr ⟨hc, hall⟩⟩
  exact hfold cs 0 h

/-- A text of digits is a decimal without fraction and exponent. -/
lemma unsignedDecimal?_of_digits (negative : Bool) (hne : cs ≠ [])
    (hdigits : ∀ c ∈ cs, isDigit c = true) :
    unsignedDecimal? negative cs = some ⟨negative, digitsValue cs, 0⟩ := by
  have hwhole : cs.takeWhile isDigit = cs := List.takeWhile_eq_self_iff.mpr hdigits
  have hafter : cs.dropWhile isDigit = [] := List.dropWhile_eq_nil_iff.mpr hdigits
  rw [unsignedDecimal?, hwhole, hafter]
  simp [hne, exponentPart?]

/-- A decimal that is a natural number of 64 bits is rounded as this number.

**Proof sketch.** A number of 64 bits has at most 20 decimal digits, so it is neither too small nor
too great to be rounded as a ratio; and without an exponent this ratio has the denominator one. -/
lemma round_natural (negative : Bool) (hn : n < 2 ^ 64) :
    (Decimal.mk negative n 0).round .double = .ofRatio negative n 1 := by
  have hlength := Nat.toDigits_length 10 n 20 (by decide) (hn.trans (by decide))
  rw [Decimal.round]
  dsimp only
  split_ifs with hzero hgreat
  · obtain rfl : n = 0 := by omega
    rfl
  · omega
  · simp [Binary64.ofRatio]

/-- A text that starts with a digit is no word.

**Proof sketch.** Small letters come behind the digits, and lower case leaves a digit as it is; so
the first characters differ. -/
lemma matchesWord_eq_false {c : Char} {rest : List Char} (hc : isDigit c = true) {word : String}
    (hword : word.toList.head?.any ('a' ≤ ·) = true) :
    matchesWord (c :: rest) word = false := by
  rw [isDigit_eq_true_iff] at hc
  have hupper : ¬(c.val ≥ 'A'.val ∧ c.val ≤ 'Z'.val) := by
    have hA : 'A'.toNat = 65 := rfl
    simp only [ge_iff_le, UInt32.le_iff_toNat_le, Char.toNat_val]
    omega
  have hlower : c.toLower = c := dif_neg hupper
  rw [matchesWord, List.map_cons, hlower, beq_eq_false_iff_ne]
  intro heq
  rw [← heq, List.head?_cons, Option.any_some, decide_eq_true_iff, Char.le_def,
    UInt32.le_iff_toNat_le, Char.toNat_val, Char.toNat_val] at hword
  have ha : 'a'.toNat = 97 := rfl
  omega

/-- A floating-point number that starts with a digit is a decimal. -/
lemma parse?_of_digit {text : String} {c : Char} {rest : List Char}
    (hbody : (splitSign text.toList).2 = c :: rest) (hc : isDigit c = true) :
    Binary64.parse? text =
      (unsignedDecimal? (splitSign text.toList).1 (c :: rest)).map (·.round .double) := by
  rw [Binary64.parse?, Binary64.parseAs?]
  dsimp only
  rw [hbody, matchesWord_eq_false hc (by decide), matchesWord_eq_false hc (by decide),
    matchesWord_eq_false hc (by decide)]
  rfl

/-- Behind its digits a decimal can only go on with a point or an exponent. -/
lemma unsignedDecimal?_eq_none (negative : Bool) {c : Char} (rest : List Char)
    (hdigit : isDigit c = false) (hpoint : c ≠ '.') (hmark : c ≠ 'e' ∧ c ≠ 'E') :
    unsignedDecimal? negative ('0' :: c :: rest) = none := by
  have hwhole : ('0' :: c :: rest).takeWhile isDigit = ['0'] := by
    rw [List.takeWhile_cons, if_pos (by decide), List.takeWhile_cons, if_neg (by simp [hdigit])]
  have hafter : ('0' :: c :: rest).dropWhile isDigit = c :: rest := by
    rw [List.dropWhile_cons, if_pos (by decide), List.dropWhile_cons, if_neg (by simp [hdigit])]
  have hexponent : exponentPart? (c :: rest) = none := by
    simp [exponentPart?, hmark.1, hmark.2]
  simp [unsignedDecimal?, hwhole, hafter, hpoint, hexponent]

/-- What is both a natural literal and a floating-point number is a decimal number, unless it is
padded by a zero.

**Proof sketch.** Beside the decimal forms the grammar of literals has those that start with a zero.
A mark of a base behind it, or an underscore, is neither a digit nor the start of an exponent, so
that no floating-point number goes on like this. -/
lemma decimal_or_padded {text : String} {x : Binary64}
    (hn : natural? (splitSign text.toList).2 = some n) (hx : Binary64.parse? text = some x) :
    positional? 10 (splitSign text.toList).2 = some n ∨
      PaddedByZero (splitSign text.toList).2 := by
  have hstop {c : Char} {rest : List Char} (hbody : (splitSign text.toList).2 = '0' :: c :: rest)
      (hdigit : isDigit c = false) : c = '.' ∨ c = 'e' ∨ c = 'E' := by
    by_contra hnot
    simp only [not_or] at hnot
    rw [parse?_of_digit hbody (by decide),
      unsignedDecimal?_eq_none _ rest hdigit hnot.1 hnot.2] at hx
    contradiction
  obtain ⟨-, hgrammar⟩ := natural?_eq_some_iff.mp hn
  generalize (splitSign text.toList).2 = body at hgrammar hstop
  cases hgrammar with
  | zero => exact .inl rfl
  | decimal _ h => exact .inl ((positional?_eq_some_iff (by decide)).mpr h.2)
  | @marked mark base rest _ hmark h =>
    have hletter : isDigit mark = false ∧ mark ≠ '.' ∧ mark ≠ 'e' ∧ mark ≠ 'E' := by
      rw [markedBase?.eq_def] at hmark
      split at hmark <;> first | decide | contradiction
    obtain ⟨hdigit, hpoint, he, hE⟩ := hletter
    exact absurd (hstop rfl hdigit) (by simp [hpoint, he, hE])
  | @octal c rest _ hmark h =>
    refine .inr ⟨c, rest, rfl, ?_⟩
    by_contra hdigit
    rw [Bool.not_eq_true] at hdigit
    -- what the reader of floating-point numbers goes on with is no octal digit
    have hmem : c ∈ (c :: rest).filter (· != '_') := by
      rcases hstop rfl hdigit with rfl | rfl | rfl <;> exact List.mem_cons_self
    obtain ⟨d, hd⟩ := h.exists_isDigit c hmem
    rw [isDigit_iff (by decide)] at hd
    have hdecimal : isDigit c = true := isDigit_eq_true_iff.mpr (by omega)
    rw [hdecimal] at hdigit
    contradiction

/-- A text that is both an integer and a floating-point number, and is not padded by a zero, is one
number, which is rounded for the one.

**Proof sketch.** The text consists of decimal digits (`decimal_or_padded`), and these are worth the
same for both readers. The number has at most 64 bits, so it is rounded as a ratio
(`round_natural`), and that passes over no number of the format. -/
lemma exists_value_parse? {text : String} {x : Binary64}
    (hn : natural? (splitSign text.toList).2 = some n) (hx : Binary64.parse? text = some x)
    (hpadded : ¬PaddedByZero (splitSign text.toList).2) :
    ∃ v, x.value? = some v ∧ BinaryFormat.double.NothingBetween
      (Binary64.signed (splitSign text.toList).1 n) v := by
  have hlimit : n < 2 ^ 64 := (natural?_eq_some_iff.mp hn).1
  have hne : (splitSign text.toList).2 ≠ [] := by
    intro hnil
    rw [hnil] at hn
    contradiction
  obtain ⟨hvalue, hdigits⟩ :=
    digitsValue_of_positional? ((decimal_or_padded hn hx).resolve_right hpadded)
  obtain ⟨c, rest, hbody⟩ := List.exists_cons_of_ne_nil hne
  have hparse := parse?_of_digit hbody (hdigits c (by rw [hbody]; exact List.mem_cons_self))
  rw [← hbody, unsignedDecimal?_of_digits _ hne hdigits, hvalue, Option.map_some,
    round_natural _ hlimit, hx, Option.some_inj] at hparse
  rw [hparse]
  exact Binary64.ofRatio_natural hlimit _

end Verdict.Literal
