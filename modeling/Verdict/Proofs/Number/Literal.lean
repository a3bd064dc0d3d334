import Mathlib.Data.List.Forall2
import Mathlib.Data.List.Induction
import Mathlib.Data.Nat.Digits.Defs
import Mathlib.Tactic.IntervalCases
import Verdict.Number.Literal

/-!
# The grammar of integer literals

Which texts are integer literals, and the numbers that they stand for, said without the readers.

## Main definitions

* `Verdict.Literal.Spells` — a text that spells a number in a base.
* `Verdict.Literal.Natural` — the grammar of unsigned literals.

## Main results

* `Verdict.Literal.positional?_eq_some_iff` — reading digits gives the number that they spell.
* `Verdict.Literal.eq_some_iff_grammar` — the literals that are read are those of the grammar that
  are in range.
-/

namespace Verdict.Literal

/-- A character is a digit of a base: of the sixteen digits, letters of either case for ten on, it
is the one with that number, which is below the base. -/
def IsDigit (base : Nat) (c : Char) (d : Nat) : Prop :=
  d < base ∧ ("0123456789abcdef".toList[d]? = some c ∨ "0123456789ABCDEF".toList[d]? = some c)

/-- A text spells a number in a base: it has at least one character, and all of them are digits, of
which the last is the least significant one. -/
def Spells (base : Nat) (cs : List Char) (n : Nat) : Prop :=
  cs ≠ [] ∧ ∃ digits, List.Forall₂ (IsDigit base) cs.reverse digits ∧ n = Nat.ofDigits base digits

/-- The base that a letter names. -/
def markedBase? : Char → Option Nat
  | 'x' | 'X' => some 16
  | 'o' | 'O' => some 8
  | 'b' | 'B' => some 2
  | _ => none

/-- Unsigned literals and their numbers: zero, a decimal number that does not start with a zero, or
a zero with a number in another base behind it. The base is named by a letter, and without one it is
eight. Underscores in the number make no difference. -/
inductive Natural : List Char → Nat → Prop where
  | zero : Natural ['0'] 0
  | decimal {cs : List Char} {n : Nat} (hhead : cs.head? ≠ some '0') (h : Spells 10 cs n) :
    Natural cs n
  | marked {mark : Char} {base : Nat} {rest : List Char} {n : Nat}
    (hmark : markedBase? mark = some base) (h : Spells base (rest.filter (· != '_')) n) :
    Natural ('0' :: mark :: rest) n
  | octal {c : Char} {rest : List Char} {n : Nat} (hmark : markedBase? c = none)
    (h : Spells 8 ((c :: rest).filter (· != '_')) n) : Natural ('0' :: c :: rest) n

/-! ### Digits -/

/-- The character of a digit by its code point. -/
lemma isDigit_iff {base : Nat} (hbase : base ≤ 16) {c : Char} {d : Nat} :
    IsDigit base c d ↔ d < base ∧ (c.toNat = 48 + d ∧ d < 10 ∨
      (c.toNat = 87 + d ∨ c.toNat = 55 + d) ∧ 10 ≤ d) := by
  rw [IsDigit]
  refine and_congr_right fun hd => ?_
  have hd : d < 16 := hd.trans_le hbase
  interval_cases d <;> simp [← Char.toNat_inj, eq_comm]

/-- The value of a character is the number of the digit that it is.

**Proof sketch.** Both sides are said by code points. The digits and the letters of either case are
three ranges of code points without gaps, so that linear arithmetic is enough. -/
lemma digitIn?_eq_some_iff {base : Nat} (hbase : base ≤ 16) {c : Char} {d : Nat} :
    digitIn? base c = some d ↔ IsDigit base c d := by
  have h0 : '0'.toNat = 48 := rfl
  have h9 : '9'.toNat = 57 := rfl
  have ha : 'a'.toNat = 97 := rfl
  have hz : 'z'.toNat = 122 := rfl
  have hA : 'A'.toNat = 65 := rfl
  have hZ : 'Z'.toNat = 90 := rfl
  rw [isDigit_iff hbase, digitIn?, Option.filter_eq_some_iff, and_comm, decide_eq_true_iff]
  refine and_congr_right fun hd => ?_
  simp only [Char.le_def, UInt32.le_iff_toNat_le, Char.toNat_val]
  split_ifs <;> simp <;> omega

/-- Reading digits gives the number that they spell.

**Proof sketch.** Induction from the end of the text. Its last character is the least significant
digit, which is added to the base times the number in front of it. -/
lemma positional?_eq_some_iff {base : Nat} (hbase : base ≤ 16) {cs : List Char} {n : Nat} :
    positional? base cs = some n ↔
      ∃ digits, List.Forall₂ (IsDigit base) cs.reverse digits ∧ n = Nat.ofDigits base digits := by
  induction cs using List.reverseRecOn generalizing n with
  | nil => simp [positional?, eq_comm]
  | append_singleton cs c ih =>
    have hstep : positional? base (cs ++ [c]) =
        (positional? base cs).bind fun n => (digitIn? base c).map (base * n + ·) := by
      rw [positional?, List.foldlM_append]
      simp only [List.foldlM_cons, List.foldlM_nil, bind_pure]
      rfl
    rw [hstep, List.reverse_concat]
    constructor
    · intro h
      obtain ⟨front, hfront, h⟩ := Option.bind_eq_some_iff.mp h
      obtain ⟨d, hd, rfl⟩ := Option.map_eq_some_iff.mp h
      obtain ⟨digits, hdigits, rfl⟩ := ih.mp hfront
      refine ⟨d :: digits, .cons ((digitIn?_eq_some_iff hbase).mp hd) hdigits, ?_⟩
      rw [Nat.ofDigits_cons, Nat.add_comm]
    · rintro ⟨digits, hdigits, rfl⟩
      obtain ⟨d, front, hd, hfront, rfl⟩ := List.forall₂_cons_left_iff.mp hdigits
      rw [ih.mpr ⟨front, hfront, rfl⟩, Option.bind_some, (digitIn?_eq_some_iff hbase).mpr hd,
        Option.map_some, Nat.ofDigits_cons, Nat.add_comm]

/-! ### Bases -/

/-- A text that does not start with a zero is decimal. -/
lemma splitBase_of_head {cs : List Char} (h : cs.head? ≠ some '0') : splitBase cs = (10, cs) := by
  rw [splitBase]
  rintro mark rest rfl
  exact h rfl

/-- Behind a zero a letter may name the base, which is eight otherwise. -/
lemma splitBase_of_zero (c : Char) (rest : List Char) :
    splitBase ('0' :: c :: rest) = ((markedBase? c).map (·, rest)).getD (8, c :: rest) := by
  simp only [splitBase.eq_def]
  split <;> simp [markedBase?, *]

/-- The bases that a letter names have digits, and ten is not one of them. -/
lemma markedBase?_le {c : Char} {base : Nat} (h : markedBase? c = some base) :
    base ≤ 16 ∧ base ≠ 10 := by
  rw [markedBase?.eq_def] at h
  split at h <;> cases h <;> decide

/-- A natural literal is read off the digits behind its base.

**Proof sketch.** The reader takes the underscores out unless the base is ten, asks for a digit at
least, and then reads digits (`positional?_eq_some_iff`). -/
lemma natural?_eq_some_iff_spells {cs body : List Char} {base n : Nat}
    (h : splitBase cs = (base, body)) (hbase : base ≤ 16) :
    natural? cs = some n ↔
      n < 2 ^ 64 ∧ Spells base (if base = 10 then body else body.filter (· != '_')) n := by
  rw [natural?, h, Spells, ← positional?_eq_some_iff hbase]
  dsimp only
  generalize (if base = 10 then body else body.filter (· != '_')) = digits
  cases digits with
  | nil => simp
  | cons c cs =>
    rw [if_neg (by simp), Option.filter_eq_some_iff, decide_eq_true_iff, and_comm]
    simp [naturalLimit]

/-- A natural literal is in the grammar, and its number has at most 64 bits.

**Proof sketch.** Case distinction on what the base is read off: no zero in front, a zero alone, a
zero and a letter that names a base, a zero and anything else. In each case only one rule of the
grammar applies, and it asks of the digits what the reader asks. -/
lemma natural?_eq_some_iff {cs : List Char} {n : Nat} :
    natural? cs = some n ↔ n < 2 ^ 64 ∧ Natural cs n := by
  by_cases hhead : cs.head? = some '0'
  · obtain ⟨rest, rfl⟩ := List.head?_eq_some_iff.mp hhead
    cases rest with
    | nil =>
      have hzero : natural? ['0'] = some 0 := by decide
      rw [hzero, Option.some_inj]
      constructor
      · rintro rfl
        exact ⟨by decide, .zero⟩
      · rintro ⟨-, h⟩
        cases h with
        | zero => rfl
        | decimal hhead => exact absurd rfl hhead
    | cons c rest =>
      -- behind the zero a mark tells the base, and without one the base is eight
      have hsplit := splitBase_of_zero c rest
      cases hmark : markedBase? c with
      | none =>
        rw [hmark] at hsplit
        rw [natural?_eq_some_iff_spells hsplit (by decide), if_neg (by decide)]
        refine and_congr_right fun _ => ⟨.octal hmark, fun h => ?_⟩
        cases h with
        | decimal hhead => exact absurd rfl hhead
        | marked hbase => rw [hmark] at hbase; contradiction
        | octal _ h => exact h
      | some base =>
        rw [hmark] at hsplit
        obtain ⟨hbase, hne⟩ := markedBase?_le hmark
        rw [natural?_eq_some_iff_spells hsplit hbase, if_neg hne]
        refine and_congr_right fun _ => ⟨.marked hmark, fun h => ?_⟩
        cases h with
        | decimal hhead => exact absurd rfl hhead
        | marked hbase h => rwa [Option.some_inj.mp (hmark.symm.trans hbase)]
        | octal hbase => rw [hmark] at hbase; contradiction
  · rw [natural?_eq_some_iff_spells (splitBase_of_head hhead) (by decide), if_pos rfl]
    refine and_congr_right fun _ => ⟨.decimal hhead, fun h => ?_⟩
    cases h with
    | decimal _ h => exact h
    | zero | marked | octal => exact absurd rfl hhead

/-! ### Signs -/

/-- A natural literal does not start with a sign. -/
lemma natural?_sign {sign : Char} (h : sign = '-' ∨ sign = '+') (rest : List Char) :
    natural? (sign :: rest) = none := by
  rcases h with rfl | rfl <;> rfl

/-- A number in some range, under a sign. -/
lemma map_filter_eq_some_iff {n? : Option Nat} {inRange : Nat → Bool} {sign : Nat → Int} {m : Int} :
    (n?.filter inRange).map sign = some m ↔ ∃ n, n? = some n ∧ inRange n = true ∧ m = sign n := by
  simp only [Option.map_eq_some_iff, Option.filter_eq_some_iff, and_assoc, eq_comm (b := m)]

/-- The limit of positive numbers is the greatest one. -/
lemma lt_integerLimit_iff {n : Nat} : n < integerLimit ↔ n ≤ 2 ^ 63 - 1 := by
  rw [integerLimit]
  omega

/-- A literal with a minus sign has a natural literal behind it, of at most `2 ^ 63`. -/
lemma integer?_minus {rest : List Char} {m : Int} : integer? ('-' :: rest) = some m ↔
    ∃ n, natural? rest = some n ∧ n ≤ 2 ^ 63 ∧ m = -(n : Int) := by
  have hrest : integer? ('-' :: rest) =
      ((natural? rest).filter (· ≤ integerLimit)).map fun n : Nat => -(n : Int) := by
    rw [integer?]
    cases (natural? rest).filter (· ≤ integerLimit) <;> rfl
  simp only [hrest, map_filter_eq_some_iff, decide_eq_true_iff]
  rfl

/-- A literal with a plus sign has a natural literal behind it, of less than `2 ^ 63`. -/
lemma integer?_plus {rest : List Char} {m : Int} : integer? ('+' :: rest) = some m ↔
    ∃ n, natural? rest = some n ∧ n ≤ 2 ^ 63 - 1 ∧ m = n := by
  simp only [integer?, map_filter_eq_some_iff, decide_eq_true_iff, lt_integerLimit_iff]
  rfl

/-- A literal without a sign is a natural literal, of less than `2 ^ 63`. -/
lemma integer?_unsigned {cs : List Char} (hminus : cs.head? ≠ some '-')
    (hplus : cs.head? ≠ some '+') {m : Int} : integer? cs = some m ↔
      ∃ n, natural? cs = some n ∧ n ≤ 2 ^ 63 - 1 ∧ m = n := by
  have hcs : integer? cs = ((natural? cs).filter (· < integerLimit)).map Int.ofNat := by
    rw [integer?]
    · rintro rest rfl
      exact hminus rfl
    · rintro rest rfl
      exact hplus rfl
  simp only [hcs, map_filter_eq_some_iff, decide_eq_true_iff, lt_integerLimit_iff]
  rfl

/-- **The literals are those of the grammar.** An unsigned one is read as its number if this is
below `2 ^ 64`. A signed one is an unsigned one with at most one sign in front, and is read as its
number under that sign if this is at least `-2 ^ 63` and below `2 ^ 63`.

**Proof sketch.** The first part is `natural?_eq_some_iff`. For the second, the literal is read by
its first character: behind a minus sign, behind a plus sign, or as a whole. The forms exclude each
other because a natural literal does not start with a sign (`natural?_sign`). -/
theorem eq_some_iff_grammar (cs : List Char) :
    (∀ n, natural? cs = some n ↔ n < 2 ^ 64 ∧ Natural cs n) ∧
      ∀ m, integer? cs = some m ↔ ∃ u n, natural? u = some n ∧
        ((cs = u ∨ cs = '+' :: u) ∧ n ≤ 2 ^ 63 - 1 ∧ m = n ∨
          cs = '-' :: u ∧ n ≤ 2 ^ 63 ∧ m = -(n : Int)) := by
  refine ⟨fun n => natural?_eq_some_iff, fun m => ⟨fun h => ?_, ?_⟩⟩
  · by_cases hminus : cs.head? = some '-'
    · obtain ⟨rest, rfl⟩ := List.head?_eq_some_iff.mp hminus
      obtain ⟨n, hn, hm⟩ := integer?_minus.mp h
      exact ⟨rest, n, hn, .inr ⟨rfl, hm⟩⟩
    · by_cases hplus : cs.head? = some '+'
      · obtain ⟨rest, rfl⟩ := List.head?_eq_some_iff.mp hplus
        obtain ⟨n, hn, hm⟩ := integer?_plus.mp h
        exact ⟨rest, n, hn, .inl ⟨.inr rfl, hm⟩⟩
      · obtain ⟨n, hn, hm⟩ := (integer?_unsigned hminus hplus).mp h
        exact ⟨cs, n, hn, .inl ⟨.inl rfl, hm⟩⟩
  · rintro ⟨u, n, hn, ⟨rfl | rfl, hm⟩ | ⟨rfl, hm⟩⟩
    · refine (integer?_unsigned ?_ ?_).mpr ⟨n, hn, hm⟩ <;> intro hhead <;>
        obtain ⟨rest, rfl⟩ := List.head?_eq_some_iff.mp hhead
      · rw [natural?_sign (.inl rfl)] at hn
        contradiction
      · rw [natural?_sign (.inr rfl)] at hn
        contradiction
    · exact integer?_plus.mpr ⟨n, hn, hm⟩
    · exact integer?_minus.mpr ⟨n, hn, hm⟩

/-- Underscores may stand anywhere behind a base, but a sign only in front of it. -/
example : integer? "-0x_f_f".toList = some (-255) ∧ integer? "0x-1".toList = none ∧
    natural? "1_000".toList = none := by decide

end Verdict.Literal
