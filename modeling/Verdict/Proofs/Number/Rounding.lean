import Mathlib.Algebra.Order.Field.Power
import Mathlib.Data.Nat.Log
import Mathlib.Tactic.Linarith
import Mathlib.Tactic.Positivity
import Mathlib.Tactic.Ring
import Verdict.Number.Binary64

/-!
# Rounding and order

Rounding a ratio to a binary format passes over no number of the format: those not above the ratio
are not above the rounded number, and those not below the one are not below the other.

## Main definitions

* `Verdict.Binary64.value?` — the number that a finite number of the format denotes.
* `Verdict.BinaryFormat.Represents` — the numbers that a format has a significand and an exponent
  for, however great.
* `Verdict.BinaryFormat.NothingBetween` — the way from one number to another passes over no number
  of the format.

## Main results

* `Verdict.Binary64.compare?_of_value` — numbers are compared by what they denote.
* `Verdict.Binary64.roundTo_nearest` — rounding passes over no number of the format.
-/

namespace Verdict

/-! ### Quotients -/

section RoundDiv

variable {num den k : Nat}

/-- Where there is no remainder a quotient is not rounded up. -/
lemma roundDiv_eq (num : Nat) (hden : 0 < den) :
    roundDiv num den = num / den ∨ roundDiv num den = num / den + 1 ∧ 0 < num % den := by
  rw [roundDiv]
  split_ifs with hup
  · refine .inr ⟨rfl, ?_⟩
    simp only [Bool.or_eq_true, decide_eq_true_eq, Bool.and_eq_true, beq_iff_eq] at hup
    omega
  · exact .inl rfl

/-- A quotient that is rounded is not below a natural number that the ratio is not below. -/
lemma le_roundDiv (hden : 0 < den) (h : k * den ≤ num) : k ≤ roundDiv num den := by
  have hquotient : k ≤ num / den := (Nat.le_div_iff_mul_le hden).mpr h
  rcases roundDiv_eq num hden with heq | ⟨heq, -⟩ <;> omega

/-- A quotient that is rounded is not above a natural number that the ratio is not above.

**Proof sketch.** If the quotient is rounded up, then there is a remainder, so that the quotient
itself is below the bound. -/
lemma roundDiv_le (hden : 0 < den) (h : num ≤ k * den) : roundDiv num den ≤ k := by
  rcases roundDiv_eq num hden with heq | ⟨heq, hrest⟩
  · rw [heq]
    exact Nat.div_le_of_le_mul (by rwa [Nat.mul_comm])
  · have hsum := Nat.div_add_mod num den
    have hlt : den * (num / den) < den * k := by
      rw [Nat.mul_comm den k]
      omega
    have hquotient := Nat.lt_of_mul_lt_mul_left hlt
    omega

end RoundDiv

/-! ### Powers of two -/

/-- A power of two as a quotient of natural ones, one of which is one. -/
lemma two_zpow_mul_toNat (e : Int) : (2 : ℚ) ^ e * 2 ^ (-e).toNat = 2 ^ e.toNat := by
  rcases Int.le_total 0 e with he | he
  · obtain ⟨n, rfl⟩ := Int.eq_ofNat_of_zero_le he
    simp
  · obtain ⟨n, hn⟩ := Int.eq_ofNat_of_zero_le (Int.neg_nonneg_of_nonpos he)
    obtain rfl : e = -n := by omega
    simp

/-- Scaling divides by a power of two.

**Proof sketch.** Of numerator and denominator, one is multiplied by a power of two. Both are
multiplied by the power that the denominator lacks, so that the denominator is multiplied by `2 ^ e`
altogether. -/
lemma scaleDown_ratio (num den : Nat) (e : Int) :
    ((scaleDown num den e).1 : ℚ) / (scaleDown num den e).2 = num / den / 2 ^ e := by
  have hpow : (2 : ℚ) ^ (-e).toNat ≠ 0 := by positivity
  calc ((scaleDown num den e).1 : ℚ) / (scaleDown num den e).2
      = num * 2 ^ (-e).toNat / (den * 2 ^ e * 2 ^ (-e).toNat) := by
        rw [mul_assoc, two_zpow_mul_toNat]
        simp [scaleDown]
    _ = num / den / 2 ^ e := by rw [mul_div_mul_right _ _ hpow, div_div]

/-- Scaling keeps the denominator positive. -/
lemma scaleDown_pos {num den : Nat} (hden : 0 < den) (e : Int) : 0 < (scaleDown num den e).2 :=
  Nat.mul_pos hden (Nat.two_pow_pos _)

/-- Comparing a multiple of a power of two to a ratio compares natural numbers. -/
lemma mul_scaleDown_le_iff (num : Nat) {den : Nat} (hden : 0 < den) (e : Int) (k : Nat) :
    k * (scaleDown num den e).2 ≤ (scaleDown num den e).1 ↔ (k : ℚ) * 2 ^ e ≤ num / den := by
  have hpos : (0 : ℚ) < (scaleDown num den e).2 := Nat.cast_pos.mpr (scaleDown_pos hden e)
  rw [← le_div_iff₀ (by positivity : (0 : ℚ) < 2 ^ e), ← scaleDown_ratio, le_div_iff₀ hpos]
  exact_mod_cast Iff.rfl

/-- Comparing a ratio to a multiple of a power of two compares natural numbers, too. -/
lemma scaleDown_le_mul_iff {num den : Nat} (hden : 0 < den) (e : Int) (k : Nat) :
    (scaleDown num den e).1 ≤ k * (scaleDown num den e).2 ↔ (num : ℚ) / den ≤ k * 2 ^ e := by
  have hpos : (0 : ℚ) < (scaleDown num den e).2 := Nat.cast_pos.mpr (scaleDown_pos hden e)
  rw [← div_le_iff₀ (by positivity : (0 : ℚ) < 2 ^ e), ← scaleDown_ratio, div_le_iff₀ hpos]
  exact_mod_cast Iff.rfl

/-- The power of two of a ratio is not above it.

**Proof sketch.** The difference of the two logarithms is the power, or one more than it. Where it
is one more, the numerator has its leading digit and the denominator less than one digit more;
otherwise the comparison that decides it says that the ratio is not below the power. -/
lemma two_zpow_ratioLog2_le {num den : Nat} (hnum : 0 < num) (hden : 0 < den) :
    (2 : ℚ) ^ ratioLog2 num den ≤ num / den := by
  rw [ratioLog2]
  dsimp only
  have hdenQ : (0 : ℚ) < den := Nat.cast_pos.mpr hden
  split_ifs with hlt
  · have hlow : (2 : ℚ) ^ num.log2 ≤ num := by exact_mod_cast Nat.log2_self_le hnum.ne'
    have hhigh : (den : ℚ) ≤ 2 ^ (den.log2 + 1) := by exact_mod_cast Nat.lt_log2_self.le
    rw [le_div_iff₀ hdenQ]
    calc (2 : ℚ) ^ ((num.log2 : Int) - den.log2 - 1) * den
        ≤ 2 ^ ((num.log2 : Int) - den.log2 - 1) * 2 ^ (den.log2 + 1) := by gcongr
      _ = 2 ^ num.log2 := by
        rw [← zpow_natCast, ← zpow_add₀ two_ne_zero, ← zpow_natCast]
        congr 1
        omega
      _ ≤ num := hlow
  · have hone := (mul_scaleDown_le_iff num hden (num.log2 - den.log2) 1).mp (by omega)
    rwa [Nat.cast_one, one_mul] at hone

/-- The power of two of a ratio is at most that of its parts. -/
lemma ratioLog2_le (num den : Nat) : ratioLog2 num den ≤ (num.log2 : Int) - den.log2 := by
  rw [ratioLog2]
  dsimp only
  split_ifs <;> omega

/-! ### Values -/

namespace Binary64

/-- A magnitude under a sign. -/
def signed (negative : Bool) (magnitude : ℚ) : ℚ := if negative then -magnitude else magnitude

/-- The number that a finite number of the format denotes. -/
def value? : Binary64 → Option ℚ
  | .finite negative mantissa exponent => some (signed negative (mantissa * 2 ^ exponent))
  | .nan | .infinite _ => none

/-- On a common scale a number is the integral multiple that it is aligned to. -/
lemma aligned_mul {least exponent : Int} (h : least ≤ exponent) (negative : Bool) (mantissa : Nat) :
    (aligned negative mantissa exponent least : ℚ) * 2 ^ least =
      signed negative (mantissa * 2 ^ exponent) := by
  obtain ⟨n, hn⟩ := Int.eq_ofNat_of_zero_le (Int.sub_nonneg_of_le h)
  obtain rfl : exponent = least + n := by omega
  have hpow : (2 : ℚ) ^ (least + n) = 2 ^ n * 2 ^ least := by
    rw [zpow_add₀ two_ne_zero, zpow_natCast, mul_comm]
  cases negative <;> simp [aligned, signed, hpow, mul_assoc]

/-- Numbers are compared by what they denote.

**Proof sketch.** On the scale of the smaller exponent both numbers are integral multiples of one
power of two (`aligned_mul`), so the integers compare as the numbers do. -/
lemma compare?_of_value {x y : Binary64} {a b : ℚ} (hx : x.value? = some a)
    (hy : y.value? = some b) : x.compare? y = some (compare a b) := by
  cases x with
  | nan | infinite => simp [value?] at hx
  | finite na ma ea =>
    cases y with
    | nan | infinite => simp [value?] at hy
    | finite nb mb eb =>
      have hscale : (0 : ℚ) < 2 ^ min ea eb := by positivity
      obtain rfl := Option.some.inj hx
      obtain rfl := Option.some.inj hy
      rw [compare?, ← aligned_mul (min_le_left ea eb), ← aligned_mul (min_le_right ea eb)]
      generalize aligned na ma ea (min ea eb) = m
      generalize aligned nb mb eb (min ea eb) = n
      rcases lt_trichotomy m n with hlt | rfl | hgt
      · rw [compare_lt_iff_lt.mpr hlt, compare_lt_iff_lt.mpr]
        exact mul_lt_mul_of_pos_right (Int.cast_lt.mpr hlt) hscale
      · rw [compare_eq_iff_eq.mpr rfl, compare_eq_iff_eq.mpr rfl]
      · rw [compare_gt_iff_gt.mpr hgt, compare_gt_iff_gt.mpr]
        exact mul_lt_mul_of_pos_right (Int.cast_lt.mpr hgt) hscale

end Binary64

/-! ### Rounding -/

namespace BinaryFormat

variable {format : BinaryFormat} {num den : Nat} {d : ℚ}

/-- The numbers that a format has a significand and an exponent for, however great. -/
def Represents (format : BinaryFormat) (q : ℚ) : Prop :=
  ∃ (mantissa : Nat) (exponent : Int), mantissa < 2 ^ format.precision ∧
    format.minExponent ≤ exponent ∧ |q| = mantissa * 2 ^ exponent

/-- A format has a number under both signs. -/
lemma Represents.neg (h : format.Represents d) : format.Represents (-d) := by
  rwa [Represents, abs_neg]

/-- The exponent that a ratio is rounded at. -/
def roundingExponent (format : BinaryFormat) (num den : Nat) : Int :=
  max (ratioLog2 num den - (format.precision - 1 : Nat)) format.minExponent

/-- The multiple of a power of two that a ratio is rounded to. -/
def nearest (format : BinaryFormat) (num den : Nat) : ℚ :=
  let exponent := format.roundingExponent num den
  roundDiv (scaleDown num den exponent).1 (scaleDown num den exponent).2 * 2 ^ exponent

/-- A number of the format is a multiple of the power of two that a ratio is rounded at, or it is
below a number that the ratio is not below.

**Proof sketch.** If the exponent of the number is not below the one that the ratio is rounded at,
then the number is a multiple of the power of two. If it is below, then that one is not the least
exponent of the format, so it is given by the leading digit of the ratio. The power of this digit is
a multiple as well; the ratio is not below it, and the number is, as its significand has no room for
this digit. -/
lemma Represents.multiple_or_lt (hd : format.Represents d) (hprecision : 0 < format.precision)
    (hnonneg : 0 ≤ d) (hnum : 0 < num) (hden : 0 < den) :
    (∃ k : Nat, d = k * 2 ^ format.roundingExponent num den) ∨
      ∃ k : Nat, d < k * 2 ^ format.roundingExponent num den ∧
        (k : ℚ) * 2 ^ format.roundingExponent num den ≤ num / den := by
  obtain ⟨m, e, hm, he, hvalue⟩ := hd
  rw [abs_of_nonneg hnonneg] at hvalue
  subst hvalue
  generalize hE : format.roundingExponent num den = E
  rcases le_or_gt E e with hle | hlt
  · obtain ⟨n, hn⟩ := Int.eq_ofNat_of_zero_le (Int.sub_nonneg_of_le hle)
    obtain rfl : e = E + n := by omega
    refine .inl ⟨m * 2 ^ n, ?_⟩
    rw [zpow_add₀ two_ne_zero, zpow_natCast]
    push_cast
    ring
  · -- such an exponent is that of the leading digit of the ratio, not the least one
    have hlog : ratioLog2 num den = E + (format.precision - 1 : Nat) := by
      rw [roundingExponent] at hE
      omega
    refine .inr ⟨2 ^ (format.precision - 1), ?_, ?_⟩
    · have hmQ : (m : ℚ) < 2 ^ format.precision := by exact_mod_cast hm
      calc (m : ℚ) * 2 ^ e ≤ m * 2 ^ (E - 1) := by
            gcongr
            · norm_num
            · omega
        _ < 2 ^ format.precision * 2 ^ (E - 1) := by gcongr
        _ = ((2 ^ (format.precision - 1) : Nat) : ℚ) * 2 ^ E := by
            rw [Nat.cast_pow, Nat.cast_two, ← zpow_natCast, ← zpow_natCast,
              ← zpow_add₀ two_ne_zero, ← zpow_add₀ two_ne_zero]
            congr 1
            omega
    · calc ((2 ^ (format.precision - 1) : Nat) : ℚ) * 2 ^ E = 2 ^ ratioLog2 num den := by
            rw [Nat.cast_pow, Nat.cast_two, ← zpow_natCast, ← zpow_add₀ two_ne_zero, hlog,
              add_comm]
        _ ≤ num / den := two_zpow_ratioLog2_le hnum hden

/-- Rounding a ratio passes over no multiple of the power of two that it is rounded at.

**Proof sketch.** Divided by the power of two, the bound is a natural number, and rounding a
quotient passes over none (`le_roundDiv`). -/
lemma mul_le_nearest (hden : 0 < den) {k : Nat}
    (h : (k : ℚ) * 2 ^ format.roundingExponent num den ≤ num / den) :
    (k : ℚ) * 2 ^ format.roundingExponent num den ≤ format.nearest num den := by
  have hk := le_roundDiv (scaleDown_pos hden _) ((mul_scaleDown_le_iff num hden _ k).mpr h)
  rw [nearest]
  gcongr

/-- Rounding a ratio passes over no such multiple from below either. -/
lemma nearest_le_mul (hden : 0 < den) {k : Nat}
    (h : (num : ℚ) / den ≤ k * 2 ^ format.roundingExponent num den) :
    format.nearest num den ≤ k * 2 ^ format.roundingExponent num den := by
  have hk := roundDiv_le (scaleDown_pos hden _) ((scaleDown_le_mul_iff hden _ k).mpr h)
  rw [nearest]
  gcongr

/-- Rounding a ratio passes over no number of the format.

**Proof sketch.** A multiple of the power of two is not passed over (`mul_le_nearest`,
`nearest_le_mul`). Any other number of the format is below a multiple that the ratio is not below,
so it is below the ratio and below what the ratio is rounded to. -/
lemma Represents.nearest_between (hd : format.Represents d) (hprecision : 0 < format.precision)
    (hnonneg : 0 ≤ d) (hnum : 0 < num) (hden : 0 < den) :
    (d ≤ num / den → d ≤ format.nearest num den) ∧
      (num / den ≤ d → format.nearest num den ≤ d) := by
  rcases hd.multiple_or_lt hprecision hnonneg hnum hden with ⟨k, rfl⟩ | ⟨k, hlt, hle⟩
  · exact ⟨mul_le_nearest hden, nearest_le_mul hden⟩
  · refine ⟨fun _ => hlt.le.trans (mul_le_nearest hden hle), fun hge => ?_⟩
    exact absurd (hle.trans hge) (not_le.mpr hlt)

/-- The way from one number to another passes over no number of the format; it may end on one. -/
def NothingBetween (format : BinaryFormat) (q v : ℚ) : Prop :=
  ∀ d, format.Represents d → (d ≤ q → d ≤ v) ∧ (q ≤ d → v ≤ d)

/-- Signs do not matter for what lies between two numbers on the same side of zero.

**Proof sketch.** Under a positive sign, numbers on the other side of zero are below both. A
negative sign turns the order around, and the format has the negative of each of its numbers. -/
lemma NothingBetween.signed {q v : ℚ} (hq : 0 ≤ q) (hv : 0 ≤ v)
    (h : ∀ d, format.Represents d → 0 ≤ d → (d ≤ q → d ≤ v) ∧ (q ≤ d → v ≤ d))
    (negative : Bool) :
    format.NothingBetween (Binary64.signed negative q) (Binary64.signed negative v) := by
  have hpositive : format.NothingBetween q v := by
    intro d hd
    rcases le_or_gt 0 d with hnonneg | hlt
    · exact h d hd hnonneg
    · exact ⟨fun _ => by linarith, fun hle => by linarith⟩
  cases negative with
  | false => exact hpositive
  | true =>
    intro d hd
    obtain ⟨hbelow, habove⟩ := hpositive (-d) hd.neg
    simp only [Binary64.signed, if_true]
    exact ⟨fun hle => le_neg.mp (habove (le_neg.mpr hle)),
      fun hle => neg_le.mp (hbelow (neg_le.mp hle))⟩

end BinaryFormat

namespace Binary64

open BinaryFormat

variable {format : BinaryFormat} {num den : Nat}

/-- There is one zero, whatever its sign. -/
lemma signed_zero (negative : Bool) : signed negative 0 = 0 := by
  cases negative <;> simp [signed]

/-- A ratio that is not past the greatest exponent is rounded to a multiple of a power of two.

**Proof sketch.** If the significand is rounded up to the next power of two, then it is halved and
the exponent raised, which denotes the same number. The exponent stays within the format, since the
one before is below the greatest. -/
lemma value?_roundTo (hprecision : 0 < format.precision)
    (hmax : format.roundingExponent num den < format.maxExponent) (hnum : num ≠ 0)
    (negative : Bool) : (roundTo format negative num den).value? =
      some (signed negative (format.nearest num den)) := by
  rw [roundTo, if_neg hnum, nearest]
  rw [roundingExponent] at hmax ⊢
  generalize max (ratioLog2 num den - (format.precision - 1 : Nat)) format.minExponent = exponent
    at hmax ⊢
  dsimp only
  generalize roundDiv (scaleDown num den exponent).1 (scaleDown num den exponent).2 = mantissa
  split_ifs with hcarried hpast hpast
  · omega
  · -- the significand is carried into the next digit, and the exponent makes up for it
    obtain ⟨p, hp⟩ := Nat.exists_eq_add_one_of_ne_zero hprecision.ne'
    obtain rfl : mantissa = 2 ^ p * 2 := by rw [hcarried, hp, Nat.pow_succ]
    rw [value?, Nat.mul_div_cancel _ Nat.two_pos, zpow_add_one₀ two_ne_zero]
    push_cast
    ring_nf
  · omega
  · rfl

/-- A ratio that is not past the greatest exponent is rounded to a finite number, and this passes
over no number of the format.

**Proof sketch.** Zero is rounded to itself. Any other ratio is rounded to a multiple of a power of
two under its sign (`value?_roundTo`), and this passes over no number of the format on its side of
zero (`Represents.nearest_between`), so over none at all (`NothingBetween.signed`). -/
lemma roundTo_nearest (hprecision : 0 < format.precision) (hden : 0 < den)
    (hmax : format.roundingExponent num den < format.maxExponent) (negative : Bool) :
    ∃ v, (roundTo format negative num den).value? = some v ∧
      format.NothingBetween (signed negative (num / den)) v := by
  by_cases hnum : num = 0
  · subst hnum
    refine ⟨0, ?_, ?_⟩
    · rw [roundTo, if_pos rfl, value?, Nat.cast_zero, zero_mul, signed_zero]
    · rw [Nat.cast_zero, zero_div, signed_zero]
      exact fun d _ => ⟨id, id⟩
  · refine ⟨_, value?_roundTo hprecision hmax hnum negative,
      NothingBetween.signed ?_ ?_ ?_ negative⟩
    · positivity
    · rw [nearest]
      positivity
    · intro d hd hnonneg
      exact hd.nearest_between hprecision hnonneg (Nat.pos_of_ne_zero hnum) hden

/-- A natural number of 64 bits, under a sign, is not past the greatest number.

**Proof sketch.** The leading digit of the number is at a position below 64, and the greatest
exponent is far beyond. -/
lemma ofRatio_natural {n : Nat} (hn : n < 2 ^ 64) (negative : Bool) :
    ∃ v, (ofRatio negative n 1).value? = some v ∧ double.NothingBetween (signed negative n) v := by
  have hlog : n.log2 < 64 := by
    by_cases hzero : n = 0
    · subst hzero
      decide
    · exact (Nat.log2_lt hzero).mpr hn
  have hratio := ratioLog2_le n 1
  have hmax : double.roundingExponent n 1 < double.maxExponent := by
    rw [roundingExponent]
    simp only [double]
    omega
  have hround := roundTo_nearest (by decide) Nat.one_pos hmax negative
  rwa [Nat.cast_one, div_one] at hround

end Binary64

end Verdict
