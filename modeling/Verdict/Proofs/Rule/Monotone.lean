import Verdict.Proofs.Number.Readings
import Verdict.Proofs.Rule.Size
import Verdict.Schema.Basic

/-!
# Bounds on numbers of different kinds

A bound that rejects a number should reject all numbers further out. But a number of JSON is one of
three kinds, and a bound reads its parameter as the kind of number that it stands beside. This file
says how far the expectation holds: numbers of one kind keep it, and so do those beside which the
parameter is one and the same number.

## Main definitions

* `Verdict.Json.Denotes` — the number that a number of JSON stands for.
* `Verdict.Json.ReadsAs` — the number that a parameter is read as beside it.
* `Verdict.Json.Excused` — why a bound that rejects one number may not reject another.

## Main results

* `Verdict.Bound.check_of_readsAs` — the verdict of a bound on a number.
* `Verdict.Bound.check_outward` — numbers further out are rejected too, or there is an excuse.
* `Verdict.Rule.max_min_monotone` — this for the two rules.
-/

namespace Verdict

open BinaryFormat (double)

/-! ### Numbers of JSON -/

namespace Json

/-- The number that a number of JSON stands for. One that is no integer is a number of the double
format. -/
inductive Denotes : Json → ℚ → Prop where
  | int (n : Int) : Denotes (.int n) n
  | float {x : Binary64} {q : ℚ} (hvalue : x.value? = some q) (hdouble : double.Represents q) :
    Denotes (.float x) q

/-- The number that the parameter of a bound is read as beside a number of JSON: an integer, which
may be signed only beside those below `2 ^ 63`, or a number of the double format. -/
inductive ReadsAs (param : String) : Json → ℚ → Prop where
  | int {n m : Int} (h : ((Json.int n).toValue none).literal? param = some m) :
    ReadsAs param (.int n) m
  | float {x y : Binary64} {q : ℚ} (h : Binary64.parse? param = some y)
    (hvalue : y.value? = some q) : ReadsAs param (.float x) q

/-- Whether a number of JSON is read as a floating-point number. -/
def isFloat : Json → Bool
  | .float _ => true
  | _ => false

/-- Two numbers of JSON are of one kind: floating-point numbers, or integers on the same side of
`2 ^ 63`. -/
def SameKind : Json → Json → Prop
  | .int m, .int n => m < unsignedFrom ↔ n < unsignedFrom
  | .float _, .float _ => True
  | _, _ => False

/-- Why a bound that rejects one number of JSON may not reject another one that is further out, by
what it says of that. It may not be able to read its parameter there; or it may read it as a
different number, because of a zero in front, or because the floating-point number that the other
one is equal to is what the parameter is rounded to. -/
inductive Excused (param : String) (a b : Json) : Outcome → Prop where
  | unreadable (hkind : ¬SameKind a b) : Excused param a b .badParameter
  | readDifferently (hkind : a.isFloat ≠ b.isFloat)
    (hread : ¬∃ q, ReadsAs param a q ∧ ReadsAs param b q)
    (hreason : Literal.PaddedByZero (splitSign param.toList).2 ∨
      b.isFloat = true ∧ ∃ q, b.Denotes q ∧ ReadsAs param b q) :
    Excused param a b .valid

/-- All finite numbers of the double format stand for numbers. -/
lemma denotes_finite (negative : Bool) (mantissa : Nat) (exponent : Int)
    (hmantissa : mantissa < 2 ^ 53) (hexponent : -1074 ≤ exponent) :
    (Json.float (.finite negative mantissa exponent)).Denotes
      (Binary64.signed negative (mantissa * 2 ^ exponent)) := by
  refine .float rfl ⟨mantissa, exponent, hmantissa, hexponent, ?_⟩
  have hnonneg : (0 : ℚ) ≤ mantissa * 2 ^ exponent := by positivity
  cases negative <;> simp [Binary64.signed, abs_of_nonneg hnonneg]

/-- The schema that comes with an integer does not matter. -/
lemma toValue_int (n : Int) (s : Option Schema) :
    (Json.int n).toValue s = if n < unsignedFrom then .int n else .uint n.toNat := by
  rw [toValue]

/-- The size of an integer is the integer itself, whether it is signed or unsigned. -/
lemma size?_toValue_int (n : Int) (s : Option Schema) :
    ((Json.int n).toValue s).size? = some n := by
  rw [toValue_int]
  split_ifs with h
  · rfl
  · rw [unsignedFrom] at h
    rw [Value.size?, Int.toNat_of_nonneg (by omega)]

/-- Beside the integers that are signed a parameter may have a sign, and beside the others it may
not. -/
lemma literal?_toValue_int (n : Int) (s : Option Schema) (param : String) :
    ((Json.int n).toValue s).literal? param =
      if n < unsignedFrom then Literal.integer? param.toList
      else (Literal.natural? param.toList).map Int.ofNat := by
  rw [toValue_int]
  split_ifs <;> rfl

/-- The integer that a parameter is read as is a natural literal under its sign. -/
lemma natural?_of_literal? {n m : Int} {s : Option Schema} {param : String}
    (h : ((Json.int n).toValue s).literal? param = some m) :
    ∃ k, Literal.natural? (splitSign param.toList).2 = some k ∧
      m = if (splitSign param.toList).1 then -(k : Int) else k := by
  rw [literal?_toValue_int] at h
  split_ifs at h with hn
  · exact Literal.natural?_of_integer? h
  · obtain ⟨k, hk, rfl⟩ := Option.map_eq_some_iff.mp h
    rw [Literal.splitSign_of_natural? hk]
    exact ⟨k, hk, rfl⟩

/-- Beside all integers a parameter is read as one integer, if it is read at all. -/
lemma literal?_unique {n n' m m' : Int} {s t : Option Schema} {param : String}
    (h : ((Json.int n).toValue s).literal? param = some m)
    (h' : ((Json.int n').toValue t).literal? param = some m') : m = m' := by
  obtain ⟨k, hk, rfl⟩ := natural?_of_literal? h
  obtain ⟨k', hk', rfl⟩ := natural?_of_literal? h'
  rw [hk, Option.some_inj] at hk'
  rw [hk']

/-- Beside an integer and a floating-point number a parameter without a zero in front is read as one
number, which is rounded for the second of them. -/
lemma ReadsAs.padded_or_rounded {n : Int} {x : Binary64} {y : Binary64} {q : ℚ} {param : String}
    (hq : ReadsAs param (.int n) q) (hy : Binary64.parse? param = some y) :
    Literal.PaddedByZero (splitSign param.toList).2 ∨
      ∃ v, ReadsAs param (.float x) v ∧ double.NothingBetween q v := by
  obtain ⟨hm⟩ := hq
  obtain ⟨k, hk, rfl⟩ := natural?_of_literal? hm
  by_cases hpadded : Literal.PaddedByZero (splitSign param.toList).2
  · exact .inl hpadded
  · obtain ⟨v, hv, hbetween⟩ := Literal.exists_value_parse? hk hy hpadded
    refine .inr ⟨v, .float hy hv, ?_⟩
    cases hsign : (splitSign param.toList).1 <;>
      simpa [hsign, Binary64.signed] using hbetween

end Json

/-! ### Bounds -/

namespace Bound

variable {bound : Bound}

/-- What is admitted by a limit that another limit admits is admitted by that. -/
lemma Admits.trans {α : Type} [Preorder α] {x y z : α} (hxy : bound.Admits x y)
    (hyz : bound.Admits y z) : bound.Admits x z := by
  cases bound with
  | exact => exact Eq.trans hyz hxy
  | atLeast => exact le_trans hxy hyz
  | atMost => exact le_trans hyz hxy

/-- Integers are admitted as the rational numbers that they are. -/
lemma admits_intCast {m n : Int} : bound.Admits (m : ℚ) n ↔ bound.Admits m n := by
  cases bound <;> simp [Admits]

/-- A number of a format that a limit admits is admitted by a limit on the way to which no number of
the format is passed over. -/
lemma Admits.of_nothingBetween {format : BinaryFormat} {q v d : ℚ}
    (h : format.NothingBetween q v) (hd : format.Represents d) (hadmits : bound.Admits q d) :
    bound.Admits v d := by
  obtain ⟨hbelow, habove⟩ := h d hd
  cases bound with
  | exact => exact le_antisymm (hbelow (le_of_eq hadmits)) (habove (ge_of_eq hadmits))
  | atLeast => exact habove hadmits
  | atMost => exact hbelow hadmits

/-- The only number of the format that is admitted by the second limit alone is this limit. -/
lemma eq_of_not_admits {format : BinaryFormat} {q v d : ℚ} (h : format.NothingBetween q v)
    (hd : format.Represents d) (hnot : ¬bound.Admits q d) (hadmits : bound.Admits v d) : d = v := by
  obtain ⟨hbelow, habove⟩ := h d hd
  cases bound with
  | exact => exact hadmits
  | atLeast => exact le_antisymm (hbelow (le_of_not_ge hnot)) hadmits
  | atMost => exact le_antisymm hadmits (habove (le_of_not_ge hnot))

/-! ### Verdicts -/

variable {param : String} {a b : Json} {x y r : ℚ}

/-- Beside a floating-point number the parameter is read as one, and both are compared. -/
lemma check_float (x : Binary64) (s : Option Schema) (param : String) :
    bound.check ((Json.float x).toValue s) param =
      bound.judge ((Binary64.parse? param).map fun p => x.compare? p) := by
  rw [Json.toValue]
  rfl

/-- A bound is violated by a number if and only if what the parameter is read as does not admit it;
otherwise it is kept to.

**Proof sketch.** An integer is compared to the integer that the parameter is read as
(`check_eq_valid_or_failed`), and a floating-point number that is finite to the value of the one. -/
lemma check_of_readsAs (ha : a.Denotes x) (hr : a.ReadsAs param r) (s : Option Schema) :
    (bound.check (a.toValue s) param = .valid ↔ bound.Admits r x) ∧
      (bound.check (a.toValue s) param = .failed ↔ ¬bound.Admits r x) := by
  cases hr with
  | int hm =>
    cases ha
    rw [Json.literal?_toValue_int, ← Json.literal?_toValue_int _ s] at hm
    rw [admits_intCast]
    exact check_eq_valid_or_failed bound (Json.size?_toValue_int _ s) hm
  | float hy hvalue =>
    cases ha with
    | float hx =>
      rw [check_float, hy, Option.map_some, Binary64.compare?_of_value hx hvalue,
        ← holds_compare_iff]
      exact judge_eq_iff _

/-- Where the parameter can be read, a bound is kept to or violated.

**Proof sketch.** A bound that judges a comparison keeps to it or not; without a comparison, the
parameter is bad. -/
lemma check_trichotomy (bound : Bound) (ha : a.Denotes x) (s : Option Schema) (param : String) :
    bound.check (a.toValue s) param = .badParameter ∨ bound.check (a.toValue s) param = .failed ∨
      bound.check (a.toValue s) param = .valid := by
  have hjudge (order : Option (Option Ordering)) : bound.judge order = .badParameter ∨
      bound.judge order = .failed ∨ bound.judge order = .valid := by
    cases order with
    | none => exact .inl rfl
    | some order =>
      rw [(judge_eq_iff order).1, (judge_eq_iff order).2]
      exact .inr (em' _)
  cases ha with
  | int n =>
    rw [check_of_size bound (Json.size?_toValue_int n s)]
    exact hjudge _
  | float =>
    rw [check_float]
    exact hjudge _

/-- A number that is further out is rejected if the parameter is read as one number beside both. -/
lemma check_outward_of_readsAs (ha : a.Denotes x) (hb : b.Denotes y) (hout : bound.Admits y x)
    (s t : Option Schema) (hread : ∃ q, a.ReadsAs param q ∧ b.ReadsAs param q)
    (hfail : bound.check (a.toValue s) param = .failed) :
    bound.check (b.toValue t) param = .failed := by
  obtain ⟨q, hqa, hqb⟩ := hread
  have hnot := (check_of_readsAs ha hqa s).2.mp hfail
  exact (check_of_readsAs hb hqb t).2.mpr fun hadmits => hnot (hadmits.trans hout)

/-- Beside an integer a parameter that is not refused is read as an integer. -/
lemma exists_literal? {n : Int} {s : Option Schema}
    (h : bound.check ((Json.int n).toValue s) param ≠ .badParameter) :
    ∃ m, ((Json.int n).toValue none).literal? param = some m := by
  rw [ne_eq, check_eq_badParameter_iff bound (Json.size?_toValue_int n s),
    Json.literal?_toValue_int, ← Json.literal?_toValue_int _ none] at h
  exact Option.ne_none_iff_exists'.mp h

/-- Beside a floating-point number a parameter that is not refused is read as one. -/
lemma exists_parse? {x : Binary64} {s : Option Schema}
    (h : bound.check ((Json.float x).toValue s) param ≠ .badParameter) :
    ∃ y, Binary64.parse? param = some y := by
  rw [check_float, ne_eq, judge_eq_badParameter_iff, Option.map_eq_none_iff] at h
  exact Option.ne_none_iff_exists'.mp h

/-- Between floating-point numbers the expectation is kept.

**Proof sketch.** The parameter is read as one floating-point number beside both. If this is finite,
it is one number beside both. Otherwise all numbers compare to it alike. -/
lemma check_outward_floats {x' y' : Binary64} (ha : (Json.float x').Denotes x)
    (hb : (Json.float y').Denotes y) (hout : bound.Admits y x) (s t : Option Schema)
    (hfail : bound.check ((Json.float x').toValue s) param = .failed) :
    bound.check ((Json.float y').toValue t) param = .failed := by
  obtain ⟨z, hz⟩ := exists_parse? (by rw [hfail]; decide)
  cases hvalue : z.value? with
  | some q =>
    exact check_outward_of_readsAs ha hb hout s t ⟨q, .float hz hvalue, .float hz hvalue⟩ hfail
  | none =>
    -- an infinity and what is no number compare to all numbers alike
    have halike : x'.compare? z = y'.compare? z := by
      obtain ⟨hx⟩ := ha
      obtain ⟨hy⟩ := hb
      cases x' <;> cases y' <;> cases z <;> simp_all [Binary64.value?, Binary64.compare?]
    rw [check_float, hz, Option.map_some] at hfail ⊢
    rwa [← halike]

/-- Beside numbers of one kind a parameter is refused or read alike.

**Proof sketch.** How a parameter is read depends on the kind of the number beside it and on nothing
else. -/
lemma not_sameKind (ha : a.Denotes x) (hb : b.Denotes y) {s t : Option Schema}
    (hread : bound.check (a.toValue s) param ≠ .badParameter)
    (hbad : bound.check (b.toValue t) param = .badParameter) : ¬a.SameKind b := by
  intro hkind
  cases ha with
  | int n =>
    cases hb with
    | int k =>
      obtain ⟨m, hm⟩ := exists_literal? hread
      rw [check_eq_badParameter_iff bound (Json.size?_toValue_int k t)] at hbad
      rw [Json.literal?_toValue_int] at hm hbad
      simp only [Json.SameKind] at hkind
      simp [hkind, hbad] at hm
    | float => exact hkind
  | float =>
    cases hb with
    | int => exact hkind
    | float =>
      obtain ⟨z, hz⟩ := exists_parse? hread
      rw [check_float, judge_eq_badParameter_iff, hz] at hbad
      contradiction

/-- A floating-point number that is further out than a rejected integer, and is kept to, is what the
parameter is rounded to, unless this is padded by a zero.

**Proof sketch.** Without a zero in front the parameter is one number but for rounding, which passes
over no number of the format. If it admits the floating-point number only after rounding, then this
is what it is rounded to (`eq_of_not_admits`). -/
lemma padded_or_rounded_of_valid {n : Int} {y' : Binary64} (hb : (Json.float y').Denotes y)
    (hout : bound.Admits y n) {s t : Option Schema}
    (hfail : bound.check ((Json.int n).toValue s) param = .failed)
    (hvalid : bound.check ((Json.float y').toValue t) param = .valid) :
    Literal.PaddedByZero (splitSign param.toList).2 ∨ (Json.float y').ReadsAs param y := by
  obtain ⟨m, hm⟩ := exists_literal? (by rw [hfail]; decide)
  obtain ⟨z, hz⟩ := exists_parse? (by rw [hvalid]; decide)
  have hread : (Json.int n).ReadsAs param m := .int hm
  refine (hread.padded_or_rounded (x := y') hz).imp_right ?_
  rintro ⟨v, hv, hbetween⟩
  have hnot : ¬bound.Admits (m : ℚ) y := fun hadmits =>
    (check_of_readsAs (.int n) hread s).2.mp hfail (hadmits.trans hout)
  have hadmits := (check_of_readsAs hb hv t).1.mp hvalid
  cases hb with
  | float _ hdouble => rwa [eq_of_not_admits hbetween hdouble hnot hadmits]

/-- An integer that is further out than a rejected floating-point number is kept to only if the
parameter is padded by a zero.

**Proof sketch.** Otherwise the parameter is rounded for the floating-point number, and passes over
no number of the format. It admits the integer, hence the floating-point number as well, and still
does so when rounded, which contradicts the failure. -/
lemma padded_of_valid {k : Int} {x' : Binary64} (ha : (Json.float x').Denotes x)
    (hout : bound.Admits (k : ℚ) x) {s t : Option Schema}
    (hfail : bound.check ((Json.float x').toValue s) param = .failed)
    (hvalid : bound.check ((Json.int k).toValue t) param = .valid) :
    Literal.PaddedByZero (splitSign param.toList).2 := by
  obtain ⟨m, hm⟩ := exists_literal? (by rw [hvalid]; decide)
  obtain ⟨z, hz⟩ := exists_parse? (by rw [hfail]; decide)
  have hread : (Json.int k).ReadsAs param m := .int hm
  refine (hread.padded_or_rounded (x := x') hz).resolve_right ?_
  rintro ⟨v, hv, hbetween⟩
  have hadmits : bound.Admits (m : ℚ) x :=
    ((check_of_readsAs (.int k) hread t).1.mp hvalid).trans hout
  have hnot := (check_of_readsAs ha hv s).2.mp hfail
  cases ha with
  | float _ hdouble => exact hnot (hadmits.of_nothingBetween hbetween hdouble)

/-- A number that is further out than a rejected one is kept to with an excuse only.

**Proof sketch.** By the kinds of the two numbers. Two integers have one parameter, so the second
would be rejected, and the same holds of two floating-point numbers. In the mixed cases the
parameter is not one number beside both, and the reason is that of `padded_or_rounded_of_valid` and
`padded_of_valid`. -/
lemma excused_of_valid (ha : a.Denotes x) (hb : b.Denotes y) (hout : bound.Admits y x)
    {s t : Option Schema} (hfail : bound.check (a.toValue s) param = .failed)
    (hvalid : bound.check (b.toValue t) param = .valid) : Json.Excused param a b .valid := by
  have hread : ¬∃ q, a.ReadsAs param q ∧ b.ReadsAs param q := by
    intro hboth
    rw [check_outward_of_readsAs ha hb hout s t hboth hfail] at hvalid
    contradiction
  cases ha with
  | int n =>
    cases hb with
    | int k =>
      obtain ⟨m, hm⟩ := exists_literal? (by rw [hfail]; decide)
      obtain ⟨m', hm'⟩ := exists_literal? (by rw [hvalid]; decide)
      obtain rfl := Json.literal?_unique hm hm'
      exact absurd ⟨_, .int hm, .int hm'⟩ hread
    | float hy hdouble =>
      refine .readDifferently (by simp [Json.isFloat]) hread ?_
      refine (padded_or_rounded_of_valid (.float hy hdouble) hout hfail hvalid).imp_right ?_
      exact fun hy' => ⟨rfl, _, .float hy hdouble, hy'⟩
  | float hx hdouble =>
    cases hb with
    | int k =>
      refine .readDifferently (by simp [Json.isFloat]) hread (.inl ?_)
      exact padded_of_valid (.float hx hdouble) hout hfail hvalid
    | float hy hdouble' =>
      have hfailed := check_outward_floats (.float hx hdouble) (.float hy hdouble') hout s t hfail
      rw [hfailed] at hvalid
      contradiction

/-- A number that is further out than a rejected one is rejected too, or there is an excuse.

**Proof sketch.** If the parameter is one number beside both, then it does not admit what is further
out than what it rejects. Beside two integers it is one number, if it can be read at all. Beside an
integer and a floating-point number, without a zero in front, it is one but for rounding, which
passes over no number of the format. So a floating-point number that is further out can be admitted
only if it is the one that is rounded to, and one that is rejected lies beyond the integer as
well. -/
lemma check_outward (bound : Bound) (ha : a.Denotes x) (hb : b.Denotes y)
    (hout : bound.Admits y x) (s t : Option Schema)
    (hfail : bound.check (a.toValue s) param = .failed) :
    bound.check (b.toValue t) param = .failed ∨
      Json.Excused param a b (bound.check (b.toValue t) param) := by
  rcases check_trichotomy bound hb t param with hbad | hfailed | hvalid
  · have hkind := not_sameKind ha hb (by rw [hfail]; decide) hbad
    rw [hbad]
    exact .inr (.unreadable hkind)
  · exact .inl hfailed
  · have hexcuse := excused_of_valid ha hb hout hfail hvalid
    rw [hvalid]
    exact .inr hexcuse

end Bound

namespace Rule

/-- **The two rules with a greatest and a least number are monotone, but for excuses.** A number not
below one that violates `max` violates it as well, and so does a number not above one that violates
`min`. There is an excuse only between numbers of different kinds: the parameter may not be readable
beside the other number; or the one number is an integer and the other one a floating-point number,
and the parameter is read as different numbers beside them. This comes of a zero in front, which
makes it octal beside integers, or it is rounded to the very number that is let through.

**Proof sketch.** Both are cases of `Bound.check_outward`, for the two bounds. -/
theorem max_min_monotone (param : String) (s t : Option Schema) {a b : Json} {x y : ℚ}
    (ha : a.Denotes x) (hb : b.Denotes y) (hle : x ≤ y) :
    (max (a.toValue s) param = .failed →
      max (b.toValue t) param = .failed ∨ Json.Excused param a b (max (b.toValue t) param)) ∧
    (min (b.toValue t) param = .failed →
      min (a.toValue s) param = .failed ∨ Json.Excused param b a (min (a.toValue s) param)) :=
  ⟨Bound.check_outward .atMost ha hb hle s t,
    Bound.check_outward .atLeast hb ha hle t s⟩

/-- The numbers `2 ^ 53 + 2` and `2 ^ 53 + 4`, the one an integer and the other one not, are
rejected by odd numbers, none of which is a number of the double format.

**Proof sketch.** The numbers are what they stand for, the failures are computed, and the law is
applied to both. -/
theorem max_min_monotone_odd :
    (Json.int 9007199254740994).Denotes 9007199254740994 ∧
    (Json.float (.finite false 4503599627370498 1)).Denotes 9007199254740996 ∧
    (9007199254740994 : ℚ) ≤ 9007199254740996 ∧
    max ((Json.int 9007199254740994).toValue none) "9007199254740993" = .failed ∧
    (max ((Json.float (.finite false 4503599627370498 1)).toValue none) "9007199254740993" =
        .failed ∨
      Json.Excused "9007199254740993" (.int 9007199254740994)
        (.float (.finite false 4503599627370498 1))
        (max ((Json.float (.finite false 4503599627370498 1)).toValue none) "9007199254740993")) ∧
    min ((Json.float (.finite false 4503599627370498 1)).toValue none) "9007199254740999" =
      .failed ∧
    (min ((Json.int 9007199254740994).toValue none) "9007199254740999" = .failed ∨
      Json.Excused "9007199254740999" (.float (.finite false 4503599627370498 1))
        (.int 9007199254740994)
        (min ((Json.int 9007199254740994).toValue none) "9007199254740999")) := by
  have ha : (Json.int 9007199254740994).Denotes 9007199254740994 := by
    simpa using Json.Denotes.int 9007199254740994
  have hb : (Json.float (.finite false 4503599627370498 1)).Denotes 9007199254740996 := by
    have hfinite := Json.denotes_finite false 4503599627370498 1 (by decide) (by decide)
    norm_num [Binary64.signed] at hfinite
    exact hfinite
  have hle : (9007199254740994 : ℚ) ≤ 9007199254740996 := by norm_num
  have hmax : max ((Json.int 9007199254740994).toValue none) "9007199254740993" = .failed := by
    decide
  have hmin : min ((Json.float (.finite false 4503599627370498 1)).toValue none)
      "9007199254740999" = .failed := by
    decide
  exact ⟨ha, hb, hle, hmax, (max_min_monotone _ none none ha hb hle).1 hmax, hmin,
    (max_min_monotone _ none none ha hb hle).2 hmin⟩

/-- The excuses are needed. `max=-1` rejects `0`, but cannot be read beside `2 ^ 63`, and
`min=9223372036854775809` rejects `2 ^ 63`, but cannot be read beside `5`. Nor can `max=0x1F` beside
`40.5`, although it rejects `40`, or `max=1.5` beside `3`, although it rejects `2.5`. `max=010`
rejects `9`, but not `9.5`, for the parameter is eight beside the one and ten beside the other. And
`max=9007199254740995` rejects an integer that it lets through as a floating-point number, which the
parameter is rounded to.

**Proof sketch.** Each number is what it stands for, and each verdict is computed. -/
theorem max_min_not_monotone :
    ((Json.int 0).Denotes 0 ∧ (Json.int 9223372036854775808).Denotes 9223372036854775808 ∧
      max ((Json.int 0).toValue none) "-1" = .failed ∧
      max ((Json.int 9223372036854775808).toValue none) "-1" = .badParameter) ∧
    ((Json.int 5).Denotes 5 ∧ (Json.int 9223372036854775808).Denotes 9223372036854775808 ∧
      min ((Json.int 9223372036854775808).toValue none) "9223372036854775809" = .failed ∧
      min ((Json.int 5).toValue none) "9223372036854775809" = .badParameter) ∧
    ((Json.int 40).Denotes 40 ∧ (Json.float (.finite false 81 (-1))).Denotes (81 / 2) ∧
      max ((Json.int 40).toValue none) "0x1F" = .failed ∧
      max ((Json.float (.finite false 81 (-1))).toValue none) "0x1F" = .badParameter) ∧
    ((Json.float (.finite false 5 (-1))).Denotes (5 / 2) ∧ (Json.int 3).Denotes 3 ∧
      max ((Json.float (.finite false 5 (-1))).toValue none) "1.5" = .failed ∧
      max ((Json.int 3).toValue none) "1.5" = .badParameter) ∧
    ((Json.int 9).Denotes 9 ∧ (Json.float (.finite false 19 (-1))).Denotes (19 / 2) ∧
      max ((Json.int 9).toValue none) "010" = .failed ∧
      max ((Json.float (.finite false 19 (-1))).toValue none) "010" = .valid) ∧
    (Json.int 9007199254740996).Denotes 9007199254740996 ∧
      (Json.float (.finite false 4503599627370498 1)).Denotes 9007199254740996 ∧
      max ((Json.int 9007199254740996).toValue none) "9007199254740995" = .failed ∧
      max ((Json.float (.finite false 4503599627370498 1)).toValue none)
        "9007199254740995" = .valid := by
  have hint (n : Int) : (Json.int n).Denotes n := .int n
  have hhalf (n : Nat) (hn : n < 2 ^ 53) : (Json.float (.finite false n (-1))).Denotes (n / 2) := by
    have hfinite := Json.denotes_finite false n (-1) hn (by decide)
    simpa [Binary64.signed, div_eq_mul_inv] using hfinite
  have heven := Json.denotes_finite false 4503599627370498 1 (by decide) (by decide)
  norm_num [Binary64.signed] at heven
  refine ⟨⟨?_, ?_, by decide, by decide⟩, ⟨?_, ?_, by decide, by decide⟩,
    ⟨?_, ?_, by decide, by decide⟩, ⟨?_, ?_, by decide, by decide⟩,
    ⟨?_, ?_, by decide, by decide⟩, ?_, heven, by decide, by decide⟩
  · simpa using hint 0
  · simpa using hint 9223372036854775808
  · simpa using hint 5
  · simpa using hint 9223372036854775808
  · simpa using hint 40
  · simpa using hhalf 81 (by decide)
  · simpa using hhalf 5 (by decide)
  · simpa using hint 3
  · simpa using hint 9
  · simpa using hhalf 19 (by decide)
  · simpa using hint 9007199254740996

end Rule

end Verdict
