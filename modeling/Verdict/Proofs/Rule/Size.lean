import Mathlib.Data.Int.Order.Basic
import Mathlib.Order.Compare
import Mathlib.Order.Lattice
import Verdict.Rule.Builtin
import Verdict.Value.Basic

/-!
# The rules on size

`len`, `min` and `max` measure a value in the same way and read their parameter in the same way;
they differ only in how they compare the two. This file says what is measured and what is read, and
that the three verdicts are those of an equation and two inequalities between unbounded integers.

## Main definitions

* `Verdict.Bound.Admits` — what a bound asks of a size.
* `Verdict.Value.size?` — the size of a value, if it is an integer.
* `Verdict.Value.literal?` — the integer that a parameter stands for beside a value.

## Main results

* `Verdict.Bound.holds_compare_iff` — a bound holds for the sizes that it admits.
* `Verdict.Bound.check_of_size` — the verdict of a bound on a value with a size.
* `Verdict.Rule.size_rules_agree` — the verdicts of the three rules beside each other.
-/

namespace Verdict

variable {ρ : Type}

/-! ### Bounds -/

namespace Bound

/-- What a bound asks of a size, given the limit. -/
def Admits {α : Type} [LE α] : Bound → α → α → Prop
  | .exact, limit, size => size = limit
  | .atLeast, limit, size => limit ≤ size
  | .atMost, limit, size => size ≤ limit

/-- A bound holds for how a size compares to the limit if and only if it admits the size. -/
lemma holds_compare_iff {α : Type} [LinearOrder α] (bound : Bound) (limit size : α) :
    bound.holds (some (compare size limit)) = true ↔ bound.Admits limit size := by
  cases bound with
  | exact => simp [holds, Admits]
  | atLeast =>
    rw [Admits, ← compare_ge_iff_ge]
    simp [holds]
  | atMost =>
    rw [Admits, ← compare_le_iff_le]
    simp [holds]

end Bound

/-! ### Values -/

namespace Value

/-- The size of a value, if it is an integer: the number of characters, elements or entries, or the
number itself. -/
def size? : Value ρ → Option Int
  | .str s => some s.length
  | .seq items => some items.length
  | .map entries => some entries.length
  | .int n => some n
  | .uint n => some n
  | .absent | .bool _ | .float _ | .record _ => none

/-- The integer that a parameter stands for beside a value. Beside an unsigned number only unsigned
literals are read. -/
def literal? (param : String) : Value ρ → Option Int
  | .uint _ => (Literal.natural? param.toList).map Int.ofNat
  | .absent | .bool _ | .int _ | .float _ | .str _ | .seq _ | .map _ | .record _ =>
    Literal.integer? param.toList

end Value

/-! ### Verdicts -/

namespace Bound

variable {bound : Bound}

/-- A comparison is kept to or violated by a bound as it holds or not. -/
lemma judge_eq_iff (order : Option Ordering) :
    (bound.judge (some order) = .valid ↔ bound.holds order = true) ∧
      (bound.judge (some order) = .failed ↔ ¬bound.holds order = true) := by
  rw [judge]
  cases bound.holds order <;> simp [Outcome.ofBool]

/-- A parameter is bad if there is nothing to compare to. -/
lemma judge_eq_badParameter_iff {order : Option (Option Ordering)} :
    bound.judge order = .badParameter ↔ order = none := by
  cases order with
  | none => simp [judge]
  | some order =>
    rw [judge]
    cases bound.holds order <;> simp [Outcome.ofBool]

/-- A bound compares the size of a value to the integer that the parameter stands for.

**Proof sketch.** By the kind of the value. Only beside unsigned numbers natural numbers are
compared, which is the same for them as integers. -/
lemma check_of_size (bound : Bound) {v : Value ρ} {size : Int} (hsize : v.size? = some size)
    (param : String) :
    bound.check v param = bound.judge ((v.literal? param).map fun limit =>
      some (compare size limit)) := by
  have hcast (n limit : Nat) : compare n limit = compare (n : Int) (limit : Int) := by
    simp only [compare, compareOfLessAndEq, Int.ofNat_lt, Int.natCast_inj]
  cases v with
  | absent | bool | float | record => simp [Value.size?] at hsize
  | str | seq | map | int =>
    obtain rfl := Option.some.inj hsize
    rfl
  | uint n =>
    obtain rfl := Option.some.inj hsize
    simp only [check, Value.measure, Value.literal?, Option.map_map, hcast]
    rfl

/-- Beside a value with a size, a bound takes no other parameters than integers. -/
lemma check_eq_badParameter_iff (bound : Bound) {v : Value ρ} {size : Int}
    (hsize : v.size? = some size) (param : String) :
    bound.check v param = .badParameter ↔ v.literal? param = none := by
  rw [check_of_size bound hsize, judge_eq_badParameter_iff, Option.map_eq_none_iff]

/-- Beside a value with a size and an integer, a bound is kept to if and only if it admits the size,
and is violated otherwise. -/
lemma check_eq_valid_or_failed (bound : Bound) {v : Value ρ} {size limit : Int}
    (hsize : v.size? = some size) {param : String} (hlimit : v.literal? param = some limit) :
    (bound.check v param = .valid ↔ bound.Admits limit size) ∧
      (bound.check v param = .failed ↔ ¬bound.Admits limit size) := by
  rw [check_of_size bound hsize, hlimit, Option.map_some, ← holds_compare_iff]
  exact judge_eq_iff _

end Bound

namespace Rule

/-- **The three rules on size agree with each other**, for every value and every parameter.

Beside a value with an integral size, all three refuse a parameter if and only if it is no integer
literal of the kind that is read beside the value. Otherwise each is satisfied or fails, and it is
satisfied if and only if the size is equal to the integer, not below it, or not above it, as the
case may be. So `len` is satisfied when `min` and `max` both are, and one of these two always is. An
absent value satisfies all three, and none of them judges a truth value or a record.

**Proof sketch.** Each rule is a bound, which is kept to if and only if it admits the size
(`check_eq_valid_or_failed`). So the relations between the three are relations between two integers.
-/
theorem size_rules_agree (v : Value ρ) (param : String) :
    (∀ size, v.size? = some size →
      ((len v param = .badParameter ↔ v.literal? param = none) ∧
        (min v param = .badParameter ↔ v.literal? param = none) ∧
          (max v param = .badParameter ↔ v.literal? param = none)) ∧
      ∀ limit, v.literal? param = some limit →
        ((len v param = .valid ↔ size = limit) ∧ (len v param = .failed ↔ size ≠ limit)) ∧
        ((min v param = .valid ↔ limit ≤ size) ∧ (min v param = .failed ↔ size < limit)) ∧
        ((max v param = .valid ↔ size ≤ limit) ∧ (max v param = .failed ↔ limit < size)) ∧
        (len v param = .valid ↔ min v param = .valid ∧ max v param = .valid) ∧
        (min v param = .valid ∨ max v param = .valid)) ∧
    (v.isAbsent = true → len v param = .valid ∧ min v param = .valid ∧ max v param = .valid) ∧
    ((∃ b, v = .bool b) ∨ (∃ r, v = .record r) →
      len v param = .unsupported ∧ min v param = .unsupported ∧ max v param = .unsupported) := by
  refine ⟨fun size hsize => ⟨⟨?_, ?_, ?_⟩, fun limit hlimit => ?_⟩, fun habsent => ?_, ?_⟩
  · exact Bound.exact.check_eq_badParameter_iff hsize param
  · exact Bound.atLeast.check_eq_badParameter_iff hsize param
  · exact Bound.atMost.check_eq_badParameter_iff hsize param
  · obtain ⟨hlen, hlen'⟩ := Bound.exact.check_eq_valid_or_failed hsize hlimit
    obtain ⟨hmin, hmin'⟩ := Bound.atLeast.check_eq_valid_or_failed hsize hlimit
    obtain ⟨hmax, hmax'⟩ := Bound.atMost.check_eq_valid_or_failed hsize hlimit
    simp only [Bound.Admits, not_le] at hlen hlen' hmin hmin' hmax hmax'
    refine ⟨⟨hlen, hlen'⟩, ⟨hmin, hmin'⟩, ⟨hmax, hmax'⟩, ?_, ?_⟩
    · rw [len, min, max, hlen, hmin, hmax]
      omega
    · rw [min, max, hmin, hmax]
      omega
  · cases v with
    | absent => exact ⟨rfl, rfl, rfl⟩
    | bool | int | uint | float | str | seq | map | record => simp [Value.isAbsent] at habsent
  · rintro (⟨b, rfl⟩ | ⟨r, rfl⟩)
    · exact ⟨rfl, rfl, rfl⟩
    · exact ⟨rfl, rfl, rfl⟩

/-- Characters are counted, whatever their encoding, and the parameter may name a base. Beside an
unsigned number it may not have a sign.

**Proof sketch.** Sizes and integers are computed, and the verdicts follow from the law. -/
theorem size_rules_agree_text :
    let word : Value Record := .str "héllo"
    let number : Value Record := .uint (2 ^ 64 - 1)
    (word.size? = some 5 ∧ word.literal? "0b101" = some 5 ∧ len word "0b101" = .valid ∧
      min word "0b101" = .valid ∧ max word "0b101" = .valid) ∧
    (number.size? = some (2 ^ 64 - 1) ∧ number.literal? "-1" = none ∧
      len number "-1" = .badParameter) ∧
    len (.absent : Value Record) "-1" = .valid ∧
    len (.bool true : Value Record) "-1" = .unsupported := by
  intro word number
  have hsize : word.size? = some 5 := by decide
  have hlimit : word.literal? "0b101" = some 5 := by decide
  have hnumber : number.size? = some (2 ^ 64 - 1) := by decide
  have hunread : number.literal? "-1" = none := by decide
  obtain ⟨hlen, hmin, hmax, -⟩ := ((size_rules_agree word "0b101").1 5 hsize).2 5 hlimit
  refine ⟨⟨hsize, hlimit, hlen.1.mpr rfl, hmin.1.mpr le_rfl, hmax.1.mpr le_rfl⟩,
    ⟨hnumber, hunread, ?_⟩, ?_, ?_⟩
  · exact ((size_rules_agree number "-1").1 _ hnumber).1.1.mpr hunread
  · exact ((size_rules_agree .absent "-1").2.1 rfl).1
  · exact ((size_rules_agree (.bool true) "-1").2.2 (.inl ⟨true, rfl⟩)).1

end Rule

end Verdict
