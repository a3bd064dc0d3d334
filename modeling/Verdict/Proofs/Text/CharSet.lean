import Mathlib.Data.List.Basic
import Verdict.Text.CharSet

/-!
# Members of sets of characters

A set is kept as a sorted list of ranges, and its ranges are joined wherever they touch. The members
are those of the ranges that the set is made of.

## Main results

* `Verdict.Text.CharSet.containsCode_ofRanges` — the members of a set made of ranges.
* `Verdict.Text.CharSet.contains_union`, `contains_unionAll` — the members of unions.
* `Verdict.Text.CharSet.contains_range`, `contains_singleton` — the members of the smallest sets.
-/

namespace Verdict.Text.CharSet

/-! ### Ranges -/

/-- A code point is in a set if one of the ranges has it. -/
lemma containsCode_iff {s : CharSet} {code : Nat} :
    s.containsCode code = true ↔ ∃ range ∈ s.ranges, range.1 ≤ code ∧ code ≤ range.2 := by
  simp [containsCode]

/-- Joining neighbours keeps the members.

**Proof sketch.** Induction on the ranges behind the current one. A code point that the joined range
has beyond the current one lies behind the end of this, hence not before the next range. For the
converse the next range may not start before the current one, which is where the order is used. -/
lemma exists_mem_joinFrom_iff {code : Nat} (current : Nat × Nat) (rest : List (Nat × Nat))
    (hsorted : (current :: rest).Pairwise fun a b => a.1 ≤ b.1) :
    (∃ range ∈ joinFrom current rest, range.1 ≤ code ∧ code ≤ range.2) ↔
      ∃ range ∈ current :: rest, range.1 ≤ code ∧ code ≤ range.2 := by
  induction rest generalizing current with
  | nil => simp [joinFrom]
  | cons next rest ih =>
    obtain ⟨hcurrent, hsorted⟩ := List.pairwise_cons.mp hsorted
    obtain ⟨hnext, hrest⟩ := List.pairwise_cons.mp hsorted
    have horder : current.1 ≤ next.1 := hcurrent next List.mem_cons_self
    rw [joinFrom]
    split_ifs with htouch
    · have hjoined : ((current.1, max current.2 next.2) :: rest).Pairwise fun a b => a.1 ≤ b.1 :=
        List.pairwise_cons.mpr
          ⟨fun range hrange => hcurrent range (List.mem_cons_of_mem _ hrange), hrest⟩
      rw [ih _ hjoined, List.exists_mem_cons_iff, List.exists_mem_cons_iff,
        List.exists_mem_cons_iff, ← or_assoc]
      refine or_congr_left ?_
      dsimp only
      omega
    · rw [List.exists_mem_cons_iff, ih _ hsorted]
      simp only [List.mem_cons, exists_eq_or_imp]

/-- The members of a set made of ranges are those of the ranges, whatever their order.

**Proof sketch.** Sorting keeps the ranges and puts them in the order of their starts, and then
joining neighbours keeps the members (`exists_mem_joinFrom_iff`). -/
lemma containsCode_ofRanges (ranges : List (Nat × Nat)) (code : Nat) :
    (ofRanges ranges).containsCode code = true ↔
      ∃ range ∈ ranges, range.1 ≤ code ∧ code ≤ range.2 := by
  have hsorted : (ranges.mergeSort fun a b => a.1 < b.1 || (a.1 == b.1 && b.2 ≤ a.2)).Pairwise
      fun a b => (a.1 < b.1 || (a.1 == b.1 && b.2 ≤ a.2)) = true :=
    List.pairwise_mergeSort (by simp; omega) (by simp; omega) ranges
  have hmem (range : Nat × Nat) : range ∈ ranges.mergeSort
      (fun a b => a.1 < b.1 || (a.1 == b.1 && b.2 ≤ a.2)) ↔ range ∈ ranges := List.mem_mergeSort
  rw [containsCode_iff, ofRanges]
  generalize ranges.mergeSort (fun a b => a.1 < b.1 || (a.1 == b.1 && b.2 ≤ a.2)) = sorted at *
  have hfirst : sorted.Pairwise fun a b => a.1 ≤ b.1 := by
    refine hsorted.imp fun {a b} h => ?_
    simp at h
    omega
  simp only [← hmem]
  cases sorted with
  | nil => simp [joinRanges]
  | cons range rest => exact exists_mem_joinFrom_iff range rest hfirst

/-! ### Unions -/

/-- The members of a union are those of its parts. -/
@[simp] lemma contains_unionAll {sets : List CharSet} {c : Char} :
    (unionAll sets).contains c = true ↔ ∃ s ∈ sets, s.contains c = true := by
  rw [contains, unionAll, containsCode_ofRanges]
  simp only [contains, containsCode_iff, List.mem_flatMap]
  constructor
  · rintro ⟨range, ⟨s, hs, hrange⟩, hcode⟩
    exact ⟨s, hs, range, hrange, hcode⟩
  · rintro ⟨s, hs, range, hrange, hcode⟩
    exact ⟨range, ⟨s, hs, hrange⟩, hcode⟩

/-- The members of a union are those of either set. -/
@[simp] lemma contains_union {a b : CharSet} {c : Char} :
    (a.union b).contains c = true ↔ a.contains c = true ∨ b.contains c = true := by
  rw [contains, union, containsCode_ofRanges, contains, contains, containsCode_iff,
    containsCode_iff]
  simp only [List.mem_append, or_and_right, exists_or]

/-! ### The smallest sets -/

/-- A range has the characters between its ends. -/
@[simp] lemma contains_range {first last c : Char} :
    (range first last).contains c = true ↔ first ≤ c ∧ c ≤ last := by
  simp [contains, containsCode, range, Char.le_def, UInt32.le_iff_toNat_le]

/-- A singleton has its character only. -/
@[simp] lemma contains_singleton {c d : Char} : (singleton c).contains d = true ↔ d = c := by
  rw [← Char.toNat_inj]
  simp only [contains, containsCode, singleton, List.any_cons, List.any_nil]
  simp
  omega

end Verdict.Text.CharSet
