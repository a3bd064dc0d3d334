import Std.Data.HashMap

/-!
# The index of errors

An index beside an ordered list of paths finds the position of a path without a search. This file
says what it is for the two to be in step, and that they stay so when a path is put at the end and
when one is taken out.

## Main definitions

* `Verdict.Errors.Indexed` — an index knows exactly the positions of some paths.
* `Verdict.Errors.moveUp` — an index in which some paths have moved up by one position.

## Main results

* `Verdict.Errors.Indexed.push` — a free path is put at the end.
* `Verdict.Errors.Indexed.eraseIdx` — a path is taken out, and those behind it move up.

## Design

A collection of errors carries the proof that its index is in step, so that no operation on one can
meet an index that is out of step. The invariant speaks of the list of paths only and not of errors.
Distinct paths need no clause: the index gives a path one position only.
-/

namespace Verdict.Errors

/-- An index gives each of some paths its position and no other path one; the empty path is not
among them. -/
structure Indexed (paths : List String) (index : Std.HashMap String Nat) : Prop where
  index_iff : ∀ (path : String) (i : Nat), index[path]? = some i ↔ paths[i]? = some path
  empty_notMem : "" ∉ paths

variable {paths : List String} {index : Std.HashMap String Nat} {path : String}

/-- Nothing is in step with nothing. -/
theorem indexed_empty : Indexed [] {} := ⟨by simp, by simp⟩

/-- No path repeats: the index gives it one position. -/
theorem Indexed.nodup (h : Indexed paths index) : paths.Nodup := by
  rw [List.nodup_iff_pairwise_ne, List.pairwise_iff_getElem]
  intro i j hi hj hij heq
  have hindex := (h.index_iff _ j).mpr (List.getElem?_eq_getElem hj)
  rw [← heq, (h.index_iff _ i).mpr (List.getElem?_eq_getElem hi)] at hindex
  exact absurd (Option.some.inj hindex) (Nat.ne_of_lt hij)

/-- The index knows just the paths. -/
theorem Indexed.contains_iff (h : Indexed paths index) :
    index.contains path = true ↔ path ∈ paths := by
  rw [Std.HashMap.contains_eq_isSome_getElem?, Option.isSome_iff_exists, List.mem_iff_getElem?]
  exact exists_congr fun i => h.index_iff path i

/-! ### Putting a path at the end -/

/-- What stands in a list with one more member.

**Proof sketch.** By whether the position is in the old list: a position behind it has a member only
if it is the first one behind. -/
theorem getElem?_concat_eq_some {α : Type} {l : List α} {a b : α} {i : Nat} :
    (l ++ [a])[i]? = some b ↔ l[i]? = some b ∨ i = l.length ∧ a = b := by
  rw [List.getElem?_append]
  split
  case isTrue hi =>
    have hne : i ≠ l.length := by omega
    simp [hne]
  case isFalse hi =>
    have hnone : l[i]? = none := List.getElem?_eq_none (by omega)
    have hlast : i - l.length = 0 ↔ i = l.length := by omega
    rw [List.getElem?_singleton, hnone]
    simp [hlast]

/-- A path that is neither empty nor known is put at the end, and gets this position.

**Proof sketch.** The new path is found at the new position and nowhere else, since it was not in
the list; all other paths are found where they were. -/
theorem Indexed.push (h : Indexed paths index)
    (hfree : ¬(path.isEmpty || index.contains path) = true) :
    Indexed (paths ++ [path]) (index.insert path paths.length) := by
  rw [Bool.or_eq_true, not_or, h.contains_iff, String.isEmpty_iff] at hfree
  obtain ⟨hne, hnew⟩ := hfree
  refine ⟨fun other i => ?_, ?_⟩
  · rw [getElem?_concat_eq_some, Std.HashMap.getElem?_insert]
    by_cases hother : path = other
    · subst hother
      have hnone : paths[i]? ≠ some path := fun hi => hnew (List.mem_of_getElem? hi)
      simp [hnone, eq_comm]
    · rw [if_neg (by simpa using hother), h.index_iff]
      simp [hother]
  · rw [List.mem_append, List.mem_singleton]
    exact fun hmem => hmem.elim h.empty_notMem (fun heq => hne heq.symm)

/-! ### Taking a path out -/

/-- An index in which some paths have moved up by one position. -/
def moveUp (index : Std.HashMap String Nat) (later : List String) : Std.HashMap String Nat :=
  later.foldl (fun index path => index.modify path (· - 1)) index

/-- Moving up concerns the given paths only, and each of them once.

**Proof sketch.** Induction on the paths that move. A path that has moved does not move again, as it
is not among the others. -/
theorem getElem?_moveUp (index : Std.HashMap String Nat) {later : List String} (hl : later.Nodup)
    (q : String) :
    (moveUp index later)[q]? = if q ∈ later then index[q]?.map (· - 1) else index[q]? := by
  induction later generalizing index with
  | nil => simp [moveUp]
  | cons path later ih =>
    rw [List.nodup_cons] at hl
    have hstep : moveUp index (path :: later) = moveUp (index.modify path (· - 1)) later := rfl
    rw [hstep, ih _ hl.2, Std.HashMap.getElem?_modify]
    by_cases hq : path = q
    · subst hq
      simp [hl.1]
    · have hq' : q ≠ path := fun heq => hq heq.symm
      simp [hq, hq']

/-- In a list without repetitions, what stands at a position is behind all earlier ones only.

**Proof sketch.** A member stands at one position only, so it is among those from `n` on if its
position is. -/
theorem mem_drop_iff {α : Type} {l : List α} (hl : l.Nodup) {a : α} {k : Nat}
    (hk : l[k]? = some a) (n : Nat) : a ∈ l.drop n ↔ n ≤ k := by
  rw [List.mem_iff_getElem?]
  constructor
  · rintro ⟨j, hj⟩
    rw [List.getElem?_drop] at hj
    have hlt := (List.getElem?_eq_some_iff.mp hj).1
    have := (List.getElem?_inj hlt hl).mp (hj.trans hk.symm)
    omega
  · intro hle
    refine ⟨k - n, ?_⟩
    rw [List.getElem?_drop, show n + (k - n) = k by omega, hk]

/-- The members behind a position are those that taking out its member moves up. -/
theorem drop_eraseIdx {α : Type} (l : List α) (i : Nat) :
    (l.eraseIdx i).drop i = l.drop (i + 1) := by
  apply List.ext_getElem?
  intro j
  rw [List.getElem?_drop, List.getElem?_drop, List.getElem?_eraseIdx_of_ge (by omega)]
  congr 1
  omega

/-- The index after a path is taken out: the path is gone, and what stood behind it has moved up.

**Proof sketch.** A path moves just if it stands behind the position (`mem_drop_iff`), and the index
tells where it stands. -/
theorem Indexed.getElem?_moveUp_erase (h : Indexed paths index) (i : Nat) (path q : String) :
    (moveUp (index.erase path) (paths.drop (i + 1)))[q]? =
      if q = path then none else index[q]?.map fun k => if i < k then k - 1 else k := by
  rw [getElem?_moveUp _ (h.nodup.sublist (List.drop_sublist _ _)), Std.HashMap.getElem?_erase]
  by_cases hq : q = path
  · simp [hq]
  · have hq' : path ≠ q := fun heq => hq heq.symm
    simp only [beq_iff_eq, hq', if_false, hq]
    cases hk : index[q]? with
    | none => simp
    | some k =>
      have hmem := mem_drop_iff h.nodup ((h.index_iff q k).mp hk) (i + 1)
      simp only [Option.map_some, hmem, Nat.succ_le_iff]
      split <;> rfl

/-- When a path is taken out, each later one in turn is found behind the first position, so that it
can move up.

**Proof sketch.** The path stands behind the one that goes, so its position is not zero. It is not
among those that have moved already, as paths do not repeat, so the index still has this position.
-/
theorem Indexed.moveUp_pos (h : Indexed paths index) {i : Nat} (hi : index[path]? = some i)
    {before rest : List String} {later : String}
    (hsplit : paths.drop (i + 1) = before ++ later :: rest) :
    ∃ n, (moveUp (index.erase path) before)[later]? = some (n + 1) := by
  have hnodup : (before ++ later :: rest).Nodup := by
    rw [← hsplit]
    exact h.nodup.sublist (List.drop_sublist _ _)
  obtain ⟨hbefore, -, hdisjoint⟩ := List.nodup_append.mp hnodup
  have hfree : later ∉ before := fun hmem => hdisjoint _ hmem _ (by simp) rfl
  have hmem : later ∈ paths.drop (i + 1) := by
    rw [hsplit]
    simp
  obtain ⟨k, hk⟩ := List.mem_iff_getElem?.mp (List.mem_of_mem_drop hmem)
  have hlt := (mem_drop_iff h.nodup hk _).mp hmem
  have hne : path ≠ later := by
    rintro rfl
    have := (h.index_iff _ k).mpr hk
    rw [hi, Option.some.injEq] at this
    omega
  refine ⟨k - 1, ?_⟩
  rw [getElem?_moveUp _ hbefore, if_neg hfree, Std.HashMap.getElem?_erase,
    if_neg (by simpa using hne), (h.index_iff _ k).mpr hk]
  congr 1
  omega

/-- A path is taken out, and the paths behind it move up.

**Proof sketch.** A path at position `k` in the old list is at position `k` in the new one if it
stood before the path that goes, and at `k - 1` if it stood behind; the index is changed in just
this way (`getElem?_moveUp_erase`). -/
theorem Indexed.eraseIdx (h : Indexed paths index) {i : Nat} (hi : index[path]? = some i) :
    Indexed (paths.eraseIdx i) (moveUp (index.erase path) (paths.drop (i + 1))) := by
  refine ⟨fun q j => ?_, fun hmem => h.empty_notMem (List.mem_of_mem_eraseIdx hmem)⟩
  have hcond : (if j < i then paths[j]? else paths[j + 1]?) = some q ↔
      if j < i then index[q]? = some j else index[q]? = some (j + 1) := by
    split
    · rw [h.index_iff]
    · rw [h.index_iff]
  rw [h.getElem?_moveUp_erase i, List.getElem?_eraseIdx, hcond]
  by_cases hq : q = path
  · subst hq
    simp only [if_true, hi, Option.some.injEq]
    split <;> simp <;> omega
  · rw [if_neg hq]
    cases hk : index[q]? with
    | none => simp
    | some k =>
      have hki : k ≠ i := by
        rintro rfl
        have := ((h.index_iff q k).mp hk).symm.trans ((h.index_iff path k).mp hi)
        exact hq (Option.some.inj this)
      simp only [Option.map_some, Option.some.injEq]
      split <;> split <;> omega

end Verdict.Errors
