import Verdict.Proofs.Errors.Entries

/-!
# Errors as a list

The index of errors is in step with their entries; so looking up a path by the index finds what a
search of the entries finds, and each operation does to the entries what it does to a plain list.

## Main results

* `Verdict.Errors.get?_eq`, `Verdict.Errors.contains_iff` — what the index finds.
* `Verdict.Errors.toList_add`, `Verdict.Errors.toList_remove`, `Verdict.Errors.toList_extend` — what
  the operations do to the entries.
-/

namespace Verdict

namespace Errors

variable {e : Errors} {path : String} {error : FieldError}

/-- There are no errors just if there are no entries. -/
lemma isEmpty_iff : e.isEmpty = true ↔ e.toList = [] := by
  simp [isEmpty, toList]

/-- The number of errors is that of the paths. -/
lemma size_eq_length_paths (e : Errors) : e.size = e.paths.length := by
  simp [size, paths, toList]

/-! ### What the index finds -/

/-- The index gives each path its position among the paths. -/
lemma index_iff (e : Errors) (path : String) (i : Nat) :
    e.index[path]? = some i ↔ e.paths[i]? = some path :=
  e.indexed.index_iff path i

/-- The empty path has no error. -/
lemma empty_notMem (e : Errors) : "" ∉ e.paths := e.indexed.empty_notMem

/-- No path repeats. -/
lemma nodup_paths (e : Errors) : e.paths.Nodup := e.indexed.nodup

/-- A path has an error if and only if it is among the paths. -/
lemma contains_iff (e : Errors) (path : String) : e.contains path = true ↔ path ∈ e.paths :=
  e.indexed.contains_iff

/-- The position of a path is one of an entry. -/
lemma lt_size {i : Nat} (hi : e.index[path]? = some i) : i < e.entries.size := by
  have hlt := (List.getElem?_eq_some_iff.mp ((e.index_iff path i).mp hi)).1
  rwa [← size_eq_length_paths] at hlt

/-- At the position of a path stands an entry with this path. -/
lemma getElem?_entries {i : Nat} (hi : e.index[path]? = some i) :
    ∃ error, e.entries[i]? = some (path, error) := by
  have hp := (e.index_iff path i).mp hi
  simp only [paths, toList, List.getElem?_map, Array.getElem?_toList] at hp
  obtain ⟨entry, hentry, rfl⟩ := Option.map_eq_some_iff.mp hp
  exact ⟨entry.2, hentry⟩

/-- A path that the index does not know is not among the paths. -/
lemma notMem_of_none (hi : e.index[path]? = none) : path ∉ e.paths := by
  rw [← e.contains_iff, contains, Std.HashMap.contains_eq_isSome_getElem?, hi]
  simp

/-- Looking up by the index finds what a search of the entries finds.

**Proof sketch.** A path without a position is not among the entries. At the position of one stands
its entry, and as no path repeats, the search stops there and nowhere before. -/
lemma get?_eq (e : Errors) (path : String) : e.get? path = Entries.get? e.toList path := by
  rw [get?]
  cases hi : e.index[path]? with
  | none =>
    rw [Entries.get?_eq_none (notMem_of_none hi)]
    rfl
  | some i =>
    obtain ⟨error, herror⟩ := getElem?_entries hi
    have hmem : (path, error) ∈ e.toList :=
      List.mem_iff_getElem?.mpr ⟨i, by rw [toList, Array.getElem?_toList, herror]⟩
    rw [Entries.get?_eq_some e.nodup_paths hmem]
    simp [herror]

/-! ### Adding -/

/-- What the index is asked before an error is added, said of the list. -/
lemma isTaken_iff (e : Errors) (path : String) :
    (path.isEmpty || e.contains path) = true ↔ path = "" ∨ path ∈ Entries.paths e.toList := by
  rw [Bool.or_eq_true, e.contains_iff, String.isEmpty_iff]
  rfl

/-- An error at the empty path or at one that has an error is not taken. -/
lemma add_of_taken (htaken : (path.isEmpty || e.contains path) = true) (error : FieldError) :
    e.add path error = (false, e) :=
  dif_pos htaken

/-- An error at another path is put at the end. -/
lemma toList_add_of_free (hfree : ¬(path.isEmpty || e.contains path) = true) (error : FieldError) :
    (e.add path error).2.toList = e.toList ++ [(path, error)] := by
  rw [add, dif_neg hfree]
  exact Array.toList_push

/-- So a collection is left alone by an error that is not taken. -/
lemma record_of_taken (htaken : (path.isEmpty || e.contains path) = true) (error : FieldError) :
    e.record path error = e := by
  rw [record, add_of_taken htaken]

/-- The path of an error that is taken comes last. -/
lemma paths_record_of_free (hfree : ¬(path.isEmpty || e.contains path) = true)
    (error : FieldError) : (e.record path error).paths = e.paths ++ [path] := by
  rw [paths, record, toList_add_of_free hfree, List.map_append]
  rfl

/-- Adding through the index answers as adding to the list does. -/
lemma add_fst (e : Errors) (path : String) (error : FieldError) :
    (e.add path error).1 = (Entries.add e.toList path error).1 := by
  rw [Entries.add]
  by_cases hp : path = "" ∨ path ∈ Entries.paths e.toList
  · rw [add_of_taken ((e.isTaken_iff path).mpr hp), if_pos hp]
  · rw [add, dif_neg (mt (e.isTaken_iff path).mp hp), if_neg hp]

/-- Adding puts the entry at the end, if its path is free. -/
lemma toList_add (e : Errors) (path : String) (error : FieldError) :
    (e.add path error).2.toList = (Entries.add e.toList path error).2 := by
  rw [Entries.add]
  by_cases hp : path = "" ∨ path ∈ Entries.paths e.toList
  · rw [add_of_taken ((e.isTaken_iff path).mpr hp), if_pos hp]
  · rw [toList_add_of_free (mt (e.isTaken_iff path).mp hp), if_neg hp]

/-! ### Taking away -/

/-- What is answered by taking away is what is found at the path. -/
lemma remove_fst_eq_get? (e : Errors) (path : String) : (e.remove path).1 = e.get? path := by
  rw [remove]
  split
  case h_1 hi => rw [get?, hi, Option.bind_none]
  case h_2 i hi =>
    have hget : e.get? path = e.entries[i]?.map (·.2) := by rw [get?, hi, Option.bind_some]
    exact hget.symm

/-- Taking away a path that the index does not know. -/
lemma remove_of_not_index (hi : e.index[path]? = none) : e.remove path = (none, e) := by
  rw [remove]
  split
  case h_1 => rfl
  case h_2 i hi' => exact absurd (hi.symm.trans hi') (by simp)

/-- Taking away, once the index has found a position: the entry there goes, and the paths behind it
move up. -/
lemma remove_of_index {i : Nat} (hi : e.index[path]? = some i) :
    (e.remove path).2.entries = e.entries.eraseIdxIfInBounds i ∧
      (e.remove path).2.index = moveUp (e.index.erase path) (e.paths.drop (i + 1)) := by
  rw [remove]
  split
  case h_1 hi' => exact absurd (hi.symm.trans hi') (by simp)
  case h_2 j hj =>
    obtain rfl := Option.some.inj (hi.symm.trans hj)
    refine ⟨rfl, ?_⟩
    change moveUp _ (((e.entries.eraseIdxIfInBounds i).toList.map (·.1)).drop i) = _
    rw [paths_eraseIdx, drop_eraseIdx]

/-- Taking away answers as it does for the list. -/
lemma remove_fst (e : Errors) (path : String) :
    (e.remove path).1 = (Entries.remove e.toList path).1 := by
  rw [remove_fst_eq_get?, get?_eq, Entries.remove]

/-- Taking away takes the entry of the path out of the list.

**Proof sketch.** The index finds the position of the path, and the entry at this position is the
only one with the path; so taking out the position and taking out the path come to the same. -/
lemma toList_remove (e : Errors) (path : String) :
    (e.remove path).2.toList = (Entries.remove e.toList path).2 := by
  rw [Entries.remove]
  cases hi : e.index[path]? with
  | none =>
    rw [remove_of_not_index hi]
    exact (Entries.filter_ne_eq_self (notMem_of_none hi)).symm
  | some i =>
    have hp : (Entries.paths e.toList)[i]? = some path := (e.index_iff path i).mp hi
    rw [toList, (remove_of_index hi).1, Array.toList_eraseIdxIfInBounds]
    exact (Entries.filter_ne_eq_eraseIdx e.nodup_paths hp).symm

/-! ### Adding many -/

/-- Giving a path an error adds to the list. -/
lemma toList_record (e : Errors) (path : String) (error : FieldError) :
    (e.record path error).toList = (Entries.add e.toList path error).2 :=
  e.toList_add path error

/-- Adding many does to the list what adding them to the list does. -/
lemma toList_extend (e : Errors) (items : Entries) :
    (e.extend items).toList = Entries.extend e.toList items := by
  induction items generalizing e with
  | nil => rfl
  | cons item items ih =>
    have hstep : e.extend (item :: items) = (e.record item.1 item.2).extend items := rfl
    rw [hstep, ih, toList_record, Entries.extend_cons]

/-- Merging a part under a path adds its entries, with their paths moved. -/
lemma appendScoped_eq_extend (e : Errors) (scope : String) (child : Errors) :
    e.appendScoped scope child = e.extend (Entries.under scope child.toList) := by
  rw [appendScoped, extend, Entries.under, List.foldl_map]

end Errors

end Verdict
