import Verdict.Proofs.Errors.Index

/-!
# Merging errors

Errors are collected in parts, each part by itself, and the parts are merged under their paths. It
makes no difference whether the repetitions in a part are dropped before it is merged or only by the
merge; so in the end the collection is that of one list.

## Main results

* `Verdict.Errors.extend_append` — a list is added in parts.
* `Verdict.Errors.extend_filter` — entries at the empty path do not count.
* `Verdict.Errors.paths_extend_congr` — what is taken depends on paths only.
* `Verdict.Errors.appendScoped_ofList` — merging the collection of a list adds the list.

## Design

The collections are equal, and not only their entries: what is merged in parts has the same index as
what is added at once. So the equations here go by the operations and not through the lists.
-/

namespace Verdict

namespace Errors

/-- A list is added in parts. -/
lemma extend_append (e : Errors) (l items : Entries) :
    e.extend (l ++ items) = (e.extend l).extend items :=
  List.foldl_append

/-- Entries are added one by one. -/
lemma extend_cons (e : Errors) (item : String × FieldError) (items : Entries) :
    e.extend (item :: items) = (e.record item.1 item.2).extend items := rfl

/-- One entry is added as it is recorded. -/
lemma extend_singleton (e : Errors) (path : String) (error : FieldError) :
    e.extend [(path, error)] = e.record path error := rfl

/-- An error at the empty path is not taken. -/
lemma record_empty_path (e : Errors) (error : FieldError) : e.record "" error = e := rfl

/-- An error at a path that the index knows is not taken. -/
lemma record_of_contains {e : Errors} {path : String} (h : e.contains path = true)
    (error : FieldError) : e.record path error = e :=
  record_of_taken (by rw [h, Bool.or_true]) error

/-- After an error was given, the index knows its path, unless that is empty, beside the others.

**Proof sketch.** By whether the error is taken. If it is not, then its path is empty, which adds
nothing on the right, or known already. If it is, its path is put behind the others, and not
empty. -/
lemma contains_record (e : Errors) (path : String) (error : FieldError) (q : String) :
    (e.record path error).contains q = true ↔ e.contains q = true ∨ q ≠ "" ∧ q = path := by
  by_cases htaken : (path.isEmpty || e.contains path) = true
  · rw [record_of_taken htaken]
    rw [Bool.or_eq_true, String.isEmpty_iff] at htaken
    refine ⟨Or.inl, ?_⟩
    rintro (h | ⟨hne, rfl⟩)
    · exact h
    · exact htaken.resolve_left hne
  · have hne : path ≠ "" := by
      rintro rfl
      exact htaken rfl
    rw [contains_iff, contains_iff, paths_record_of_free htaken, List.mem_append,
      List.mem_singleton]
    refine or_congr_right ⟨?_, And.right⟩
    rintro rfl
    exact ⟨hne, rfl⟩

/-- After a list was added, the index knows its paths beside the others. -/
lemma contains_extend (e : Errors) (l : Entries) (q : String) :
    (e.extend l).contains q = true ↔ e.contains q = true ∨ q ≠ "" ∧ q ∈ l.paths := by
  induction l generalizing e with
  | nil => simp [extend]
  | cons item l ih =>
    rw [extend_cons, ih, contains_record, Entries.paths_cons, List.mem_cons, or_assoc, and_or_left]

/-- Entries at the empty path do not count. -/
lemma extend_filter (e : Errors) (l : Entries) :
    e.extend (l.filter fun entry => entry.1 ≠ "") = e.extend l := by
  induction l generalizing e with
  | nil => rfl
  | cons item l ih =>
    by_cases hempty : item.1 = ""
    · rw [List.filter_cons_of_neg (by simpa using hempty), ih, extend_cons, hempty,
        record_empty_path]
    · rw [List.filter_cons_of_pos (by simpa using hempty), extend_cons, extend_cons, ih]

/-- What is taken depends on paths only: collections with the same paths have the same paths after
lists with the same paths were added.

**Proof sketch.** Induction on one of the lists. The two collections know the same paths, so the
next error is taken by both or by neither, and the paths are the same again. -/
lemma paths_extend_congr {e e' : Errors} (hpaths : e.paths = e'.paths) {l items : Entries}
    (h : l.paths = items.paths) : (e.extend l).paths = (e'.extend items).paths := by
  induction l generalizing e e' items with
  | nil =>
    obtain rfl : items = [] := by simpa [Entries.paths] using h.symm
    exact hpaths
  | cons item l ih =>
    obtain ⟨other, rest, rfl⟩ : ∃ other rest, items = other :: rest := by
      cases items with
      | nil => simp at h
      | cons other rest => exact ⟨other, rest, rfl⟩
    rw [Entries.paths_cons, Entries.paths_cons, List.cons.injEq] at h
    have hsame : (item.1.isEmpty || e.contains item.1) = true ↔
        (other.1.isEmpty || e'.contains other.1) = true := by
      rw [Bool.or_eq_true, Bool.or_eq_true, contains_iff, contains_iff, hpaths, h.1]
    rw [extend_cons, extend_cons]
    by_cases htaken : (item.1.isEmpty || e.contains item.1) = true
    · rw [record_of_taken htaken, record_of_taken (hsame.mp htaken)]
      exact ih hpaths h.2
    · refine ih ?_ h.2
      rw [paths_record_of_free htaken, paths_record_of_free (mt hsame.mpr htaken), hpaths, h.1]

/-- A path behind another one and a dot is not empty. -/
lemma under_ne_empty (scope path : String) : scope ++ "." ++ path ≠ "" := by
  intro h
  have := congrArg String.length h
  simp [String.length_append] at this

/-- Repetitions in a list may be dropped before its paths are moved or afterwards.

**Proof sketch.** Induction on the list, with what is kept of it so far as the accumulator. An entry
that repeats a path of the accumulator is dropped on the left; on the right its moved path is known
to the index already, since the accumulator was added before it. -/
lemma extend_under_extend (e : Errors) (scope : String) (kept l : Entries) (hl : "" ∉ l.paths) :
    e.extend (Entries.under scope (kept.extend l)) =
      (e.extend (Entries.under scope kept)).extend (Entries.under scope l) := by
  induction l generalizing kept with
  | nil => rfl
  | cons item l ih =>
    rw [Entries.paths_cons, List.mem_cons, not_or] at hl
    have hunder : Entries.under scope (item :: l) =
        (scope ++ "." ++ item.1, item.2) :: Entries.under scope l := rfl
    rw [Entries.extend_cons, ih _ hl.2, hunder, extend_cons]
    congr 1
    rw [Entries.add]
    by_cases hmem : item.1 ∈ kept.paths
    · rw [if_pos (Or.inr hmem)]
      have hknown : scope ++ "." ++ item.1 ∈ Entries.paths (Entries.under scope kept) := by
        obtain ⟨entry, hentry, hpath⟩ := List.mem_map.mp hmem
        rw [← hpath]
        simp only [Entries.paths, Entries.under, List.map_map, List.mem_map]
        exact ⟨entry, hentry, rfl⟩
      rw [record_of_contains]
      exact (contains_extend _ _ _).mpr (Or.inr ⟨under_ne_empty scope item.1, hknown⟩)
    · rw [if_neg (not_or.mpr ⟨Ne.symm hl.1, hmem⟩)]
      have happend : Entries.under scope (kept ++ [item]) =
          Entries.under scope kept ++ [(scope ++ "." ++ item.1, item.2)] := by
        simp [Entries.under]
      rw [happend, extend_append, extend_singleton]

/-- Merging the collection of a list adds the list, with its paths moved. -/
lemma appendScoped_ofList (e : Errors) (scope : String) {l : Entries} (hl : "" ∉ l.paths) :
    e.appendScoped scope (ofList l) = e.extend (Entries.under scope l) := by
  rw [appendScoped_eq_extend, ofList, toList_extend]
  exact extend_under_extend e scope [] l hl

end Errors

end Verdict
