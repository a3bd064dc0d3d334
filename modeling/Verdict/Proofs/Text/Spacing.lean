import Mathlib.Data.List.Basic
import Mathlib.Data.List.DropRight
import Mathlib.Data.List.TakeWhile
import Verdict.Text.Spacing

/-!
# Trimming, and the lines of a text

A trimmed text is left as it is when it is trimmed again, and only blanks are taken away.

A text consists of lines if these stand one after the other in it, each ended by a line feed, and
none of them holds a line feed itself. The lines of a text are then determined by it. Texts that
hold line feeds and are written as lines all the same come out as more lines than were meant.

## Main definitions

* `Verdict.Text.HasLines` — a text consists of lines.
* `Verdict.Text.pieces` — a text cut at its line feeds.
* `Verdict.Text.dropReturn` — a line without a carriage return at its end.

## Main results

* `Verdict.Text.trim_trim` — a trimmed text is left as it is.
* `Verdict.Text.exists_blanks_trim` — only blanks are taken away.
* `Verdict.Text.HasLines.unique` — a text consists of one list of lines only.
* `Verdict.Text.hasLines_join` — what texts that are written as lines come out as.
* `Verdict.Text.HasLines.lines_eq` — reading the lines drops a carriage return at the end of each.
-/

namespace Verdict.Text

/-! ### Trimming -/

/-- Trimming in the words of the library. -/
lemma trim_eq (cs : List Char) : trim cs = (cs.dropWhile isBlank).rdropWhile isBlank := rfl

/-- Trimming the end of a text that does not start with a blank leaves its start as it is. -/
lemma trimStart_rdropWhile {cs : List Char} (h : cs.dropWhile isBlank = cs) :
    (cs.rdropWhile isBlank).dropWhile isBlank = cs.rdropWhile isBlank := by
  rw [List.dropWhile_eq_self_iff] at h ⊢
  intro hpos
  have hpre := List.rdropWhile_prefix isBlank cs
  rw [hpre.getElem hpos]
  exact h (hpos.trans_le hpre.length_le)

/-- A trimmed text is left as it is. -/
lemma trim_trim (cs : List Char) : trim (trim cs) = trim cs := by
  rw [trim_eq (trim cs), trim_eq cs, trimStart_rdropWhile (List.dropWhile_idempotent isBlank cs),
    List.rdropWhile_idempotent]

/-- A blank at the end makes no difference. -/
lemma trim_concat {c : Char} (hc : isBlank c = true) (cs : List Char) :
    trim (cs ++ [c]) = trim cs := by
  rw [trim_eq, trim_eq, List.dropWhile_append]
  split_ifs with hempty
  · rw [List.isEmpty_iff.mp hempty, List.dropWhile_cons_of_pos hc, List.dropWhile_nil]
  · rw [List.rdropWhile_concat_pos _ _ _ hc]

/-- Trimming takes blanks away in front and behind. -/
lemma exists_blanks_trim (cs : List Char) :
    ∃ front back, (∀ c ∈ front, isBlank c = true) ∧ (∀ c ∈ back, isBlank c = true) ∧
      cs = front ++ trim cs ++ back := by
  refine ⟨cs.takeWhile isBlank, (cs.dropWhile isBlank).rtakeWhile isBlank,
    fun c => List.mem_takeWhile_imp, fun c => List.mem_rtakeWhile_imp, ?_⟩
  rw [List.append_assoc, trim_eq, List.rdropWhile_append_rtakeWhile,
    List.takeWhile_append_dropWhile]

/-! ### Lines -/

/-- A text consists of lines: they stand in it one after the other, each ended by a line feed, and
none of them holds a line feed. -/
structure HasLines (s : String) (rows : List String) : Prop where
  toList_eq : s.toList = rows.flatMap fun row => row.toList ++ ['\n']
  unbroken : ∀ row ∈ rows, '\n' ∉ row.toList

instance (s : String) (rows : List String) : Decidable (HasLines s rows) :=
  decidable_of_iff (s.toList = (rows.flatMap fun row => row.toList ++ ['\n']) ∧
      ∀ row ∈ rows, '\n' ∉ row.toList)
    ⟨fun h => ⟨h.1, h.2⟩, fun h => ⟨h.toList_eq, h.unbroken⟩⟩

/-- A text cut at its line feeds. -/
def pieces (s : String) : List String := (s.toList.splitOn '\n').map String.ofList

/-- A line without a carriage return at its end. -/
def dropReturn (row : String) : String := String.ofList (withoutReturn row.toList)

variable {s : String} {rows : List String}

/-! ### Cutting at a character -/

/-- What is cut at a character does not hold it.

**Proof sketch.** Induction on the list. The character to cut at opens a new piece and is in none;
any other is put in front of the first piece. -/
lemma notMem_of_mem_splitOn {x : Char} {cs piece : List Char} (h : piece ∈ cs.splitOn x) :
    x ∉ piece := by
  induction cs generalizing piece with
  | nil =>
    rw [List.splitOn_nil, List.mem_singleton] at h
    simp [h]
  | cons c cs ih =>
    rw [List.splitOn_cons_eq_if_modifyHead] at h
    obtain ⟨first, more, hcut⟩ := List.exists_cons_of_ne_nil (List.splitOn_ne_nil x cs)
    rw [hcut] at h ih
    split_ifs at h with hc
    · rcases List.mem_cons.mp h with rfl | h
      · exact List.not_mem_nil
      · exact ih h
    · rcases List.mem_cons.mp h with rfl | h
      · have hne : x ≠ c := fun heq => hc (by simp [heq])
        rw [List.mem_cons, not_or]
        exact ⟨hne, ih List.mem_cons_self⟩
      · exact ih (List.mem_cons_of_mem _ h)

/-- Each occurrence of the character makes for one more piece. -/
lemma length_splitOn (x : Char) (cs : List Char) : (cs.splitOn x).length = cs.count x + 1 := by
  induction cs with
  | nil => simp
  | cons c cs ih =>
    rw [List.splitOn_cons_eq_if_modifyHead, List.count_cons]
    split_ifs
    · rw [List.length_cons, ih]
    · rw [List.length_modifyHead, ih, Nat.add_zero]

/-- With the character behind each of them, the pieces make up the list and the character.

**Proof sketch.** Joined by the character, the pieces make up the list (`List.intercalate_splitOn`).
With the character behind each of them they make up this and one character more, by induction on the
pieces. -/
lemma flatMap_splitOn (x : Char) (cs : List Char) :
    ((cs.splitOn x).flatMap fun piece => piece ++ [x]) = cs ++ [x] := by
  have hended : ∀ pieces : List (List Char), pieces ≠ [] →
      (pieces.flatMap fun piece => piece ++ [x]) = [x].intercalate pieces ++ [x] := by
    intro pieces hpieces
    induction pieces with
    | nil => exact absurd rfl hpieces
    | cons piece more ih =>
      cases more with
      | nil => simp
      | cons next more =>
        rw [List.flatMap_cons, ih (List.cons_ne_nil _ _), List.intercalate_cons_cons]
        simp
  rw [hended _ (List.splitOn_ne_nil x cs), List.intercalate_splitOn]

/-! ### Texts that consist of lines -/

/-- Cutting a text that consists of lines gives back the lines, and nothing behind the last one. -/
lemma splitOn_flatMap_unbroken (h : ∀ row ∈ rows, '\n' ∉ row.toList) :
    (rows.flatMap fun row => row.toList ++ ['\n']).splitOn '\n' =
      rows.map String.toList ++ [[]] := by
  induction rows with
  | nil => exact List.splitOn_nil _
  | cons row rows ih =>
    rw [List.forall_mem_cons] at h
    rw [List.flatMap_cons, List.append_assoc, List.singleton_append,
      List.splitOn_append_cons_self_of_not_mem h.1, ih h.2]
    rfl

/-- A text consists of one list of lines only. -/
lemma HasLines.unique {others : List String} (h : HasLines s rows) (hothers : HasLines s others) :
    rows = others := by
  have hcut := splitOn_flatMap_unbroken h.unbroken
  rw [← h.toList_eq, hothers.toList_eq, splitOn_flatMap_unbroken hothers.unbroken] at hcut
  have hinjective : Function.Injective String.toList := fun _ _ => String.toList_injective
  exact (List.map_injective_iff.mpr hinjective (List.append_cancel_right hcut)).symm

/-- A text has one piece more than line feeds. -/
lemma length_pieces (row : String) : (pieces row).length = row.toList.count '\n' + 1 := by
  rw [pieces, List.length_map, length_splitOn]

/-- A text without line feeds is its only piece. -/
lemma pieces_of_notMem {row : String} (h : '\n' ∉ row.toList) : pieces row = [row] := by
  rw [pieces, List.splitOn_eq_singleton h, List.map_singleton, String.ofList_toList]

/-- With a line feed behind each of them, the pieces of a text make up the text as a line. -/
lemma flatMap_pieces (row : String) :
    ((pieces row).flatMap fun piece => piece.toList ++ ['\n']) = row.toList ++ ['\n'] := by
  rw [pieces, List.flatMap_map, ← flatMap_splitOn]
  simp only [String.toList_ofList]

/-- Texts that are written as lines come out as lines for their pieces.

**Proof sketch.** A line with its line feed is made up of its pieces with line feeds behind them
(`flatMap_pieces`), and no piece holds one. -/
lemma hasLines_join (rows : List String) :
    HasLines (String.join (rows.map fun row => row ++ "\n")) (rows.flatMap pieces) where
  toList_eq := by
    simp only [String.toList_join, List.flatMap_map, List.flatMap_assoc, flatMap_pieces,
      String.toList_append]
    rfl
  unbroken row hrow := by
    obtain ⟨whole, -, hpiece⟩ := List.mem_flatMap.mp hrow
    obtain ⟨piece, hcut, rfl⟩ := List.mem_map.mp hpiece
    rw [String.toList_ofList]
    exact notMem_of_mem_splitOn hcut

/-- Lines without line feeds are their own pieces. -/
lemma flatMap_pieces_of_unbroken (h : ∀ row ∈ rows, '\n' ∉ row.toList) :
    rows.flatMap pieces = rows := by
  induction rows with
  | nil => rfl
  | cons row rows ih =>
    rw [List.forall_mem_cons] at h
    rw [List.flatMap_cons, pieces_of_notMem h.1, ih h.2]
    rfl

/-- A line in front of a text that consists of lines. -/
lemma HasLines.cons {row : String} (h : HasLines s rows) (hrow : '\n' ∉ row.toList) :
    HasLines (row ++ "\n" ++ s) (row :: rows) where
  toList_eq := by
    rw [String.toList_append, String.toList_append, h.toList_eq]
    rfl
  unbroken := List.forall_mem_cons.mpr ⟨hrow, h.unbroken⟩

/-! ### Reading lines -/

/-- Without the carriage return there are no more line feeds in a line than before. -/
lemma notMem_dropReturn {row : String} (h : '\n' ∉ row.toList) :
    '\n' ∉ (dropReturn row).toList := by
  rw [dropReturn, String.toList_ofList, withoutReturn]
  split_ifs
  · exact fun hmem => h (List.dropLast_subset _ hmem)
  · exact h

/-- A line is kept as it is unless it ends in a carriage return. -/
lemma dropReturn_eq_self_iff {row : String} :
    dropReturn row = row ↔ row.toList.getLast? ≠ some '\r' := by
  rw [dropReturn, ← String.toList_inj, String.toList_ofList, withoutReturn]
  split_ifs with hlast
  · obtain ⟨front, hfront⟩ := List.getLast?_eq_some_iff.mp hlast
    simp [hfront]
  · simpa using hlast

/-- What stands in front of a line feed is added to the current line, which then ends. -/
lemma linesFrom_append_lineFeed {row : List Char} (hrow : '\n' ∉ row) (current rest : List Char) :
    linesFrom current (row ++ '\n' :: rest) =
      withoutReturn (current.reverse ++ row) :: linesFrom [] rest := by
  induction row generalizing current with
  | nil => rw [List.nil_append, linesFrom, List.append_nil]
  | cons c row ih =>
    rw [List.mem_cons, not_or] at hrow
    rw [List.cons_append, linesFrom, ih hrow.2, List.reverse_cons, List.append_assoc]
    · rfl
    · exact fun h => hrow.1 h.symm

/-- Reading the lines of a text that consists of lines drops a carriage return at the end of each,
if there is one.

**Proof sketch.** Induction on the lines. Reading goes on to the first line feed, which is the end
of the first line (`linesFrom_append_lineFeed`). -/
lemma HasLines.lines_eq (h : HasLines s rows) :
    (lines s.toList).map String.ofList = rows.map dropReturn := by
  obtain ⟨heq, hunbroken⟩ := h
  rw [heq]
  clear heq
  induction rows with
  | nil => rfl
  | cons row rows ih =>
    rw [List.forall_mem_cons] at hunbroken
    rw [lines, List.flatMap_cons, List.append_assoc, List.singleton_append,
      linesFrom_append_lineFeed hunbroken.1, List.map_cons, List.map_cons, ← ih hunbroken.2]
    rfl

end Verdict.Text
