import Mathlib.Data.List.Basic
import Verdict.Files.Tree

/-!
# Writing files

A file that is written in a tree of files is found under the path that it was written to, and all
else is as before, up to the directories on the way to it.

## Main definitions

* `Verdict.FileTree.Gains` — a tree has one more file, or another text in one file.

## Main results

* `Verdict.FileTree.gains_of_store?` — what becomes of a tree in which a file is written.
* `Verdict.FileTree.entry?_of_store?`, `Verdict.FileTree.kept_of_store?` — the file is found again,
  and replaces none where nothing was found.

## Design

A path that leads upwards is no way back to a file: a directory that is created on the way to the
file and left again holds nothing, and so does not exist in the tree. So finding a file again is
said of paths without upward steps.
-/

namespace Verdict

namespace Path

/-- What stands between the slashes of two texts with a slash between them. -/
lemma partsFrom_append_slash (current cs rest : List Char) :
    partsFrom current (cs ++ '/' :: rest) = partsFrom current cs ++ partsFrom [] rest := by
  induction cs generalizing current with
  | nil => rfl
  | cons c cs ih =>
    by_cases hc : c = '/'
    · subst hc
      rw [List.cons_append, partsFrom, partsFrom, ih]
      rfl
    · rw [List.cons_append, partsFrom.eq_3 _ _ _ hc, partsFrom.eq_3 _ _ _ hc, ih]

/-- Without a slash, there is one part. -/
lemma partsFrom_of_notMem {cs : List Char} (h : '/' ∉ cs) (current : List Char) :
    partsFrom current cs = [String.ofList (current.reverse ++ cs)] := by
  induction cs generalizing current with
  | nil => rw [partsFrom, List.append_nil]
  | cons c cs ih =>
    rw [List.mem_cons, not_or] at h
    rw [partsFrom.eq_3 _ _ _ (Ne.symm h.1), ih h.2, List.reverse_cons, List.append_assoc]
    rfl

/-- The last part of a path to a name below another path is the name.

**Proof sketch.** There is a slash before the name, the one that the path ends with or one that is
put in, unless the path is empty. The parts before the slash are those of what stands before it. -/
lemma exists_parts_join (path : String) {name : String} (h : '/' ∉ name.toList) :
    ∃ before, parts (join path name) = before ++ [name] := by
  have hname (current : List Char) (cs : List Char) :
      partsFrom current (cs ++ '/' :: name.toList) = partsFrom current cs ++ [name] := by
    rw [partsFrom_append_slash, partsFrom_of_notMem h]
    simp
  rw [join]
  split_ifs with hempty hslash
  · exact ⟨[], by rw [parts, partsFrom_of_notMem h]; simp⟩
  · obtain ⟨cs, hcs⟩ := List.getLast?_eq_some_iff.mp hslash
    refine ⟨partsFrom [] cs, ?_⟩
    rw [parts, String.toList_append, hcs, List.append_assoc, List.singleton_append, hname]
  · refine ⟨partsFrom [] path.toList, ?_⟩
    rw [parts, String.toList_append, String.toList_append, List.append_assoc]
    exact hname [] path.toList

/-- A path to a name below another path has this name. -/
lemma fileName?_join (path : String) {name : String} (h : '/' ∉ name.toList)
    (hname : name ∉ ["", ".", ".."]) : fileName? (join path name) = some name := by
  obtain ⟨before, hparts⟩ := exists_parts_join path h
  simp only [List.mem_cons, not_or] at hname
  rw [fileName?, hparts, List.filter_append, List.filter_cons_of_pos (by simp [hname.1, hname.2.1]),
    List.filter_nil, List.getLast?_concat]
  simp [hname.2.2.1]

end Path

namespace FileTree

/-- A tree has a file at a place with a text, and is otherwise as another tree, up to the
directories on the way to the place. -/
structure Gains (t : FileTree) (place : List String) (text : String) (t' : FileTree) : Prop where
  at_place : t'.at? place = some (.file text)
  /-- All other files are kept, and no others come into being. -/
  files_iff : ∀ other s, other ≠ place →
    (t'.at? other = some (.file s) ↔ t.at? other = some (.file s))
  /-- On the way to the place there are directories, if there are no files. -/
  above : ∀ other, other <+: place → other ≠ place → (∀ s, t.at? other ≠ some (.file s)) →
    t'.at? other = some .directory
  /-- What is not on the way is as before. -/
  apart : ∀ other, ¬other <+: place → t'.at? other = t.at? other
  workingDirectory_eq : t'.workingDirectory = t.workingDirectory

variable {t t' : FileTree} {path text : String} {place : List String}

/-! ### What is at a place -/

/-- At a place there is the first file that is listed for it, or else a directory, if the place is
above the working directory or a file.

**Proof sketch.** If no file is listed for the place, the test whether anything is below it is that
for a prefix. -/
lemma at?_eq (t : FileTree) (place : List String) : t.at? place =
    ((t.files.find? fun f => f.1 == place).map fun f => Entry.file f.2).or
      (if place <+: t.workingDirectory ∨ ∃ f ∈ t.files, place <+: f.1 then some .directory
        else none) := by
  rw [at?]
  cases t.files.find? fun f => f.1 == place with
  | some f => rfl
  | none =>
    have habove : (place.isPrefixOf t.workingDirectory ||
        t.files.any fun f => place.isPrefixOf f.1) = true ↔
          place <+: t.workingDirectory ∨ ∃ f ∈ t.files, place <+: f.1 := by
      simp only [Bool.or_eq_true, List.isPrefixOf_iff_prefix, List.any_eq_true]
    exact if_congr habove rfl rfl

/-- There is a file at a place just if one is listed for it. -/
lemma at?_eq_file_iff {s : String} : t.at? place = some (.file s) ↔
    (t.files.find? fun f => f.1 == place).map (·.2) = some s := by
  rw [at?_eq]
  cases t.files.find? fun f => f.1 == place with
  | some f => simp
  | none => simp

/-- No file is listed for a place at which there is none. -/
lemma find?_eq_none (h : ∀ s, t.at? place ≠ some (.file s)) :
    (t.files.find? fun f => f.1 == place) = none := by
  cases hfound : t.files.find? fun f => f.1 == place with
  | none => rfl
  | some f => exact absurd (at?_eq_file_iff.mpr (by rw [hfound]; rfl)) (h f.2)

/-- A place without a file that is above one is a directory. -/
lemma at?_eq_directory (hnone : (t.files.find? fun f => f.1 == place) = none)
    (habove : ∃ f ∈ t.files, place <+: f.1) : t.at? place = some .directory := by
  rw [at?_eq, hnone, if_pos (Or.inr habove)]
  rfl

/-- A file with a text at a place, in the place of any that is there. -/
def put (t : FileTree) (place : List String) (text : String) : FileTree :=
  { t with files := t.files.filter (fun f => f.1 != place) ++ [(place, text)] }

/-- The file that is put at a place is the one that is listed for it. -/
lemma find?_put_self (t : FileTree) (place : List String) (text : String) :
    ((t.put place text).files.find? fun f => f.1 == place) = some (place, text) := by
  have hnone : ((t.files.filter fun f => f.1 != place).find? fun f => f.1 == place) = none := by
    rw [List.find?_eq_none]
    intro f hf
    simpa using (List.mem_filter.mp hf).2
  rw [put, List.find?_append, hnone]
  simp

/-- For all other places the same files are listed.

**Proof sketch.** The files that are taken away are not listed for the other place, and the one that
is added is not either. -/
lemma find?_put_of_ne (t : FileTree) {other place : List String} (h : other ≠ place)
    (text : String) : ((t.put place text).files.find? fun f => f.1 == other) =
      t.files.find? fun f => f.1 == other := by
  have hkept : ((t.files.filter fun f => f.1 != place).find? fun f => f.1 == other) =
      t.files.find? fun f => f.1 == other := by
    rw [List.find?_filter]
    congr 1
    funext f
    by_cases hf : f.1 = other
    · simp [hf, h]
    · simp [hf]
  have hnew : ([(place, text)].find? fun f => f.1 == other) = none := by simp [Ne.symm h]
  rw [put, List.find?_append, hkept, hnew, Option.or_none]

/-- A tree in which a file is put gains this file.

**Proof sketch.** A file is found at its place, and at all other places what was found before. A
place is above a file of the new tree if it is above the new one or above one that is kept; and as a
file that goes was at the place of the new one, no place is above less than before. -/
lemma gains_put (t : FileTree) (place : List String) (text : String) :
    t.Gains place text (t.put place text) where
  at_place := by
    rw [at?_eq_file_iff, find?_put_self]
    rfl
  files_iff other s h := by rw [at?_eq_file_iff, at?_eq_file_iff, find?_put_of_ne t h]
  above other hprefix h hfile := by
    have hnew : ∃ f ∈ (t.put place text).files, other <+: f.1 :=
      ⟨(place, text), List.mem_append_right _ List.mem_cons_self, hprefix⟩
    exact at?_eq_directory ((find?_put_of_ne t h text).trans (find?_eq_none hfile)) hnew
  apart other h := by
    have hne : other ≠ place := by
      rintro rfl
      exact h List.prefix_rfl
    -- the files that come and go are at the place, and the other one is not above it
    have hkept : (∃ f ∈ (t.put place text).files, other <+: f.1) ↔
        ∃ f ∈ t.files, other <+: f.1 := by
      constructor
      · rintro ⟨f, hf, hprefix⟩
        rcases List.mem_append.mp hf with hf | hf
        · exact ⟨f, List.mem_of_mem_filter hf, hprefix⟩
        · rw [List.mem_singleton.mp hf] at hprefix
          exact absurd hprefix h
      · rintro ⟨f, hf, hprefix⟩
        have hkeep : f.1 ≠ place := by
          rintro heq
          exact h (heq ▸ hprefix)
        exact ⟨f, List.mem_append_left _ (List.mem_filter.mpr ⟨hf, by simpa using hkeep⟩), hprefix⟩
    rw [at?_eq, at?_eq, find?_put_of_ne t hne]
    exact congrArg _ (if_congr (or_congr_right hkept) rfl rfl)
  workingDirectory_eq := rfl

/-- A tree gains the files that it has already.

**Proof sketch.** The file is listed already, so what is above its place is a directory. -/
lemma gains_self (h : t.at? place = some (.file text)) : t.Gains place text t where
  at_place := h
  files_iff _ _ _ := Iff.rfl
  above other hprefix _ hfile := by
    obtain ⟨f, hfound, -⟩ := Option.map_eq_some_iff.mp (at?_eq_file_iff.mp h)
    have hplace : f.1 = place := by simpa using List.find?_some hfound
    have habove : ∃ f ∈ t.files, other <+: f.1 :=
      ⟨f, List.mem_of_find?_eq_some hfound, hplace ▸ hprefix⟩
    exact at?_eq_directory (find?_eq_none hfile) habove
  apart _ _ := rfl
  workingDirectory_eq := rfl

/-! ### Paths -/

/-- The names among the parts of a path. -/
def names (parts : List String) : List String :=
  parts.filter fun part => !(part == "" || part == ".")

/-- The last part of a path is a name. -/
def EndsInName (parts : List String) : Prop :=
  ∃ last, parts.getLast? = some last ∧ last ∉ ["", ".", ".."]

/-- What ends in a name has a name. -/
lemma EndsInName.names_ne_nil {parts : List String} (h : EndsInName parts) : names parts ≠ [] := by
  obtain ⟨last, hlast, hname⟩ := h
  have hmem : last ∈ names parts := by
    refine List.mem_filter.mpr ⟨List.mem_of_getLast? hlast, ?_⟩
    simp only [List.mem_cons, not_or] at hname
    simp [hname.1, hname.2.1]
  exact List.ne_nil_of_mem hmem

/-- The last part stays the last one when others before it are left out. -/
lemma EndsInName.of_cons {part : String} {rest : List String} (h : EndsInName (part :: rest))
    (hrest : rest ≠ []) : EndsInName rest := by
  obtain ⟨last, hlast, hname⟩ := h
  rw [List.getLast?_cons_of_ne_nil hrest] at hlast
  exact ⟨last, hlast, hname⟩

/-- A path without upward steps leads to its names, if it leads anywhere.

**Proof sketch.** Induction on the parts. A part that names nothing leaves the place as it is, and
any other part is a name and comes behind it. -/
lemma eq_append_names_of_follow {creating : Bool} {start parts final : List String}
    (hup : ".." ∉ parts) (h : t.follow creating start parts = some final) :
    final = start ++ names parts := by
  induction parts generalizing start with
  | nil =>
    obtain rfl := Option.some.inj h
    exact (List.append_nil _).symm
  | cons part rest ih =>
    rw [List.mem_cons, not_or] at hup
    rw [follow] at h
    split_ifs at h with hat hstay hparent
    · rw [ih hup.2 h, names, names, List.filter_cons_of_neg (by simp [hstay])]
    · exact absurd (beq_iff_eq.mp hparent) (Ne.symm hup.1)
    · rw [ih hup.2 h, names, names, List.filter_cons_of_pos (by simpa using hstay),
        List.append_assoc, List.singleton_append]

/-- A path that leads to a place where directories may be created leads there when a file is at the
place.

**Proof sketch.** Induction on the parts. As the path ends in a name, each place on the way is above
the file, and no file was there before; so it is a directory now. -/
lemma follow_of_gains (hgains : t.Gains place text t') {start parts : List String}
    (hup : ".." ∉ parts) (hend : EndsInName parts)
    (h : t.follow true start parts = some place) : t'.follow false start parts = some place := by
  induction parts generalizing start with
  | nil =>
    obtain ⟨last, hlast, -⟩ := hend
    contradiction
  | cons part rest ih =>
    have hplace := eq_append_names_of_follow hup h
    rw [List.mem_cons, not_or] at hup
    rw [follow, Option.ite_none_right_eq_some] at h
    obtain ⟨hat, h⟩ := h
    have hfile : ∀ s, t.at? start ≠ some (.file s) := by
      intro s hs
      simp [hs] at hat
    have hne : start ≠ place := by
      rw [hplace]
      simpa using hend.names_ne_nil
    have hdirectory := hgains.above start ⟨_, hplace.symm⟩ hne hfile
    rw [follow, hdirectory, if_pos (by simp)]
    split_ifs at h ⊢ with hstay hparent
    · -- a part that names nothing is not the last one
      have hrest : rest ≠ [] := by
        rintro rfl
        obtain ⟨last, hlast, hname⟩ := hend
        obtain rfl := Option.some.inj hlast
        simp only [List.mem_cons, not_or] at hname
        rcases Bool.or_eq_true_iff.mp hstay with hempty | hdot
        · exact hname.1 (beq_iff_eq.mp hempty)
        · exact hname.2.1 (beq_iff_eq.mp hdot)
      exact ih hup.2 (hend.of_cons hrest) h
    · exact absurd (beq_iff_eq.mp hparent) (Ne.symm hup.1)
    · by_cases hrest : rest = []
      · subst hrest
        exact h
      · exact ih hup.2 (hend.of_cons hrest) h

/-! ### Writing -/

/-- A file is written if its path leads to a place that is no directory, and ends in a name.

**Proof sketch.** The last part of the path decides whether it ends in a name. The rest is the
definition. -/
lemma store?_eq_some_iff : t.store? path text = some t' ↔
    ∃ place, t.place? true path = some place ∧ t.at? place ≠ some .directory ∧
      EndsInName (Path.parts path) ∧ t' = t.put place text := by
  have hend : ¬["", ".", ".."].contains ((Path.parts path).getLast?.getD "") = true ↔
      EndsInName (Path.parts path) := by
    rw [EndsInName]
    cases (Path.parts path).getLast? with
    | none => simp
    | some last => simp
  rw [store?, Option.bind_eq_some_iff]
  refine exists_congr fun place => and_congr_right fun _ => ?_
  rw [Option.ite_none_left_eq_some, Bool.or_eq_true, not_or, hend, beq_iff_eq, and_assoc,
    Option.some_inj]
  exact and_congr_right fun _ => and_congr_right fun _ => eq_comm

/-- Whether a file can be written does not depend on its text. -/
lemma store?_eq_none_of_store? (h : t.store? path text = none) (other : String) :
    t.store? path other = none := by
  cases hother : t.store? path other with
  | none => rfl
  | some t' =>
    obtain ⟨place, hplace, hat, hend, -⟩ := store?_eq_some_iff.mp hother
    rw [store?_eq_some_iff.mpr ⟨place, hplace, hat, hend, rfl⟩] at h
    contradiction

/-- A file that is written is the only one that a tree gains. -/
lemma gains_of_store? (h : t.store? path text = some t') :
    ∃ place, t.place? true path = some place ∧ t.Gains place text t' := by
  obtain ⟨place, hplace, -, -, rfl⟩ := store?_eq_some_iff.mp h
  exact ⟨place, hplace, t.gains_put place text⟩

/-- A file that a tree gains is found under the path that it was written to.

**Proof sketch.** The path is as possible as before and starts at the same place; and it leads to
the place of the file (`follow_of_gains`). -/
lemma entry?_of_gains (hgains : t.Gains place text t') (hplace : t.place? true path = some place)
    (hup : ".." ∉ Path.parts path) (hend : EndsInName (Path.parts path)) :
    t'.entry? path = some (.file text) := by
  have hagain : t'.place? false path = some place := by
    rw [place?] at hplace ⊢
    split_ifs at hplace ⊢ with himpossible habsolute
    · exact follow_of_gains hgains hup hend hplace
    · rw [hgains.workingDirectory_eq]
      exact follow_of_gains hgains hup hend hplace
  unfold entry?
  rw [hagain]
  exact hgains.at_place

/-- A file that is written is found again. -/
lemma entry?_of_store? (h : t.store? path text = some t') (hup : ".." ∉ Path.parts path) :
    t'.entry? path = some (.file text) := by
  obtain ⟨place, hplace, -, hend, rfl⟩ := store?_eq_some_iff.mp h
  exact entry?_of_gains (t.gains_put place text) hplace hup hend

/-- Where nothing is found, a file that is written replaces none.

**Proof sketch.** If there were a file at the place, then the tree would be one that gains it, and
the path would lead to it (`entry?_of_gains`). -/
lemma kept_of_store? (h : t.store? path text = some t') (hup : ".." ∉ Path.parts path)
    (hnone : t.entry? path = none) {other : List String} {s : String}
    (hfile : t.at? other = some (.file s)) : t'.at? other = some (.file s) := by
  obtain ⟨place, hplace, -, hend, rfl⟩ := store?_eq_some_iff.mp h
  have hne : other ≠ place := by
    rintro rfl
    rw [entry?_of_gains (gains_self hfile) hplace hup hend] at hnone
    contradiction
  exact ((t.gains_put place text).files_iff other s hne).mpr hfile

end FileTree

end Verdict
