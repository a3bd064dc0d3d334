import Mathlib.Data.List.Nodup
import Verdict.Errors.Basic

/-!
# Plain lists of errors

Errors by path without an index: an ordered list in which the first entry of each path counts. It
is what `Verdict.Errors` is compared with.

## Main definitions

* `Verdict.Entries` — a list of paths with their errors.
* `Verdict.Entries.add`, `Verdict.Entries.remove`, `Verdict.Entries.extend`,
  `Verdict.Entries.appendScoped` — the operations of `Verdict.Errors`, said on lists.

## Main results

* `Verdict.Entries.get?_eq_some` — where paths do not repeat, every entry is the one that is found.
* `Verdict.Entries.filter_ne_eq_eraseIdx` — taking a path out takes out one position.
-/

namespace Verdict

/-- Paths with their errors, in order. -/
abbrev Entries := List (String × FieldError)

namespace Entries

/-- The paths in order. -/
def paths (l : Entries) : List String := l.map (·.1)

/-- The error of a path. -/
def get? (l : Entries) (path : String) : Option FieldError :=
  (l.find? fun entry => entry.1 = path).map (·.2)

/-- Put an error at the end, if its path is neither empty nor taken; the flag tells whether it was
put there. -/
def add (l : Entries) (path : String) (error : FieldError) : Bool × Entries :=
  if path = "" ∨ path ∈ l.paths then (false, l) else (true, l ++ [(path, error)])

/-- Take the error of a path out; the others keep their order. -/
def remove (l : Entries) (path : String) : Option FieldError × Entries :=
  (l.get? path, l.filter fun entry => entry.1 ≠ path)

/-- Add errors in order. -/
def extend (l items : Entries) : Entries :=
  items.foldl (fun l item => (l.add item.1 item.2).2) l

/-- Paths moved behind another path and a dot. -/
def under (scope : String) (l : Entries) : Entries :=
  l.map fun entry => (scope ++ "." ++ entry.1, entry.2)

/-- Add the errors of a part, in order, each path behind the path of the part and a dot. -/
def appendScoped (l : Entries) (scope : String) (child : Entries) : Entries :=
  l.extend (child.under scope)

variable {l items : Entries} {path : String} {error : FieldError}

/-- No entry has no path. -/
@[simp]
lemma paths_nil : paths [] = [] := rfl

/-- The path of the first entry comes first. -/
@[simp]
lemma paths_cons (entry : String × FieldError) (l : Entries) :
    paths (entry :: l) = entry.1 :: paths l := rfl

/-- The paths of two lists follow each other. -/
@[simp]
lemma paths_append (l items : Entries) : paths (l ++ items) = paths l ++ paths items :=
  List.map_append

/-! ### Looking up -/

/-- The first entry decides if it is at the path. -/
lemma get?_cons (entry : String × FieldError) (l : Entries) (path : String) :
    get? (entry :: l) path = if entry.1 = path then some entry.2 else get? l path := by
  by_cases h : entry.1 = path <;> simp [get?, h]

/-- A path that is not there has no error. -/
lemma get?_eq_none (h : path ∉ l.paths) : l.get? path = none := by
  induction l with
  | nil => rfl
  | cons entry l ih =>
    simp only [paths_cons, List.mem_cons, not_or] at h
    rw [get?_cons, if_neg (Ne.symm h.1), ih h.2]

/-- Where paths do not repeat, every entry is the one that is found.

**Proof sketch.** Induction on the list. If the entry is not the first one, then the first one has
another path, as paths do not repeat. -/
lemma get?_eq_some (hl : l.paths.Nodup) (h : (path, error) ∈ l) : l.get? path = some error := by
  induction l with
  | nil => simp at h
  | cons entry l ih =>
    simp only [paths_cons, List.nodup_cons] at hl
    rw [get?_cons]
    rcases List.mem_cons.mp h with rfl | h
    · simp
    · have hne : entry.1 ≠ path := by
        rintro heq
        exact hl.1 (heq ▸ List.mem_map.mpr ⟨_, h, rfl⟩)
      rw [if_neg hne, ih hl.2 h]

/-- A path is there if and only if it has an error. -/
lemma mem_paths_iff : path ∈ l.paths ↔ (l.get? path).isSome = true := by
  induction l with
  | nil => simp [get?]
  | cons entry l ih =>
    rw [get?_cons, paths_cons, List.mem_cons, ih]
    split_ifs with hentry
    · simp [hentry]
    · simp [Ne.symm hentry]

/-- In two lists after each other, the first one that has the path decides. -/
lemma get?_append (l items : Entries) (path : String) :
    get? (l ++ items) path = (l.get? path).or (items.get? path) := by
  induction l with
  | nil => rfl
  | cons entry l ih =>
    rw [List.cons_append, get?_cons, get?_cons]
    split_ifs
    · rfl
    · exact ih

/-! ### Taking out -/

/-- Where paths do not repeat, taking out all entries of a path takes out the one at its
position.

**Proof sketch.** Induction on the list. At position zero the path is that of the first entry, and
no other entry has it, so only this one is taken out. At a later position the first entry has
another path, and stays. -/
lemma filter_ne_eq_eraseIdx (hl : l.paths.Nodup) {i : Nat} (hi : l.paths[i]? = some path) :
    (l.filter fun entry => entry.1 ≠ path) = l.eraseIdx i := by
  induction l generalizing i with
  | nil => simp at hi
  | cons entry l ih =>
    simp only [paths_cons, List.nodup_cons] at hl hi
    cases i with
    | zero =>
      obtain rfl : entry.1 = path := by simpa using hi
      rw [List.eraseIdx_cons_zero, List.filter_cons_of_neg (by simp), List.filter_eq_self]
      intro other hother
      have : other.1 ≠ entry.1 := fun heq => hl.1 (List.mem_map.mpr ⟨other, hother, heq⟩)
      simpa using this
    | succ i =>
      rw [List.getElem?_cons_succ] at hi
      have hne : entry.1 ≠ path := by
        rintro rfl
        exact hl.1 (List.mem_of_getElem? hi)
      rw [List.eraseIdx_cons_succ, List.filter_cons_of_pos (by simpa using hne), ih hl.2 hi]

/-- A path that is not there takes nothing out. -/
lemma filter_ne_eq_self (h : path ∉ l.paths) : (l.filter fun entry => entry.1 ≠ path) = l := by
  rw [List.filter_eq_self]
  intro entry hentry
  have : entry.1 ≠ path := fun heq => h (List.mem_map.mpr ⟨entry, hentry, heq⟩)
  simpa using this

/-! ### Adding many -/

/-- Adding nothing changes nothing. -/
@[simp]
lemma extend_nil (l : Entries) : l.extend [] = l := rfl

/-- Entries are added one by one. -/
lemma extend_cons (l : Entries) (item : String × FieldError) (items : Entries) :
    l.extend (item :: items) = (l.add item.1 item.2).2.extend items := rfl

/-- Nothing is lost by adding. -/
lemma prefix_add (l : Entries) (path : String) (error : FieldError) :
    l <+: (l.add path error).2 := by
  rw [add]
  split_ifs
  · exact List.prefix_rfl
  · exact List.prefix_append _ _

/-- Nothing is lost by adding many. -/
lemma prefix_extend (l items : Entries) : l <+: l.extend items := by
  induction items generalizing l with
  | nil => exact List.prefix_rfl
  | cons item items ih => exact (l.prefix_add item.1 item.2).trans (ih _)

/-- An entry at the empty path or at one that is taken is not put in. -/
lemma snd_add_of_taken (h : path = "" ∨ path ∈ l.paths) : (l.add path error).2 = l := by
  rw [add, if_pos h]

/-- An entry at another path is put at the end. -/
lemma snd_add_of_free (h : ¬(path = "" ∨ path ∈ l.paths)) :
    (l.add path error).2 = l ++ [(path, error)] := by
  rw [add, if_neg h]

/-- After adding, a path has its error in the list, or else the first one that was added.

**Proof sketch.** Induction on what is added. An entry that is not added has a path with an error in
the list already, so it does not matter. One that is added is behind the list, and is found if the
list has no error at the path. -/
lemma get?_extend (l items : Entries) (hpath : path ≠ "") :
    (l.extend items).get? path = (l.get? path).or (items.get? path) := by
  induction items generalizing l with
  | nil => simp [get?]
  | cons item items ih =>
    rw [extend_cons, ih, get?_cons]
    by_cases htaken : item.1 = "" ∨ item.1 ∈ l.paths
    · rw [snd_add_of_taken htaken]
      split_ifs with hitem
      · subst hitem
        obtain ⟨error, herror⟩ := Option.isSome_iff_exists.mp
          (mem_paths_iff.mp (htaken.resolve_left hpath))
        rw [herror]
        rfl
      · rfl
    · rw [snd_add_of_free htaken, get?_append, get?_cons, Option.or_assoc]
      split_ifs <;> rfl

/-- What is added to a list follows it, less what is at paths of the list.

**Proof sketch.** Induction on what is added, with what is kept of it so far as the accumulator. An
entry whose path is in the list is kept in the accumulator, but does not pass the filter. -/
lemma extend_append_filter (l kept items : Entries) :
    (l ++ kept.filter fun entry => entry.1 ∉ l.paths).extend items =
      l ++ (kept.extend items).filter fun entry => entry.1 ∉ l.paths := by
  induction items generalizing kept with
  | nil => rfl
  | cons item items ih =>
    rw [extend_cons, extend_cons, ← ih]
    congr 1
    have hpaths : item.1 ∈ paths (l ++ kept.filter fun entry => entry.1 ∉ l.paths) ↔
        item.1 ∈ l.paths ∨ item.1 ∈ kept.paths := by
      simp only [paths, List.map_append, List.mem_append, List.mem_map, List.mem_filter]
      grind
    -- the path of the item is known to what is kept, or to `l` only, or to neither
    by_cases hkept : item.1 = "" ∨ item.1 ∈ kept.paths
    · have htaken : item.1 = "" ∨
          item.1 ∈ paths (l ++ kept.filter fun entry => entry.1 ∉ l.paths) := by
        rw [hpaths]
        exact hkept.imp_right Or.inr
      rw [snd_add_of_taken hkept, snd_add_of_taken htaken]
    · rw [snd_add_of_free hkept, List.filter_append, ← List.append_assoc]
      by_cases hl : item.1 ∈ l.paths
      · rw [snd_add_of_taken (Or.inr (hpaths.mpr (Or.inl hl))),
          List.filter_cons_of_neg (by simp [hl])]
        simp
      · have hfree : ¬(item.1 = "" ∨
            item.1 ∈ paths (l ++ kept.filter fun entry => entry.1 ∉ l.paths)) := by
          rw [hpaths]
          tauto
        rw [snd_add_of_free hfree, List.filter_cons_of_pos (by simp [hl])]
        rfl

/-- What is added to a list follows it. -/
lemma extend_eq_append (l items : Entries) :
    l.extend items = l ++ (extend [] items).filter fun entry => entry.1 ∉ l.paths := by
  rw [← extend_append_filter l [] items, List.filter_nil, List.append_nil]

/-- There is nothing after adding only if there was nothing and nothing with a path was added.

**Proof sketch.** As nothing is lost by adding, the list is empty from the start. The first entry,
if there is one, would be put in, because its path is not empty. -/
lemma extend_eq_nil_iff (hitems : "" ∉ items.paths) :
    l.extend items = [] ↔ l = [] ∧ items = [] := by
  constructor
  · intro h
    have hl : l = [] := List.prefix_nil.mp (h ▸ l.prefix_extend items)
    refine ⟨hl, ?_⟩
    cases items with
    | nil => rfl
    | cons item items =>
      rw [paths_cons, List.mem_cons, not_or] at hitems
      have hadd : (l.add item.1 item.2).2 = [(item.1, item.2)] := by
        rw [hl, add, if_neg (by simpa using Ne.symm hitems.1)]
        rfl
      have hprefix := prefix_extend (l.add item.1 item.2).2 items
      rw [← extend_cons, h, hadd] at hprefix
      exact absurd (List.prefix_nil.mp hprefix) (by simp)
  · rintro ⟨rfl, rfl⟩
    rfl

end Entries

end Verdict
