import Mathlib.Data.String.Basic
import Verdict.Table

/-!
# Tables in key order

A table built by insertion lists its keys in ascending order, each once, and keeps the entries it
was built from.

## Main definitions

* `Verdict.Table.Ordered` — the keys ascend.

## Main results

* `Verdict.Table.ordered_ofList` — a table made of a list of entries is in key order.
* `Verdict.Table.ofList_perm` — if no key repeats, it has just the entries of the list.
* `Verdict.Table.Ordered.ofList_eq` — a table in key order is the table of its entries.
-/

namespace Verdict

namespace Table

variable {α : Type}

/-- The keys ascend; so none repeats. -/
def Ordered (t : Table α) : Prop := t.keys.Pairwise (· < ·)

instance (t : Table α) : Decidable t.Ordered :=
  inferInstanceAs (Decidable (t.keys.Pairwise (· < ·)))

/-- Keys ascend if the first one is below all others, and these ascend. -/
lemma ordered_cons {entry : String × α} {t : Table α} :
    Ordered (entry :: t) ↔ (∀ k ∈ t.keys, entry.1 < k) ∧ Ordered t := by
  simp [Ordered, keys]

/-- Insertion adds its key and no other.

**Proof sketch.** Induction on the table, by where the key is inserted. -/
lemma mem_keys_insert (t : Table α) (key : String) (value : α) (k : String) :
    k ∈ (t.insert key value).keys ↔ k = key ∨ k ∈ t.keys := by
  induction t with
  | nil => simp [insert, keys]
  | cons entry t ih =>
    rw [insert]
    split_ifs with heq hlt
    · simp [keys, heq]
    · simp [keys]
    · simp only [keys, List.map_cons, List.mem_cons] at ih ⊢
      rw [ih]
      exact or_left_comm

/-- What is found after an insertion.

**Proof sketch.** Induction on the table, by whether the first key is the one that is inserted, and
whether it is the one that is looked up. -/
lemma get?_insert (t : Table α) (key : String) (value : α) (k : String) :
    (t.insert key value).get? k = if key = k then some value else t.get? k := by
  induction t with
  | nil => rfl
  | cons entry t ih =>
    rw [insert]
    split_ifs with heq hk hlt hk hk
    · rw [get?, if_pos hk]
    · rw [get?, if_neg hk, get?, if_neg (heq ▸ hk)]
    · rw [get?, if_pos hk]
    · rw [get?, get?, if_neg hk]
    · rw [get?, if_neg (hk ▸ heq), ih, if_pos hk]
    · rw [get?, get?, ih, if_neg hk]

/-- Insertion keeps the keys in order.

**Proof sketch.** Induction on the table, along the search for the key. It replaces its entry, or
comes in front of a greater key, or behind a smaller one, below which no other key is. -/
lemma Ordered.insert {t : Table α} (h : t.Ordered) (key : String) (value : α) :
    (t.insert key value).Ordered := by
  induction t with
  | nil => simp [Table.insert, Ordered, keys]
  | cons entry t ih =>
    obtain ⟨hfirst, hrest⟩ := ordered_cons.mp h
    rw [Table.insert]
    split_ifs with heq hlt
    · subst heq
      exact ordered_cons.mpr ⟨hfirst, hrest⟩
    · refine ordered_cons.mpr ⟨fun k hk => ?_, h⟩
      rcases List.mem_cons.mp hk with rfl | hk
      · exact hlt
      · exact lt_trans hlt (hfirst k hk)
    · refine ordered_cons.mpr ⟨fun k hk => ?_, ih hrest⟩
      rcases (mem_keys_insert t key value k).mp hk with rfl | hk
      · exact lt_of_le_of_ne (not_lt.mp hlt) heq
      · exact hfirst k hk

/-- Insertion of a new key adds one entry. -/
lemma insert_perm {t : Table α} {key : String} (value : α) (h : key ∉ t.keys) :
    (t.insert key value).Perm ((key, value) :: t) := by
  induction t with
  | nil => exact List.Perm.refl _
  | cons entry t ih =>
    simp only [keys, List.map_cons, List.mem_cons, not_or] at h
    rw [insert, if_neg (Ne.symm h.1)]
    split_ifs with hlt
    · exact List.Perm.refl _
    · exact ((ih h.2).cons _).trans (List.Perm.swap _ _ _)

/-- Inserting entries one after the other keeps the keys in order. -/
lemma Ordered.foldl_insert {t : Table α} (h : t.Ordered) (entries : List (String × α)) :
    (entries.foldl (fun t entry => t.insert entry.1 entry.2) t).Ordered := by
  induction entries generalizing t with
  | nil => exact h
  | cons entry entries ih => exact ih (h.insert entry.1 entry.2)

/-- A table made of a list of entries is in key order. -/
lemma ordered_ofList (entries : List (String × α)) : (ofList entries).Ordered :=
  Ordered.foldl_insert (by simp [Ordered, keys]) entries

/-- Entries with new and distinct keys are all added.

**Proof sketch.** Induction on the entries. The first one is new, so it adds one entry, and then the
others are new, too. -/
lemma foldl_insert_perm (entries : List (String × α)) (t : Table α)
    (h : (t.keys ++ entries.map (·.1)).Nodup) :
    (entries.foldl (fun t entry => t.insert entry.1 entry.2) t).Perm (t ++ entries) := by
  induction entries generalizing t with
  | nil => simp
  | cons entry entries ih =>
    rw [List.map_cons, List.perm_middle.nodup_iff] at h
    have hnew : entry.1 ∉ t.keys := fun hmem =>
      (List.nodup_cons.mp h).1 (List.mem_append_left _ hmem)
    have hperm := insert_perm entry.2 hnew
    have hkeys : ((t.insert entry.1 entry.2).keys ++ entries.map (·.1)).Nodup :=
      ((hperm.map (·.1)).append_right _).nodup_iff.mpr h
    have hrest := (ih _ hkeys).trans (hperm.append_right entries)
    exact hrest.trans List.perm_middle.symm

/-- If no key repeats, a table has just the entries of the list it was made of. -/
lemma ofList_perm {entries : List (String × α)} (h : (entries.map (·.1)).Nodup) :
    (ofList entries).Perm entries :=
  foldl_insert_perm entries [] (by simpa [keys] using h)

/-- A table in key order is the table of its entries.

**Proof sketch.** The table made of the entries has just these entries, and both are in key order; a
list in strict order is determined by its members. -/
lemma Ordered.ofList_eq {t : Table α} (h : t.Ordered) : ofList t = t := by
  have hnodup : (t.map (·.1)).Nodup := h.imp ne_of_lt
  have hpairs {t : Table α} (h : t.Ordered) : t.Pairwise fun a b => a.1 < b.1 :=
    List.pairwise_map.mp h
  exact (ofList_perm hnodup).eq_of_pairwise (fun a b _ _ hab hba => absurd hab (lt_asymm hba))
    (hpairs (ordered_ofList t)) (hpairs h)

end Table

end Verdict
