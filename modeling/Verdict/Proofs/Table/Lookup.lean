import Mathlib.Data.List.Nodup
import Verdict.Table

/-!
# Looking keys up

What is found under a key of a table, and what storing in place does to the keys.

## Main results

* `Verdict.Table.get?_eq_some_iff` — where no key repeats, every entry is the one that is found.
* `Verdict.Table.nodup_ofMembers` — a table made of members in order does not repeat a key.
* `Verdict.Table.ofMembers_eq` — members that repeat no key are the table that is made of them.
-/

namespace Verdict

namespace Table

variable {α β : Type}

/-! ### Looking up -/

/-- Looking a key up after each value is replaced. -/
lemma get?_map (g : α → β) (t : Table α) (key : String) :
    get? (t.map fun entry => (entry.1, g entry.2)) key = (t.get? key).map g := by
  induction t with
  | nil => rfl
  | cons entry t ih =>
    rw [List.map_cons, get?, get?, ih]
    split_ifs <;> rfl

/-- Looking a key up in two tables, one after the other. -/
lemma get?_append (t t' : Table α) (key : String) :
    get? (t ++ t') key = (t.get? key).or (t'.get? key) := by
  induction t with
  | nil => rfl
  | cons entry t ih =>
    rw [List.cons_append, get?, get?, ih]
    split_ifs <;> rfl

/-- A key under which nothing is found is no key of the table. -/
lemma get?_eq_none_iff {t : Table α} {key : String} : t.get? key = none ↔ key ∉ t.keys := by
  induction t with
  | nil => simp [get?, keys]
  | cons entry t ih =>
    rw [get?, keys, List.map_cons, List.mem_cons, not_or, ← keys, ← ih]
    split_ifs with hkey
    · simp [hkey]
    · simp [Ne.symm hkey]

/-- What is found under a key is an entry.

**Proof sketch.** Induction on the table. What is found is the first entry or is found behind it. -/
lemma mem_of_get? {t : Table α} {key : String} {value : α} (h : t.get? key = some value) :
    (key, value) ∈ t := by
  induction t with
  | nil => contradiction
  | cons entry t ih =>
    rw [get?] at h
    split_ifs at h with hkey
    · cases h
      rw [← hkey]
      exact List.mem_cons_self
    · exact List.mem_cons_of_mem _ (ih h)

/-- Where no key repeats, every entry is the one that is found under its key.

**Proof sketch.** Induction on the table. An entry behind the first one has another key, as no key
repeats. -/
lemma get?_eq_some_iff {t : Table α} (ht : t.keys.Nodup) {key : String} {value : α} :
    t.get? key = some value ↔ (key, value) ∈ t := by
  refine ⟨mem_of_get?, fun h => ?_⟩
  induction t with
  | nil => simp at h
  | cons entry t ih =>
    obtain ⟨hnew, ht⟩ := List.nodup_cons.mp ht
    rw [get?]
    rcases List.mem_cons.mp h with rfl | h
    · simp
    · have hne : entry.1 ≠ key := by
        rintro rfl
        exact hnew (List.mem_map.mpr ⟨_, h, rfl⟩)
      rw [if_neg hne, ih ht h]

/-! ### Storing in place -/

/-- Storing adds its key and no other.

**Proof sketch.** Induction on the table. The key is that of the first entry, which stays, or is
stored behind it. -/
lemma mem_keys_put (t : Table α) (key : String) (value : α) (k : String) :
    k ∈ (t.put key value).keys ↔ k = key ∨ k ∈ t.keys := by
  induction t with
  | nil => simp [put, keys]
  | cons entry t ih =>
    rw [put]
    split_ifs with heq
    · simp [keys, heq]
    · simp only [keys, List.map_cons, List.mem_cons] at ih ⊢
      rw [ih]
      exact or_left_comm

/-- Storing does not make a key repeat.

**Proof sketch.** Induction on the table. A key that is stored already keeps its place; a new one
comes last, and storing adds no other key. -/
lemma nodup_put {t : Table α} (ht : t.keys.Nodup) (key : String) (value : α) :
    (t.put key value).keys.Nodup := by
  induction t with
  | nil => simp [put, keys]
  | cons entry t ih =>
    obtain ⟨hnew, ht⟩ := List.nodup_cons.mp ht
    rw [put]
    split_ifs with heq
    · subst heq
      exact List.nodup_cons.mpr ⟨hnew, ht⟩
    · refine List.nodup_cons.mpr ⟨fun hmem => ?_, ih ht⟩
      rcases (mem_keys_put t key value entry.1).mp hmem with hkey | hmem
      · exact heq hkey
      · exact hnew hmem

/-- What is found after storing.

**Proof sketch.** Induction on the table, by whether the first key is the one that is stored, and
whether it is the one that is looked up. -/
lemma get?_put (t : Table α) (key : String) (value : α) (k : String) :
    (t.put key value).get? k = if key = k then some value else t.get? k := by
  induction t with
  | nil => rfl
  | cons entry t ih =>
    rw [put]
    split_ifs with heq hk hk
    · rw [get?, if_pos hk]
    · rw [get?, if_neg hk, get?, if_neg (heq ▸ hk)]
    · rw [get?, if_neg (hk ▸ heq), ih, if_pos hk]
    · rw [get?, get?, ih, if_neg hk]

/-- Storing brings in its entry and no other.

**Proof sketch.** Induction on the table. The entry takes the place of the one with its key, or
comes last. -/
lemma mem_of_mem_put {t : Table α} {key : String} {value : α} {entry : String × α}
    (h : entry ∈ t.put key value) : entry = (key, value) ∨ entry ∈ t := by
  induction t with
  | nil => exact Or.inl (List.mem_singleton.mp h)
  | cons first t ih =>
    rw [put] at h
    split_ifs at h with heq
    · exact (List.mem_cons.mp h).imp_right (List.mem_cons_of_mem first)
    · rcases List.mem_cons.mp h with hfirst | h
      · exact Or.inr (hfirst ▸ List.mem_cons_self)
      · exact (ih h).imp_right (List.mem_cons_of_mem first)

/-- Storing one entry after the other brings in these entries and no other. -/
lemma mem_of_mem_foldl_put {t : Table α} {entries : List (String × α)} {entry : String × α}
    (h : entry ∈ entries.foldl (fun t entry => t.put entry.1 entry.2) t) :
    entry ∈ t ∨ entry ∈ entries := by
  induction entries generalizing t with
  | nil => exact Or.inl h
  | cons first entries ih =>
    rcases ih h with h | h
    · rcases mem_of_mem_put h with hfirst | h
      · exact Or.inr (hfirst ▸ List.mem_cons_self)
      · exact Or.inl h
    · exact Or.inr (List.mem_cons_of_mem first h)

/-- The entries of a table made of members are among these. -/
lemma mem_of_mem_ofMembers {entries : List (String × α)} {entry : String × α}
    (h : entry ∈ ofMembers entries) : entry ∈ entries :=
  (mem_of_mem_foldl_put h).resolve_left List.not_mem_nil

/-- A table made of members in order does not repeat a key. -/
lemma nodup_ofMembers (entries : List (String × α)) : (ofMembers entries).keys.Nodup := by
  have hfold (t : Table α) (ht : t.keys.Nodup) :
      (entries.foldl (fun t entry => t.put entry.1 entry.2) t).keys.Nodup := by
    induction entries generalizing t with
    | nil => exact ht
    | cons entry entries ih => exact ih _ (nodup_put ht entry.1 entry.2)
  exact hfold [] List.nodup_nil

/-- A new key comes last. -/
lemma put_eq_concat {t : Table α} {key : String} (h : key ∉ t.keys) (value : α) :
    t.put key value = t ++ [(key, value)] := by
  induction t with
  | nil => rfl
  | cons entry t ih =>
    obtain ⟨hne, hrest⟩ := not_or.mp (mt List.mem_cons.mpr h)
    rw [put, if_neg (Ne.symm hne), ih hrest, List.cons_append]

/-- Storing under a key of the table leaves the keys as they are. -/
lemma keys_put_of_mem {t : Table α} {key : String} (h : key ∈ t.keys) (value : α) :
    (t.put key value).keys = t.keys := by
  induction t with
  | nil => contradiction
  | cons entry t ih =>
    rw [put]
    split_ifs with heq
    · rw [keys, keys, List.map_cons, List.map_cons, heq]
    · have htail : key ∈ keys t := (List.mem_cons.mp h).resolve_left (Ne.symm heq)
      exact congrArg (entry.1 :: ·) (ih htail)

/-- Members with distinct keys make the table of just these entries, in their order.

**Proof sketch.** Induction on the members, with the table of those before them: each has a new key,
so it comes last. -/
lemma ofMembers_eq {entries : List (String × α)} (h : (keys entries).Nodup) :
    ofMembers entries = entries := by
  have hfold (t rest : Table α) (ht : (keys (t ++ rest)).Nodup) :
      rest.foldl (fun t entry => t.put entry.1 entry.2) t = t ++ rest := by
    induction rest generalizing t with
    | nil => rw [List.foldl_nil, List.append_nil]
    | cons entry rest ih =>
      have hnew : entry.1 ∉ t.keys := by
        intro hmem
        rw [keys, List.map_append, List.nodup_append] at ht
        exact ht.2.2 entry.1 hmem entry.1 List.mem_cons_self rfl
      rw [List.append_cons] at ht ⊢
      rw [List.foldl_cons, put_eq_concat hnew, ih _ ht]
  exact hfold [] entries h

end Table

end Verdict
