import Mathlib.Data.List.Induction
import Verdict.Proofs.Table.Lookup
import Verdict.Proofs.Table.Ordered

/-!
# The last value of each key

A table may be made of entries that repeat a key. Whether an entry is stored in place or in key
order, the last value of each key is the one that is found. Stored in place, the keys are in the
order in which they first came.

## Main definitions

* `Verdict.Table.LastWins` — a table lists each key of some entries once, with its last value.

## Main results

* `Verdict.Table.LastWins.put` — storing one more entry.
* `Verdict.Table.lastWins_ofMembers` — a table made of members in order.
* `Verdict.Table.get?_ofList` — what is found in a table in key order.
-/

namespace Verdict

namespace Table

variable {α : Type}

/-- A table lists each key of some entries once, in the order in which the keys first come, with the
last of its values. -/
structure LastWins (entries : List (String × α)) (t : Table α) : Prop where
  nodup : t.keys.Nodup
  keys_eq : t.keys = (keys entries).eraseDups
  get?_eq : ∀ key, t.get? key = get? entries.reverse key

/-- Nothing is stored of no entries. -/
lemma lastWins_nil : LastWins ([] : List (String × α)) [] :=
  ⟨List.nodup_nil, rfl, fun _ => rfl⟩

/-- One more entry is stored: its value is now the last one of its key.

**Proof sketch.** If the key has been stored before, then it keeps its place, and is a repetition
among the keys of the entries. If not, then it comes last in both. -/
lemma LastWins.put {entries : List (String × α)} {t : Table α} (h : LastWins entries t)
    (key : String) (value : α) : LastWins (entries ++ [(key, value)]) (t.put key value) := by
  refine ⟨nodup_put h.nodup key value, ?_, fun k => ?_⟩
  · have hkeys : keys (entries ++ [(key, value)]) = keys entries ++ [key] := List.map_append
    have hmem : key ∈ t.keys ↔ key ∈ keys entries := by rw [h.keys_eq, List.mem_eraseDups]
    rw [hkeys, List.eraseDups_append, ← h.keys_eq]
    by_cases hkey : key ∈ t.keys
    · have hrest : [key].removeAll (keys entries) = [] := by simp [List.removeAll, hmem.mp hkey]
      rw [keys_put_of_mem hkey, hrest, List.eraseDups_nil, List.append_nil]
    · have hrest : [key].removeAll (keys entries) = [key] := by
        simp [List.removeAll, mt hmem.mpr hkey]
      rw [put_eq_concat hkey, hrest, keys, List.map_append]
      rfl
  · rw [get?_put, h.get?_eq, List.reverse_append, List.reverse_singleton, List.singleton_append,
      get?]

/-- In a table made of members in order, the last value of each key counts.

**Proof sketch.** Induction from the end of the list: the last entry is stored last. -/
lemma lastWins_ofMembers (entries : List (String × α)) : LastWins entries (ofMembers entries) := by
  induction entries using List.reverseRecOn with
  | nil => exact lastWins_nil
  | append_singleton entries entry ih =>
    rw [ofMembers, List.foldl_append]
    exact ih.put entry.1 entry.2

/-- The entries of such a table are among those that it is made of. -/
lemma LastWins.mem {entries : List (String × α)} {t : Table α} (h : LastWins entries t)
    {entry : String × α} (hentry : entry ∈ t) : entry ∈ entries := by
  have hfound := (get?_eq_some_iff h.nodup).mpr hentry
  rw [h.get?_eq] at hfound
  exact List.mem_reverse.mp (mem_of_get? hfound)

/-- In a table in key order, the last value of each key counts.

**Proof sketch.** Induction from the end of the list: the last entry is inserted last, and so is the
one that is found under its key. -/
lemma get?_ofList (entries : List (String × α)) (key : String) :
    (ofList entries).get? key = get? entries.reverse key := by
  induction entries using List.reverseRecOn with
  | nil => rfl
  | append_singleton entries entry ih =>
    rw [ofList, List.foldl_append, List.foldl_cons, List.foldl_nil, get?_insert, ← ofList, ih,
      List.reverse_append, List.reverse_singleton, List.singleton_append, get?]

end Table

end Verdict
