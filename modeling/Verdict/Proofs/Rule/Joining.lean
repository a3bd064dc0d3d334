import Verdict.Proofs.Rule.Binding
import Verdict.Proofs.Rule.Escape
import Verdict.Rule.Builtin
import Verdict.Value.Basic

/-!
# Joining rule strings

Two rule strings with a comma between them are read one after the other, unless the first one ends
in an odd run of backslashes. Such a run escapes the comma, and the clauses on both sides of it are
one clause.

## Main results

* `Verdict.Clause.split_join` — the clauses of a joined rule string.
* `Verdict.Registry.parseTags_join` — a joined rule string is bound like its two parts, first the
  one in front.
-/

namespace Verdict

namespace Clause

/-- The characters of two texts with a comma between them. -/
lemma toList_join (a b : String) : (a ++ "," ++ b).toList = a.toList ++ ',' :: b.toList := by
  rw [String.toList_append, String.toList_append, List.append_assoc]
  rfl

/-- A joined rule string has the clauses of its parts, in order.

**Proof sketch.** The comma comes after an even run of backslashes and separates. -/
lemma split_join {a b : String} (ha : a ≠ "") (hb : b ≠ "")
    (hend : ¬Odd (backslashes a.toList)) : split (a ++ "," ++ b) = split a ++ split b := by
  have hjoin : a ++ "," ++ b ≠ "" := by
    intro h
    have := congrArg String.toList h
    simp at this
  rw [← oddFrom_false_iff, Bool.not_eq_true] at hend
  rw [split_of_ne_empty ha, split_of_ne_empty hb, split_of_ne_empty hjoin, toList_join,
    splitUnescaped, splitFrom_append_separator hend (by decide), List.map_append]
  rfl

end Clause

namespace Registry

variable {ρ : Type}

/-- **Joining rule strings.** Two rule strings that are not empty are joined by a comma. If the
first one does not end in an odd run of backslashes, the joined string is bound like the two one
after the other, and an error in the first comes before one in the second. Otherwise the last part
of the first and the first part of the second are one part, with the comma in it.

**Proof sketch.** After an even run the clauses are those of both strings (`Clause.split_join`), and
clauses are bound one after the other (`bindAll_append`). After an odd one the comma does not
separate, so the parts on both sides of it are one. -/
theorem parseTags_join (r : Registry ρ) {a b : String} (ha : a ≠ "") (hb : b ≠ "") :
    (¬Odd (Clause.backslashes a.toList) →
      r.parseTags (a ++ "," ++ b) =
        match r.parseTags a with
        | .error e => .error e
        | .ok tags =>
          match r.parseTags b with
          | .error e => .error e
          | .ok more => .ok (tags ++ more)) ∧
    (Odd (Clause.backslashes a.toList) →
      ∃ before last first after,
        Clause.splitUnescaped ',' a.toList = before ++ [last] ∧
          Clause.splitUnescaped ',' b.toList = first :: after ∧
            Clause.splitUnescaped ',' (a ++ "," ++ b).toList =
              before ++ (last ++ ',' :: first) :: after) := by
  constructor
  · intro hend
    rw [parseTags, Clause.split_join ha hb hend, bindAll_append]
    rfl
  · intro hend
    rw [Clause.toList_join]
    exact Clause.exists_splitFrom_append_escaped (Clause.oddFrom_false_iff.mpr hend) (by decide)

/-- Two backslashes in front of the comma leave two clauses, a single one makes them one.

**Proof sketch.** The law is applied to both cases, and the clauses of the three short strings are
computed. -/
theorem parseTags_join_backslashes :
    let r : Registry Record := .builtins
    let (even, odd, next) := ("inList=a\\\\", "inList=a\\", "min=3")
    (even ≠ "" ∧ odd ≠ "" ∧ next ≠ "") ∧
      (¬Odd (Clause.backslashes even.toList) ∧
        ∃ tags, r.parseTags (even ++ "," ++ next) = .ok tags ∧
          tags.map Tag.clause = [("inList", "a\\\\"), ("min", "3")]) ∧
      Odd (Clause.backslashes odd.toList) ∧
        Clause.splitUnescaped ',' (odd ++ "," ++ next).toList = ["inList=a\\,min=3".toList] := by
  intro r
  have hne : "inList=a\\\\" ≠ "" ∧ "inList=a\\" ≠ "" ∧ "min=3" ≠ "" := by decide
  have heven : ¬Odd (Clause.backslashes "inList=a\\\\".toList) := by decide +kernel
  have hodd : Odd (Clause.backslashes "inList=a\\".toList) := by decide +kernel
  refine ⟨hne, ⟨heven, ?_⟩, hodd, ?_⟩
  · have hjoin := (parseTags_join r hne.1 hne.2.2).1 heven
    obtain ⟨tags, htags, hclauses⟩ : ∃ tags, r.parseTags "inList=a\\\\" = .ok tags ∧
        tags.map Tag.clause = [("inList", "a\\\\")] := exists_bindAll_iff.mpr (by decide +kernel)
    obtain ⟨more, hmore, hnext⟩ : ∃ tags, r.parseTags "min=3" = .ok tags ∧
        tags.map Tag.clause = [("min", "3")] := exists_bindAll_iff.mpr (by decide +kernel)
    rw [htags, hmore] at hjoin
    exact ⟨tags ++ more, hjoin, by rw [List.map_append, hclauses, hnext]; rfl⟩
  · obtain ⟨before, last, first, after, hfront, hback, hjoin⟩ :=
      (parseTags_join r hne.2.1 hne.2.2).2 hodd
    have hsingle : Clause.splitUnescaped ',' "inList=a\\".toList = [] ++ ["inList=a\\".toList] := by
      decide +kernel
    have hnext : Clause.splitUnescaped ',' "min=3".toList = ["min=3".toList] := by decide +kernel
    obtain ⟨rfl, hlast⟩ := List.append_inj' (hfront.symm.trans hsingle) rfl
    obtain ⟨rfl, rfl⟩ := List.cons.inj (hback.symm.trans hnext)
    rw [hjoin, List.singleton_inj.mp hlast]
    decide +kernel

end Registry

end Verdict
