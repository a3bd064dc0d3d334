import Verdict.Proofs.Rule.Binding
import Verdict.Proofs.Rule.Escape
import Verdict.Rule.Builtin
import Verdict.Value.Basic

/-!
# Rule strings as a code for clauses

Which lists of clauses can be written as a rule string, and one way to write them. Since escapes are
read off the raw text, are undone before the equality sign is looked for, and blanks are taken away
last, not every name and parameter can be written: a comma that is itself after an odd run of
backslashes cannot, and neither can an equality sign in a name that would separate.

## Main definitions

* `Verdict.Clause.Readable` — a name and a parameter that are read from some text.
* `Verdict.Clause.encode`, `Verdict.Clause.encodeAll` — clauses as text.
* `Verdict.Registry.Expressible` — a clause that a rule string can bind.

## Main results

* `Verdict.Clause.exists_split_iff`, `split_encodeAll` — the lists of clauses of rule strings are
  the lists of readable clauses.
* `Verdict.Registry.parseTags_codec` — the lists of clauses that a rule string can bind.
-/

namespace Verdict

namespace Clause

/-- A name and a parameter that are read from some text: there are no blanks around them, commas are
after even runs of backslashes, and equality signs in the name are after odd ones. -/
structure Readable (clause : String × String) : Prop where
  trim_name : Text.trim clause.1.toList = clause.1.toList
  trim_param : Text.trim clause.2.toList = clause.2.toList
  equals_name : EachAfter '=' Odd clause.1.toList
  commas_name : EachAfter ',' Even clause.1.toList
  commas_param : EachAfter ',' Even clause.2.toList

/-- The conditions on a readable clause. -/
lemma readable_iff {clause : String × String} : Readable clause ↔
    Text.trim clause.1.toList = clause.1.toList ∧ Text.trim clause.2.toList = clause.2.toList ∧
      EachAfter '=' Odd clause.1.toList ∧ EachAfter ',' Even clause.1.toList ∧
        EachAfter ',' Even clause.2.toList :=
  ⟨fun h => ⟨h.1, h.2, h.3, h.4, h.5⟩, fun h => ⟨h.1, h.2.1, h.2.2.1, h.2.2.2.1, h.2.2.2.2⟩⟩

instance (clause : String × String) : Decidable (Readable clause) :=
  decidable_of_iff _ readable_iff.symm

/-- A clause as text: its name, a blank, an equality sign, its parameter and a blank, with one more
backslash in front of the commas of both. -/
def encode (clause : String × String) : List Char :=
  escapeCommas clause.1.toList ++ [' ', '='] ++ escapeCommas clause.2.toList ++ [' ']

/-- Clauses as a rule string. -/
def encodeAll (clauses : List (String × String)) : String :=
  String.ofList ([','].intercalate (clauses.map encode))

/-! ### What is read from a text -/

/-- What is read from a text: once the escaping backslashes are gone, it is cut at the first
equality sign that separates, and both parts are trimmed. -/
lemma read_eq (part : List Char) :
    let cs := unescapeCommas part
    let parts := (cutUnescaped '=' cs).getD (cs, [])
    read part = (String.ofList (Text.trim parts.1), String.ofList (Text.trim parts.2)) := rfl

/-- Trimmed texts are readable if they are flagged before they are trimmed.

**Proof sketch.** Trimming twice is trimming once, and it does not change a run of backslashes. -/
lemma readable_trim {name param : List Char} (hequals : Flagged '=' true false name)
    (hname : Flagged ',' false false name) (hparam : Flagged ',' false false param) :
    Readable (String.ofList (Text.trim name), String.ofList (Text.trim param)) where
  trim_name := by rw [String.toList_ofList, Text.trim_trim]
  trim_param := by rw [String.toList_ofList, Text.trim_trim]
  equals_name := by
    rw [String.toList_ofList]
    exact flagged_iff_eachAfter_odd.mp hequals.trim
  commas_name := by
    rw [String.toList_ofList]
    exact flagged_iff_eachAfter_even.mp hname.trim
  commas_param := by
    rw [String.toList_ofList]
    exact flagged_iff_eachAfter_even.mp hparam.trim

/-- What is read from a text without a separating comma is readable.

**Proof sketch.** Once a backslash is taken from each comma, all commas are after even runs. If the
text is cut at an equality sign, the part behind it starts a run anew, so this holds for both parts,
and in front of the sign all other equality signs are escaped. Trimming changes no run. -/
lemma readable_read {part : List Char} (h : Flagged ',' true false part) :
    Readable (read part) := by
  have hcommas : Flagged ',' false false (unescapeCommas part) :=
    h.unescapeCommas fun hodd => nomatch hodd
  rw [read_eq]
  cases hcut : cutUnescaped '=' (unescapeCommas part) with
  | none => exact readable_trim (flagged_of_cutFrom_none hcut) hcommas flagged_nil
  | some parts =>
    obtain ⟨hparts, hequals, -⟩ := flagged_of_cutFrom_some hcut
    rw [hparts, flagged_append, flagged_cons, oddAfter_of_ne (by decide)] at hcommas
    exact readable_trim hequals hcommas.1 hcommas.2.2

/-- The clauses of a rule string are readable. -/
lemma readable_split {raw : String} {clause : String × String} (h : clause ∈ split raw) :
    Readable clause := by
  rw [split] at h
  split_ifs at h
  · contradiction
  · obtain ⟨part, hpart, rfl⟩ := List.mem_map.mp h
    exact readable_read (flagged_splitUnescaped (by decide) hpart)

/-! ### What is written is read back -/

/-- The text of a clause is that of its name and its parameter with their blanks, with the commas of
the whole escaped. -/
lemma encode_eq (clause : String × String) : encode clause =
    escapeCommas ((clause.1.toList ++ [' ']) ++ '=' :: (clause.2.toList ++ [' '])) := by
  simp [encode, escapeCommas]

/-- A readable clause is read back from its text. -/
lemma read_encode {clause : String × String} (h : Readable clause) :
    read (encode clause) = clause := by
  have hequals : Flagged '=' true false (clause.1.toList ++ [' ']) :=
    (flagged_iff_eachAfter_odd.mpr h.equals_name).concat (by decide)
  have hend : oddFrom false (clause.1.toList ++ [' ']) = false := oddFrom_concat (by decide)
  rw [read_eq, encode_eq, unescapeCommas_escapeCommas, cutUnescaped, cutFrom_append hequals hend,
    Option.getD_some, Text.trim_concat (by decide), Text.trim_concat (by decide), h.trim_name,
    h.trim_param, String.ofList_toList, String.ofList_toList]

/-- The text of a readable clause has no separating comma and does not escape one behind it. -/
lemma flagged_encode {clause : String × String} (h : Readable clause) :
    Flagged ',' true false (encode clause) ∧ oddFrom false (encode clause) = false := by
  constructor
  · rw [encode_eq]
    apply Flagged.escapeCommas
    rw [flagged_append, flagged_cons, oddAfter_of_ne (by decide)]
    exact ⟨(flagged_iff_eachAfter_even.mpr h.commas_name).concat (by decide), by simp,
      (flagged_iff_eachAfter_even.mpr h.commas_param).concat (by decide)⟩
  · exact oddFrom_concat (by decide)

/-- Readable clauses are read back from their rule string.

**Proof sketch.** The texts of the clauses have no separating commas, and end in a blank, so that
the commas between them do separate. Each clause is read back from its own text (`read_encode`). -/
lemma split_encodeAll {clauses : List (String × String)}
    (h : ∀ clause ∈ clauses, Readable clause) : split (encodeAll clauses) = clauses := by
  cases clauses with
  | nil => rfl
  | cons clause clauses =>
    have hsplit : splitUnescaped ',' ([','].intercalate ((clause :: clauses).map encode)) =
        (clause :: clauses).map encode := by
      refine splitUnescaped_intercalate (by decide) (by simp) fun part hpart => ?_
      obtain ⟨c, hc, rfl⟩ := List.mem_map.mp hpart
      exact flagged_encode (h c hc)
    have hne : encodeAll (clause :: clauses) ≠ "" := by
      intro hempty
      rw [String.ofList_eq_empty_iff.mp hempty] at hsplit
      have := congrArg List.head? hsplit
      simp [splitUnescaped, splitFrom, encode] at this
    rw [split_of_ne_empty hne, encodeAll, String.toList_ofList, hsplit, List.map_map]
    exact List.map_congr_left (fun c hc => read_encode (h c hc)) |>.trans (List.map_id _)

/-- The lists of clauses of rule strings are the lists of readable clauses. -/
lemma exists_split_iff {clauses : List (String × String)} :
    (∃ raw, split raw = clauses) ↔ ∀ clause ∈ clauses, Readable clause := by
  constructor
  · rintro ⟨raw, rfl⟩ clause hclause
    exact readable_split hclause
  · exact fun h => ⟨encodeAll clauses, split_encodeAll h⟩

/-- A comma after two backslashes can be written in a parameter, and one after a single backslash
cannot. -/
example : Readable ("inList", "a\\\\,b") ∧ ¬Readable ("inList", "a\\,b") := by decide

end Clause

namespace Registry

variable {ρ : Type}

/-- A clause that a rule string can bind: it is readable, and its name is not empty and has a
rule. -/
structure Expressible (r : Registry ρ) (clause : String × String) : Prop
    extends Clause.Readable clause where
  name_ne_empty : clause.1 ≠ ""
  registered : r.contains clause.1 = true

/-- A clause is expressible if it is readable and its name is known. -/
lemma expressible_iff {r : Registry ρ} {clause : String × String} :
    r.Expressible clause ↔ Clause.Readable clause ∧ r.knows clause.1 = true := by
  rw [knows, Bool.and_eq_true, Bool.not_eq_true', ← Bool.not_eq_true, String.isEmpty_iff]
  exact ⟨fun h => ⟨h.toReadable, h.name_ne_empty, h.registered⟩, fun h => ⟨h.1, h.2.1, h.2.2⟩⟩

instance (r : Registry ρ) (clause : String × String) : Decidable (r.Expressible clause) :=
  decidable_of_iff _ expressible_iff.symm

/-- **Rule strings are a code for expressible clauses.** The lists of names and parameters that a
rule string can bind are the empty list and those of expressible clauses. Such clauses, written one
after the other, are bound in order, each to the rule of its name.

**Proof sketch.** The clauses that are read from rule strings are the readable ones
(`Clause.exists_split_iff`), and clauses can be bound just if their names are known
(`exists_bindAll_iff`). -/
theorem parseTags_codec (r : Registry ρ) (clauses : List (String × String)) :
    ((∃ raw tags, r.parseTags raw = .ok tags ∧ tags.map Tag.clause = clauses) ↔
        clauses = [] ∨ ∀ clause ∈ clauses, r.Expressible clause) ∧
      (clauses ≠ [] → (∀ clause ∈ clauses, r.Expressible clause) →
        ∃ tags, r.parseTags (Clause.encodeAll clauses) = .ok tags ∧
          tags.map Tag.clause = clauses ∧ ∀ tag ∈ tags, r.get? tag.name = some tag.rule) := by
  simp only [expressible_iff, forall_and, ← Clause.exists_split_iff]
  refine ⟨⟨?_, ?_⟩, ?_⟩
  · rintro ⟨raw, hbind⟩
    obtain ⟨hsplit, hknown⟩ := exists_bindAll_iff.mp hbind
    exact .inr ⟨⟨raw, hsplit⟩, hknown⟩
  · rintro (rfl | ⟨⟨raw, hsplit⟩, hknown⟩)
    · exact ⟨"", [], rfl, rfl⟩
    · exact ⟨raw, exists_bindAll_iff.mpr ⟨hsplit, hknown⟩⟩
  · rintro - ⟨hreadable, hknown⟩
    rw [parseTags, Clause.split_encodeAll (Clause.exists_split_iff.mp hreadable)]
    exact bindAll_of_knows hknown

/-- A comma in a parameter is written with a backslash and read back. -/
theorem parseTags_escaped_comma :
    let r : Registry Record := .builtins
    let clauses := [("inList", "a,b"), ("required", "")]
    (∀ clause ∈ clauses, r.Expressible clause) ∧
      ∃ tags, r.parseTags "inList =a\\,b ,required = " = .ok tags ∧
        tags.map Tag.clause = clauses := by
  intro r clauses
  have hclauses : ∀ clause ∈ clauses, r.Expressible clause := by decide +kernel
  obtain ⟨tags, hparse, hmap, -⟩ := (parseTags_codec r clauses).2 (List.cons_ne_nil _ _) hclauses
  exact ⟨hclauses, tags, hparse, hmap⟩

end Registry

end Verdict
