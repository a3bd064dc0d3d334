import Verdict.Proofs.Rule.Binding
import Verdict.Proofs.Rule.Escape

/-!
# Reading rule strings in one pass

A rule string is split at its commas, each clause loses the backslashes that escape commas, and only
then the equality sign is looked for. Each of these passes has its own text to count backslashes in.
A scanner that goes once over the raw text, and counts there, binds the same tags and finds the same
error.

## Main definitions

* `Verdict.Scan` — what the scanner knows, `Verdict.Scan.step` — what it does with a character.
* `Verdict.Registry.scan` — the tags that it binds.

## Main results

* `Verdict.Scan.foldl_step_of_flagged` — within a clause, the scanner does with the raw text what it
  does with the text without the escaping backslashes when no comma counts.
* `Verdict.Scan.clause_foldl_copyOrSwitch` — the clause that is read in this way.
* `Verdict.Registry.parseTags_eq_scan` — the scanner agrees with reading in passes.

## Design

The state keeps what is copied in the order of the text, so that the character just copied is the
last one. A backslash is copied before anyone knows whether a comma comes next, and deleted again if
it does; taken together, the two steps copy the comma and nothing else.
-/

namespace Verdict

open Clause

variable {ρ : Type}

/-- What is known after some characters of a rule string: whether the run of backslashes just read
is odd, what is copied of the name of the clause, what is copied of its parameter if the equality
sign has been read, and the tags of the clauses before it or the error in them. -/
structure Scan (ρ : Type) where
  odd : Bool
  name : List Char
  param? : Option (List Char)
  tags : Except TagError (List (Tag ρ))

namespace Scan

/-- Nothing of a clause has been read. -/
def start (tags : Except TagError (List (Tag ρ))) : Scan ρ := ⟨false, [], none, tags⟩

/-- Copy a character to the name, or to the parameter behind the equality sign. -/
def copy (s : Scan ρ) (c : Char) : Scan ρ :=
  match s.param? with
  | none => { s with odd := oddAfter s.odd c, name := s.name ++ [c] }
  | some param => { s with odd := oddAfter s.odd c, param? := some (param ++ [c]) }

/-- Delete the character just copied. -/
def uncopy (s : Scan ρ) : Scan ρ :=
  match s.param? with
  | none => { s with name := s.name.dropLast }
  | some param => { s with param? := some param.dropLast }

/-- The name and the parameter that have been read, without the blanks around them. -/
def clause (s : Scan ρ) : String × String :=
  (String.ofList (Text.trim s.name), String.ofList (Text.trim (s.param?.getD [])))

/-- Add the tag of a clause. A name that is empty or has no rule is an error, unless there is one
already. -/
def push (r : Registry ρ) (clause : String × String) :
    Except TagError (List (Tag ρ)) → Except TagError (List (Tag ρ))
  | .error e => .error e
  | .ok tags =>
    match if clause.1 = "" then none else r.get? clause.1 with
    | some rule => .ok (tags ++ [⟨clause.1, clause.2, rule⟩])
    | none => .error (.unknownRule clause.1)

/-- End a clause and start the next one. -/
def endClause (r : Registry ρ) (s : Scan ρ) : Scan ρ := start (push r s.clause s.tags)

/-- Copy a character, or end the name if it is the first equality sign after an even run. -/
def copyOrSwitch (s : Scan ρ) (c : Char) : Scan ρ :=
  if c = '=' ∧ s.odd = false ∧ s.param? = none then { s with param? := some [] } else s.copy c

/-- Read a character. A comma after an even run of backslashes ends the clause, and after an odd run
it takes the place of the backslash just copied. -/
def step (r : Registry ρ) (s : Scan ρ) (c : Char) : Scan ρ :=
  if c = ',' then if s.odd then s.uncopy.copy ',' else s.endClause r else s.copyOrSwitch c

end Scan

/-- The tags of a rule string, read character by character; the empty string has none. -/
def Registry.scan (r : Registry ρ) (raw : String) : Except TagError (List (Tag ρ)) :=
  if raw = "" then .ok []
  else ((raw.toList.foldl (Scan.step r) (.start (.ok []))).endClause r).tags

namespace Scan

variable {r : Registry ρ} {s : Scan ρ} {c : Char} {cs : List Char}

/-! ### Within a clause -/

/-- A character that is copied ends the run or makes it longer. -/
lemma copy_odd (s : Scan ρ) (c : Char) : (s.copy c).odd = oddAfter s.odd c := by
  rw [copy]
  split <;> rfl

/-- Deleting what has just been copied leaves only the run changed. -/
lemma uncopy_copy (s : Scan ρ) (c : Char) :
    (s.copy c).uncopy = { s with odd := oddAfter s.odd c } := by
  obtain ⟨odd, name, _ | param, tags⟩ := s <;> simp [copy, uncopy]

/-- A character that is no comma is copied, or ends the name. -/
lemma step_of_ne (hc : c ≠ ',') (s : Scan ρ) : s.step r c = s.copyOrSwitch c := if_neg hc

/-- A comma after an even run ends the clause. -/
lemma step_comma_of_even (h : s.odd = false) : s.step r ',' = s.endClause r := by
  rw [step, if_pos rfl, h]
  rfl

/-- The equality sign resets the run, as every character but the backslash does. -/
lemma copyOrSwitch_odd (s : Scan ρ) (c : Char) : (s.copyOrSwitch c).odd = oddAfter s.odd c := by
  rw [copyOrSwitch]
  split_ifs with h
  · rw [h.1, oddAfter_of_ne (by decide)]
    exact h.2.1
  · exact copy_odd s c

/-- A backslash after an even run and a comma behind it copy the comma. -/
lemma step_escaped (h : s.odd = false) : (s.step r '\\').step r ',' = s.copyOrSwitch ',' := by
  have hbackslash : s.step r '\\' = s.copy '\\' := rfl
  have hodd : (s.copy '\\').odd = true := by rw [copy_odd, h]; rfl
  rw [hbackslash, step, if_pos rfl, if_pos hodd, uncopy_copy]
  obtain ⟨odd, name, _ | param, tags⟩ := s <;> rfl

/-- A text without a separating comma is read like the text that is left of it when the backslashes
that escape commas are taken away.

**Proof sketch.** Induction along the text, with a backslash and a comma behind it taken in one
step. The two copy the comma and nothing else (`step_escaped`), and all other characters are read
alike. -/
lemma foldl_step_of_flagged (h : Flagged ',' true s.odd cs)
    (hhead : s.odd = true → cs.head? ≠ some ',') :
    cs.foldl (step r) s = (unescapeCommas cs).foldl copyOrSwitch s := by
  refine Flagged.escaped_induction (motive := fun odd cs => ∀ s : Scan ρ, s.odd = odd →
    cs.foldl (step r) s = (unescapeCommas cs).foldl copyOrSwitch s) (fun _ _ _ => rfl) ?_ ?_
    h hhead s rfl
  · intro rest ih s hs
    rw [unescapeCommas, List.foldl_cons, List.foldl_cons, List.foldl_cons, step_escaped hs]
    exact ih _ (copyOrSwitch_odd s ',')
  · intro odd c rest hc hkept ih s hs
    rw [unescapeCommas_cons hkept, List.foldl_cons, List.foldl_cons, step_of_ne hc]
    exact ih _ (by rw [copyOrSwitch_odd, hs])

/-- Without an equality sign after an even run, all characters are copied to the name.

**Proof sketch.** Induction on the text. None of its characters is an equality sign after an even
run. -/
lemma foldl_copyOrSwitch_name (h : s.param? = none) (hcs : Flagged '=' true s.odd cs) :
    cs.foldl copyOrSwitch s = { s with odd := oddFrom s.odd cs, name := s.name ++ cs } := by
  induction cs generalizing s with
  | nil => simp
  | cons c cs ih =>
    have hcopy : s.copyOrSwitch c =
        { s with odd := oddAfter s.odd c, name := s.name ++ [c] } := by
      rw [copyOrSwitch, if_neg fun hswitch => not_separates_iff.mpr hcs.1 ⟨hswitch.1, hswitch.2.1⟩,
        copy, h]
    have hrest := ih (s := ⟨oddAfter s.odd c, s.name ++ [c], s.param?, s.tags⟩) h hcs.2
    rw [List.foldl_cons, hcopy, hrest, List.append_assoc]
    rfl

/-- Behind the equality sign all characters are copied to the parameter. -/
lemma foldl_copyOrSwitch_param {param : List Char} (h : s.param? = some param) :
    cs.foldl copyOrSwitch s = { s with odd := oddFrom s.odd cs, param? := some (param ++ cs) } := by
  induction cs generalizing s param with
  | nil => simp [← h]
  | cons c cs ih =>
    have hcopy : s.copyOrSwitch c =
        { s with odd := oddAfter s.odd c, param? := some (param ++ [c]) } := by
      rw [copyOrSwitch, if_neg (by simp [h]), copy, h]
    rw [List.foldl_cons, hcopy, ih rfl, List.append_assoc]
    rfl

/-- What is copied is the text in front of the first equality sign after an even run, and the text
behind it.

**Proof sketch.** The text is cut at that equality sign. In front of it all is copied to the name,
and the run there is even, so the sign ends the name; behind it all is copied to the parameter. -/
lemma clause_foldl_copyOrSwitch (tags : Except TagError (List (Tag ρ))) (cs : List Char) :
    let parts := (cutUnescaped '=' cs).getD (cs, [])
    (cs.foldl copyOrSwitch (start tags)).tags = tags ∧
      (cs.foldl copyOrSwitch (start tags)).clause =
        (String.ofList (Text.trim parts.1), String.ofList (Text.trim parts.2)) := by
  cases hcut : cutUnescaped '=' cs with
  | none =>
    have hcs : Flagged '=' true false cs := flagged_of_cutFrom_none hcut
    rw [foldl_copyOrSwitch_name (s := start tags) rfl hcs]
    exact ⟨rfl, rfl⟩
  | some parts =>
    obtain ⟨rfl, hfront, hend⟩ := flagged_of_cutFrom_some hcut
    have hswitch : parts.1.foldl copyOrSwitch (start tags) =
        { start tags with name := parts.1 } := by
      rw [foldl_copyOrSwitch_name (s := start tags) rfl hfront]
      exact congrArg (Scan.mk · _ _ _) hend
    rw [List.foldl_append, List.foldl_cons, hswitch, copyOrSwitch, if_pos ⟨rfl, rfl, rfl⟩,
      foldl_copyOrSwitch_param rfl]
    exact ⟨rfl, rfl⟩

/-! ### From clause to clause -/

/-- After each character the scanner knows whether the run is odd. -/
lemma step_odd (s : Scan ρ) (c : Char) : (s.step r c).odd = oddAfter s.odd c := by
  rw [step]
  split_ifs with hc hodd
  · rw [copy_odd, hc, oddAfter_of_ne (by decide), oddAfter_of_ne (by decide)]
  · rw [hc, oddAfter_of_ne (by decide)]
    rfl
  · exact copyOrSwitch_odd s c

/-- The scanner always knows whether the run just read is odd. -/
lemma foldl_step_odd (s : Scan ρ) (cs : List Char) :
    (cs.foldl (step r) s).odd = oddFrom s.odd cs := by
  induction cs generalizing s with
  | nil => rfl
  | cons c cs ih => rw [List.foldl_cons, ih, step_odd, oddFrom_cons]

/-- A part of a rule string is bound as the clause that is read from it. -/
lemma endClause_foldl_step (h : Flagged ',' true false cs)
    (tags : Except TagError (List (Tag ρ))) :
    (cs.foldl (step r) (start tags)).endClause r = start (push r (read cs) tags) := by
  have hread : cs.foldl (step r) (start tags) = _ :=
    foldl_step_of_flagged h fun hodd => nomatch hodd
  obtain ⟨htags, hclause⟩ := clause_foldl_copyOrSwitch tags (unescapeCommas cs)
  rw [hread, endClause, htags, hclause]
  rfl

/-- Clauses are bound one by one as they are bound all together. -/
lemma push_bindAll (r : Registry ρ) (clauses : List (String × String)) (clause : String × String) :
    push r clause (r.bindAll clauses) = r.bindAll (clauses ++ [clause]) := by
  rw [Registry.bindAll_append, Registry.bindAll, Registry.bind]
  cases r.bindAll clauses with
  | error e => rfl
  | ok tags =>
    by_cases hname : clause.1 = ""
    · rw [push, if_pos hname, if_pos (String.isEmpty_iff.mpr hname)]
    · rw [push, if_neg hname, if_neg (by rwa [String.isEmpty_iff])]
      cases r.get? clause.1 <;> rfl

/-- The clauses of a text are bound behind those that were read before it.

**Proof sketch.** Induction on the length of the text. If no comma separates, the text is the last
clause. Otherwise it is cut at the first comma that does; the run before it is even, so the scanner
ends the clause there and starts anew with what is left. -/
lemma tags_foldl_step (r : Registry ρ) (clauses : List (String × String)) (cs : List Char) :
    ((cs.foldl (step r) (start (r.bindAll clauses))).endClause r).tags =
      r.bindAll (clauses ++ (splitUnescaped ',' cs).map read) := by
  induction hlength : cs.length using Nat.strong_induction_on generalizing clauses cs with
  | _ n ih =>
    cases hcut : cutUnescaped ',' cs with
    | none =>
      have hcs := flagged_of_cutFrom_none hcut
      rw [endClause_foldl_step hcs, splitUnescaped, splitFrom_of_flagged hcs]
      exact push_bindAll r clauses (read cs)
    | some parts =>
      obtain ⟨rfl, hfront, hend⟩ := flagged_of_cutFrom_some hcut
      have hodd : (parts.1.foldl (step r) (start (r.bindAll clauses))).odd = false := by
        rw [foldl_step_odd]
        exact hend
      have hback : parts.2.length < n := by
        rw [← hlength, List.length_append, List.length_cons]
        omega
      rw [List.foldl_append, List.foldl_cons, step_comma_of_even hodd, endClause_foldl_step hfront,
        push_bindAll, ih _ hback _ _ rfl, splitUnescaped, splitUnescaped,
        splitFrom_append hfront hend (by decide), List.map_cons, List.append_assoc,
        List.singleton_append]

end Scan

/-- **Rule strings are read in one scan.** Reading a rule string in passes, which split it at
unescaped commas, take the escaping backslashes away and then look for the equality sign, gives the
tags or the error that a single scan of the raw text gives.

**Proof sketch.** The scanner binds the parts of the text one by one, behind what has been bound
(`Scan.tags_foldl_step`); in the beginning this is nothing. -/
theorem Registry.parseTags_eq_scan (r : Registry ρ) (raw : String) :
    r.parseTags raw = r.scan raw := by
  by_cases hraw : raw = ""
  · subst hraw
    rfl
  · rw [parseTags, split_of_ne_empty hraw, scan, if_neg hraw]
    exact (Scan.tags_foldl_step r [] raw.toList).symm

end Verdict
