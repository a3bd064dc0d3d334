import Mathlib.Data.List.Infix
import Verdict.CommandLine.Output
import Verdict.Proofs.Errors.Index

/-!
# How results end

A result is one document, and one line break ends it. In both forms of JSON the document itself ends
with a bracket. In YAML it ends with the text of the last error, which may be written literally; so
if this text ends in an empty line, then the line breaks at its end are kept, and the result ends in
an empty line as well.

## Main definitions

* `Verdict.EndsLine` — a text ends in one line break.
* `Verdict.EndsInEmptyLine` — the last line of a text is empty, and ended.
* `Verdict.Errors.resultDocument` — the document for the errors of a validation.

## Main results

* `Verdict.Yaml.exists_mapping_concat` — members end with the value of the last one.
* `Verdict.OutputFormat.endsLine_render` — one line break ends the document.
-/

namespace Verdict

/-- A text ends in a line break, in front of which there is no other one. -/
def EndsLine (s : String) : Prop :=
  ∃ front, s.toList = front ++ ['\n'] ∧ front.getLast? ≠ some '\n'

/-- A text ends in two line breaks, or is just one. -/
def EndsInEmptyLine (s : String) : Prop := ['\n', '\n'] <:+ '\n' :: s.toList

instance (s : String) : Decidable (EndsInEmptyLine s) :=
  inferInstanceAs (Decidable (['\n', '\n'] <:+ '\n' :: s.toList))

/-- What is reported of the errors of a validation: that there are none, or the heading and the
texts of the errors by path, in order. -/
def Errors.resultDocument (e : Errors) : Json :=
  if e.isEmpty then .obj [("valid", .bool true)]
  else .obj [("message", .str heading),
    ("errors", .obj (e.toList.map fun item => (item.1, .str item.2.text)))]

/-- The text of the last error. -/
def Errors.lastText? (e : Errors) : Option String := e.toList.getLast?.map (·.2.text)

/-! ### Line breaks at the end -/

/-- A text that does not end in two line breaks ends in one, once its last line is ended. -/
lemma endsLine_endLine {s : String} (h : ¬['\n', '\n'] <:+ s.toList) :
    EndsLine (Presentation.endLine s) := by
  rw [Presentation.endLine]
  split_ifs with hend
  · obtain ⟨front, hfront⟩ := List.getLast?_eq_some_iff.mp hend
    refine ⟨front, hfront, fun hlast => h ?_⟩
    obtain ⟨more, rfl⟩ := List.getLast?_eq_some_iff.mp hlast
    exact ⟨more, by rw [hfront, List.append_assoc]; rfl⟩
  · exact ⟨s.toList, by rw [Presentation.line, String.toList_append]; rfl, hend⟩

/-- A text without a line break at its end does not end in two of them. -/
lemma not_suffix_of_getLast? {cs : List Char} (hlast : cs.getLast? ≠ some '\n') :
    ¬['\n', '\n'] <:+ cs := by
  rintro ⟨front, rfl⟩
  exact hlast (List.getLast?_append_of_ne_nil _ (List.cons_ne_nil _ _))

/-- In front of a line break at the end there is another one if and only if the text before it ends
in one. -/
lemma suffix_concat_iff {cs : List Char} :
    ['\n', '\n'] <:+ cs ++ ['\n'] ↔ cs.getLast? = some '\n' := by
  rw [List.getLast?_eq_some_iff]
  constructor
  · rintro ⟨front, hfront⟩
    exact ⟨front, List.append_cancel_right (by rw [← hfront, List.append_assoc]; rfl)⟩
  · rintro ⟨front, rfl⟩
    exact ⟨front, by rw [List.append_assoc]; rfl⟩

/-- A text that ends in two line breaks does not end in one. -/
lemma not_endsLine_of_suffix {s : String} (h : ['\n', '\n'] <:+ s.toList) : ¬EndsLine s := by
  rintro ⟨front, hfront, hlast⟩
  rw [hfront, suffix_concat_iff] at h
  exact hlast h

namespace Json

/-- A compact object ends with a bracket. -/
lemma getLast?_compact (members : List (String × Json)) :
    (Json.obj members).compact.toList.getLast? = some '}' := by
  rw [compact, String.toList_append]
  exact List.getLast?_concat

/-- So does one with a member a line. -/
lemma getLast?_pretty (members : List (String × Json)) :
    (Json.obj members).pretty.toList.getLast? = some '}' := by
  rw [pretty, prettyAt, bracketed]
  split_ifs
  · rfl
  · rw [String.toList_append]
    exact List.getLast?_concat

end Json

namespace Yaml

/-- In indented lines a character has blanks in front of it or not, but none if it is a break. -/
lemma exists_indented_cons (indent : Nat) (fresh : Bool) (c : Char) :
    ∃ pad, (isBreak c = true → pad = []) ∧
      ∀ rest, indented indent (fun _ => false) fresh (c :: rest) =
        pad ++ c :: indented indent (fun _ => false) (isBreak c) rest := by
  simp only [indented]
  cases hbreak : isBreak c with
  | true => exact ⟨[], fun _ => rfl, fun _ => rfl⟩
  | false =>
    refine ⟨if fresh then blanks indent else [], fun h => absurd h (by simp), fun rest => ?_⟩
    simp

/-- The last character of a text is the last one of its indented lines. If it is a break, then it
comes right behind the lines of the text before it.

**Proof sketch.** Induction on the text. What stands in front of a character depends on whether the
one before it is a break, and not on what comes behind. -/
lemma exists_indented_concat (indent : Nat) (fresh : Bool) (cs : List Char) (c : Char) :
    ∃ pad, (isBreak c = true → pad = []) ∧
      indented indent (fun _ => false) fresh (cs ++ [c]) =
        indented indent (fun _ => false) fresh cs ++ (pad ++ [c]) := by
  induction cs generalizing fresh with
  | nil =>
    obtain ⟨pad, hbreak, hpad⟩ := exists_indented_cons indent fresh c
    exact ⟨pad, hbreak, by rw [List.nil_append, hpad, indented, indented, List.nil_append]⟩
  | cons d cs ih =>
    obtain ⟨before, -, hbefore⟩ := exists_indented_cons indent fresh d
    obtain ⟨pad, hbreak, hpad⟩ := ih (isBreak d)
    refine ⟨pad, hbreak, ?_⟩
    rw [List.cons_append, hbefore, hpad, hbefore, List.append_assoc, List.cons_append]

/-- Indented lines end like their text. -/
lemma getLast?_indented (indent : Nat) (fresh : Bool) (cs : List Char) :
    (indented indent (fun _ => false) fresh cs).getLast? = cs.getLast? := by
  rcases List.eq_nil_or_concat cs with rfl | ⟨cs, c, rfl⟩
  · rw [indented]
  · obtain ⟨pad, -, hpad⟩ := exists_indented_concat indent fresh cs c
    rw [List.concat_eq_append, hpad, ← List.append_assoc, List.getLast?_concat,
      List.getLast?_concat]

/-- The lines of a text that does not end in an empty line do not either.

**Proof sketch.** If the text ends in a line break, this comes right behind the lines before it, and
they end like their text. Otherwise the lines do not end in a line break at all. -/
lemma not_suffix_indented {s : String} (h : ¬EndsInEmptyLine s) (indent : Nat) :
    ¬['\n', '\n'] <:+ '\n' :: indented indent (fun _ => false) true s.toList := by
  rw [EndsInEmptyLine] at h
  generalize s.toList = cs at h
  rcases List.eq_nil_or_concat cs with rfl | ⟨cs, c, rfl⟩
  · rwa [indented]
  rw [List.concat_eq_append] at h ⊢
  by_cases hc : c = '\n'
  · -- the line break at the end comes right behind the lines before it
    subst hc
    obtain ⟨pad, hbreak, hpad⟩ := exists_indented_concat indent true cs '\n'
    obtain rfl := hbreak (by decide)
    rw [← List.cons_append, suffix_concat_iff, List.getLast?_cons] at h
    rwa [hpad, List.nil_append, ← List.cons_append, suffix_concat_iff, List.getLast?_cons,
      getLast?_indented]
  · refine not_suffix_of_getLast? ?_
    rw [List.getLast?_cons, getLast?_indented, List.getLast?_concat]
    simpa using hc

/-! ### Members -/

/-- Members that end with a text are written with this text at the end.

**Proof sketch.** Induction on the members. With one member only, the text comes behind its key and
a blank, however the key is written. -/
lemma exists_mapping_concat (column : Nat) (members : List (String × Json)) (key text : String) :
    ∃ front, mapping column (members ++ [(key, .str text)]) =
      front ++ ' ' :: spell (column + 2) text (spelling false text) := by
  induction members with
  | nil =>
    rw [List.nil_append, mapping, List.isEmpty_nil]
    simp only [if_true]
    split_ifs with hsimple
    · exact ⟨spell (column + 2) key (spelling true key) ++ [':'], by simp [behindKey, scalar]⟩
    · exact ⟨endLine ('?' :: ' ' :: spell (column + 2) key (spelling false key)) ++ blanks column ++
        [':'], by simp [block, scalar]⟩
  | cons member members ih =>
    obtain ⟨front, hfront⟩ := ih
    have hmore : (members ++ [(key, Json.str text)]).isEmpty = false := by simp
    rw [List.cons_append, mapping, hmore, hfront]
    exact ⟨_, by simp only [Bool.false_eq_true, if_false, ← List.append_assoc]; rfl⟩

/-- A text is written without quotes only if it has no line break, and literally only if it has
one.

**Proof sketch.** Whether there is a line break decides between the literal spelling and the others,
by definition. -/
lemma newline_mem_of_spelling (text : String) :
    (spelling false text = .plain → '\n' ∉ text.toList) ∧
      (spelling false text = .literal → '\n' ∈ text.toList) := by
  rw [← List.contains_iff_mem, spelling]
  cases text.toList.contains '\n' with
  | true =>
    refine ⟨fun h => absurd h ?_, fun _ => rfl⟩
    simp only [Bool.false_and, Bool.false_eq_true, if_false, if_true]
    split_ifs <;> decide
  | false =>
    refine ⟨fun _ => by decide, fun h => absurd h ?_⟩
    simp only [Bool.false_and, Bool.false_eq_true, if_false]
    split_ifs <;> decide

/-- Behind a blank, a text is written with an empty line at the end only if it ends in one.

**Proof sketch.** By the spelling. A text without quotes has no line break, and one in quotes ends
in a quote. A literal text ends in its indented lines (`not_suffix_indented`); there are some, since
it has a line break. -/
lemma not_suffix_spell {text : String} (h : ¬EndsInEmptyLine text) (indent : Nat)
    (front : List Char) :
    ¬['\n', '\n'] <:+ front ++ ' ' :: spell indent text (spelling false text) := by
  obtain ⟨hplain, hliteral⟩ := newline_mem_of_spelling text
  have hquoted (quote : Char) (hquote : quote ≠ '\n') (cs : List Char) :
      ¬['\n', '\n'] <:+ front ++ ' ' :: (cs ++ [quote]) := by
    apply not_suffix_of_getLast?
    rw [← List.cons_append, ← List.append_assoc, List.getLast?_concat]
    simpa using hquote
  cases hspelling : spelling false text with
  | plain =>
    apply not_suffix_of_getLast?
    rw [spell, List.getLast?_append_of_ne_nil _ (List.cons_ne_nil _ _), List.getLast?_cons]
    cases hlast : text.toList.getLast? with
    | none => decide
    | some c =>
      have hc : c ≠ '\n' := ne_of_mem_of_not_mem (List.mem_of_getLast? hlast) (hplain hspelling)
      simpa using hc
  | single =>
    rw [spell]
    exact hquoted '\'' (by decide) _
  | double =>
    rw [spell]
    exact hquoted '"' (by decide) _
  | literal =>
    have hlines := not_suffix_indented h indent
    rw [spell]
    intro hsuffix
    rw [← List.cons_append, ← List.append_assoc] at hsuffix
    refine hlines (List.suffix_of_suffix_length_le hsuffix (List.suffix_append _ _) ?_)
    cases hindented : indented indent (fun _ => false) true text.toList with
    | nil =>
      -- there is a line break in the text, so there are lines
      have hlast := getLast?_indented indent true text.toList
      rw [hindented, List.getLast?_nil] at hlast
      have hnil : text.toList = [] := List.getLast?_eq_none_iff.mp hlast.symm
      have := hliteral hspelling
      simp [hnil] at this
    | cons c cs => simp

/-! ### Documents -/

/-- Ending the last line of a text in YAML makes no empty line. -/
lemma not_suffix_endLine {cs : List Char} (h : ¬['\n', '\n'] <:+ cs) :
    ¬['\n', '\n'] <:+ endLine cs := by
  rw [endLine]
  split_ifs with hbreak
  · exact h
  · rw [suffix_concat_iff]
    intro hlast
    rw [hlast] at hbreak
    exact hbreak (by decide)

/-- A document whose last member has members that end with a text ends in an empty line only if the
text does.

**Proof sketch.** The document ends with the members, the members end with the text
(`exists_mapping_concat`), and ending the last line adds a line break only where there is none. -/
lemma not_suffix_print {text : String} (h : ¬EndsInEmptyLine text) (first : String × Json)
    {name : String} (hname : isSimpleKey name = true) (members : List (String × Json))
    (key : String) :
    ¬['\n', '\n'] <:+
      (print (.obj [first, (name, .obj (members ++ [(key, .str text)]))])).toList := by
  obtain ⟨front, hfront⟩ := exists_mapping_concat 2 members key text
  have hnested : behindKey 0 (.obj (members ++ [(key, .str text)])) =
      '\n' :: blanks 2 ++ mapping 2 (members ++ [(key, .str text)]) := by
    cases members <;> rfl
  have hlast : mapping 0 [(name, .obj (members ++ [(key, .str text)]))] =
      spell 2 name (spelling true name) ++ ':' :: ('\n' :: blanks 2 ++ front) ++
        ' ' :: spell 4 text (spelling false text) := by
    rw [mapping, if_pos hname, hnested, hfront]
    simp
  rw [print, String.toList_ofList]
  apply not_suffix_endLine
  rw [mapping, hlast]
  dsimp only [List.isEmpty_cons]
  rw [if_neg (by decide), ← List.append_assoc]
  exact not_suffix_spell h 4 _

end Yaml

namespace OutputFormat

/-- One line break ends the document for the errors of a validation. Only in YAML it is not so if
the text of the last error ends in an empty line.

**Proof sketch.** In JSON the document ends in a bracket, and so does not end in two line breaks. In
YAML it is the one without errors, which is computed, or it ends with the text of the last error
(`Yaml.not_suffix_print`). -/
lemma endsLine_render {f : OutputFormat} {e : Errors}
    (h : f = .yaml → ∀ text ∈ e.lastText?, ¬EndsInEmptyLine text) :
    EndsLine (Presentation.endLine (f.render e.resultDocument)) := by
  have hbracket (s : String) (hs : s.toList.getLast? = some '}') :
      EndsLine (Presentation.endLine s) :=
    endsLine_endLine (not_suffix_of_getLast? (by rw [hs]; decide))
  obtain ⟨members, hmembers⟩ : ∃ members, e.resultDocument = .obj members := by
    rw [Errors.resultDocument]
    split_ifs
    · exact ⟨_, rfl⟩
    · exact ⟨_, rfl⟩
  cases f with
  | human => exact hbracket _ (hmembers ▸ Json.getLast?_pretty members)
  | json => exact hbracket _ (hmembers ▸ Json.getLast?_compact members)
  | jsonPretty => exact hbracket _ (hmembers ▸ Json.getLast?_pretty members)
  | yaml =>
    apply endsLine_endLine
    rw [render, Errors.resultDocument]
    split_ifs with hempty
    · decide +kernel
    · rw [Errors.isEmpty_iff] at hempty
      rcases List.eq_nil_or_concat e.toList with hnil | ⟨items, item, hitems⟩
      · exact absurd hnil hempty
      · have hlast : item.2.text ∈ e.lastText? := by
          rw [Errors.lastText?, hitems, List.concat_eq_append, List.getLast?_concat]
          rfl
        rw [hitems, List.concat_eq_append, List.map_append]
        exact Yaml.not_suffix_print (h rfl _ hlast) _ (by decide +kernel) _ _

end OutputFormat

end Verdict
