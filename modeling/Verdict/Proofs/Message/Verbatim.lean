import Mathlib.Data.List.Infix
import Verdict.Message.Template
import Verdict.Proofs.Walk.Place

/-!
# Arguments as they are

Arguments are put into a template one after the other, and the first occurrence of a place is looked
for in the text made so far. So a place in an argument, or one that an argument forms together with
the text around it, can take a later argument. This file compares that with putting all arguments in
at once, each at the first occurrence of its place in the template itself.

## Main definitions

* `Verdict.verbatim` — a template with its arguments put in at once.
* `Verdict.FirstReplaced` — the first occurrence of a text in another one is replaced.
* `Verdict.Undisturbed` — no argument goes to a place that the template does not have there.

## Main results

* `Verdict.formatMessage_concat` — one more argument replaces the first occurrence of its place.
* `Verdict.formatMessage_of_undisturbed` — undisturbed arguments are put in as they are.

## Design

Places have a dollar sign at their head and nowhere else. So two places in a text do not overlap,
and what stands in front of a place is filled in without regard to it (`fill_append`).
-/

namespace Verdict

/-- Arguments with the numbers of their places. -/
abbrev Slots := List (String × Nat)

/-- The arguments of all places but one. -/
def Slots.without (slots : Slots) (k : Nat) : Slots := slots.filter fun slot => slot.2 ≠ k

/-- Put arguments into a text, all in one way through it. At the first occurrence of a place its
argument is put out, and the place is left behind. What was put out is not looked at again, and
neither are further occurrences of the place. -/
def fill (slots : Slots) : List Char → List Char
  | [] => []
  | c :: rest =>
    match slots.find? fun slot => (placeholder slot.2).isPrefixOf (c :: rest) with
    | some slot =>
      slot.1.toList ++ fill (slots.without slot.2) ((c :: rest).drop (placeholder slot.2).length)
    | none => c :: fill slots rest
termination_by text => text.length
decreasing_by
  · simp only [placeholder, List.length_drop, List.length_cons, List.length_append]
    omega
  · simp

/-- A template in which, for each argument, the first occurrence of its place is replaced by it, and
everything else is kept. -/
def verbatim (template : String) (args : List String) : String :=
  String.ofList (fill args.zipIdx template.toList)

/-- What is in front of the first occurrence of a text; everything, if it does not occur. -/
def front (needle : List Char) : List Char → List Char
  | [] => []
  | c :: rest => if needle.isPrefixOf (c :: rest) then [] else c :: front needle rest

/-- The first occurrence of a text in another one is replaced; where it does not occur, nothing
changes. -/
def FirstReplaced (needle replacement text result : List Char) : Prop :=
  (needle <:+: text ∧ ∃ after, text = front needle text ++ needle ++ after ∧
      result = front needle text ++ replacement ++ after) ∨
    ¬needle <:+: text ∧ result = text

/-- The text that is made of what is in front of a place has this place for no argument. In
particular, if a place does not occur in the template, then it does not occur in the text made by
the arguments before it. -/
def Undisturbed (template : String) (args : List String) : Prop :=
  ∀ k < args.length, ¬placeholder k <:+:
    fill (args.take k).zipIdx (front (placeholder k) template.toList)

instance (template : String) (args : List String) : Decidable (Undisturbed template args) :=
  inferInstanceAs (Decidable (∀ k < args.length, ¬placeholder k <:+: _))

variable {i j k : Nat} {text before after : List Char}

/-! ### Places -/

/-- A place is not empty. -/
lemma placeholder_ne_nil (i : Nat) : placeholder i ≠ [] := List.cons_ne_nil _ _

/-- A place has no dollar sign behind its head. -/
lemma dollar_notMem_tail (i : Nat) : '$' ∉ (placeholder i).tail := by
  have hdigits : '$' ∉ (toString i).toList := mt isDigit_of_mem_toString (by decide)
  rw [placeholder, List.cons_append, List.tail_cons, List.cons_append, List.mem_cons,
    List.mem_append, List.mem_singleton]
  rintro (h | h | h)
  · exact absurd h (by decide)
  · exact hdigits h
  · exact absurd h (by decide)

/-- The place at the head of a text can be read off it. -/
lemma eq_of_prefix_placeholder (h : placeholder i <+: placeholder j ++ after) : i = j := by
  obtain ⟨rest, hrest⟩ := h
  have hdigits (n : Nat) : '}' ∉ (toString n).toList := mt isDigit_of_mem_toString (by decide)
  simp only [placeholder, List.cons_append, List.append_assoc, List.cons.injEq, true_and,
    List.nil_append] at hrest
  exact eq_of_toString_eq (cut_injective (hdigits i) (by simp) (hdigits j) (by simp) hrest).1

/-- A place at the head of a text does not reach into what starts with another character than those
behind the head of the place.

**Proof sketch.** A place that is no longer than the first part lies within it. One that is longer
has a rest, and the rest starts with a character behind the head of the place, while the second part
does not. -/
lemma placeholder_prefix_of_append (hbefore : before ≠ [])
    (hafter : ∀ c ∈ after.head?, c ∉ (placeholder i).tail) (h : placeholder i <+: before ++ after) :
    placeholder i <+: before := by
  rcases Nat.le_total (placeholder i).length before.length with hlength | hlength
  · exact List.prefix_of_prefix_length_le h (List.prefix_append _ _) hlength
  obtain ⟨rest, hrest⟩ := List.prefix_of_prefix_length_le (List.prefix_append _ _) h hlength
  cases rest with
  | nil => rw [← hrest, List.append_nil]
  | cons c rest =>
    -- the rest of the place would start with a character that is behind its head
    rw [← hrest] at h
    obtain ⟨more, hmore⟩ := (List.prefix_append_right_inj _).mp h
    have hc : c ∈ (placeholder i).tail := by
      rw [← hrest, List.tail_append_of_ne_nil hbefore]
      simp
    exact absurd hc (hafter c (by rw [← hmore]; rfl))

/-- A place in a text of two parts is in one of them, if the second starts with another character
than those behind the head of the place. -/
lemma placeholder_infix_of_append (hafter : ∀ c ∈ after.head?, c ∉ (placeholder i).tail)
    (h : placeholder i <:+: before ++ after) :
    placeholder i <:+: before ∨ placeholder i <:+: after := by
  induction before with
  | nil => exact .inr h
  | cons c before ih =>
    rw [List.cons_append, List.infix_cons_iff] at h
    rw [List.infix_cons_iff]
    rcases h with h | h
    · exact .inl (.inl (placeholder_prefix_of_append (List.cons_ne_nil _ _) hafter h))
    · exact (ih h).imp_left .inr

/-- A place is in what comes behind another place, if it is behind that place at all.

**Proof sketch.** At the head of the text there is one place only, and within it no place can start,
as it has no further dollar sign. -/
lemma placeholder_infix_placeholder_append_iff (h : i ≠ j) :
    placeholder i <:+: placeholder j ++ after ↔ placeholder i <:+: after := by
  refine ⟨fun hin => ?_, fun hin => hin.trans (List.suffix_append _ _).isInfix⟩
  have hplain (l : List Char) (hl : '$' ∉ l) (hin : placeholder i <:+: l ++ after) :
      placeholder i <:+: after := by
    induction l with
    | nil => exact hin
    | cons c l ih =>
      rw [List.mem_cons, not_or] at hl
      rw [List.cons_append, List.infix_cons_iff] at hin
      refine ih hl.2 (hin.resolve_left ?_)
      rintro ⟨rest, hrest⟩
      exact hl.1 (List.cons.inj hrest).1
  have hj : placeholder j = '$' :: (placeholder j).tail := rfl
  rw [hj, List.cons_append, List.infix_cons_iff, ← List.cons_append, ← hj] at hin
  exact hplain _ (dollar_notMem_tail j) (hin.resolve_left fun hstart =>
    h (eq_of_prefix_placeholder hstart))

/-! ### Replacing -/

/-- What does not occur is not replaced. -/
lemma replaceFirst_of_not_infix_text {needle : List Char} (hneedle : needle ≠ [])
    (replacement : List Char) (h : ¬needle <:+: text) :
    replaceFirst needle replacement text = text := by
  induction text with
  | nil => rw [replaceFirst, if_neg (by simpa using hneedle)]
  | cons c rest ih =>
    rw [List.infix_cons_iff, not_or] at h
    rw [replaceFirst, if_neg (by rw [List.isPrefixOf_iff_prefix]; exact h.1), ih h.2]

/-- A place that does not occur in front of a text that starts with a dollar sign is looked for in
this text.

**Proof sketch.** Induction on the first part. If the place started within it, then it would be all
in it, since the second part starts with a dollar sign. -/
lemma replaceFirst_append (hbefore : ¬placeholder i <:+: before)
    (hafter : ∀ c ∈ after.head?, c = '$') (replacement : List Char) :
    replaceFirst (placeholder i) replacement (before ++ after) =
      before ++ replaceFirst (placeholder i) replacement after := by
  induction before with
  | nil => rfl
  | cons c before ih =>
    have hhead : ¬placeholder i <+: c :: (before ++ after) := fun h =>
      hbefore (placeholder_prefix_of_append (List.cons_ne_nil _ _)
        (fun c hc => hafter c hc ▸ dollar_notMem_tail i) h).isInfix
    rw [List.infix_cons_iff, not_or] at hbefore
    rw [List.cons_append, replaceFirst, if_neg (by rwa [List.isPrefixOf_iff_prefix]),
      ih hbefore.2, List.cons_append]

/-- At its place an argument is put in. -/
lemma replaceFirst_placeholder (i : Nat) (replacement after : List Char) :
    replaceFirst (placeholder i) replacement (placeholder i ++ after) = replacement ++ after := by
  have hi : placeholder i ++ after = '$' :: ((placeholder i).tail ++ after) := rfl
  have hhead : (placeholder i).isPrefixOf ('$' :: ((placeholder i).tail ++ after)) = true := by
    rw [← hi, List.isPrefixOf_iff_prefix]
    exact List.prefix_append _ _
  rw [hi, replaceFirst, if_pos hhead, ← hi, List.drop_left]

/-! ### In front of a place -/

/-- What is in front of a text in another one is the beginning of that one. -/
lemma prefix_front_self (needle text : List Char) : front needle text <+: text := by
  induction text with
  | nil => exact List.prefix_rfl
  | cons c rest ih =>
    rw [front]
    split_ifs
    · exact List.nil_prefix
    · exact (List.prefix_cons_inj c).mpr ih

/-- A place does not occur in front of its first occurrence.

**Proof sketch.** Induction on the text. What is in front ends where the place starts, so the place
does not start at its head. -/
lemma not_infix_front (i : Nat) (text : List Char) :
    ¬placeholder i <:+: front (placeholder i) text := by
  induction text with
  | nil => simp [front, placeholder_ne_nil]
  | cons c rest ih =>
    rw [front]
    split_ifs with hhead
    · simp [placeholder_ne_nil]
    · rw [List.isPrefixOf_iff_prefix] at hhead
      rw [List.infix_cons_iff, not_or]
      exact ⟨fun h => hhead (h.trans ((List.prefix_cons_inj c).mpr (prefix_front_self _ _))), ih⟩

/-- A text with a place is what is in front of the first occurrence of it, the place, and a rest.

**Proof sketch.** Induction on the text. Either the place starts at its head, or it occurs in the
rest. -/
lemma eq_front_append (h : placeholder i <:+: text) :
    ∃ after, text = front (placeholder i) text ++ (placeholder i ++ after) := by
  induction text with
  | nil => simp [placeholder_ne_nil] at h
  | cons c rest ih =>
    rw [front]
    split_ifs with hhead
    · obtain ⟨after, hafter⟩ := List.isPrefixOf_iff_prefix.mp hhead
      exact ⟨after, hafter.symm⟩
    · rw [List.isPrefixOf_iff_prefix] at hhead
      rw [List.infix_cons_iff] at h
      obtain ⟨after, hafter⟩ := ih (h.resolve_left hhead)
      exact ⟨after, by rw [List.cons_append, ← hafter]⟩

/-- A text without a place is all in front of it. -/
lemma front_eq_self (h : ¬placeholder i <:+: text) : front (placeholder i) text = text := by
  induction text with
  | nil => rfl
  | cons c rest ih =>
    rw [List.infix_cons_iff, not_or] at h
    rw [front, if_neg (by rw [List.isPrefixOf_iff_prefix]; exact h.1), ih h.2]

/-! ### Filling in -/

/-- The arguments that are left behind a text: those whose place does not occur in it. -/
def Slots.leftBehind (slots : Slots) (text : List Char) : Slots :=
  slots.filter fun slot => ¬placeholder slot.2 <:+: text

/-- No argument has this place. -/
def Slots.Free (slots : Slots) (k : Nat) : Prop := ∀ slot ∈ slots, slot.2 ≠ k

variable {slots : Slots}

/-- No argument is found for a place that none has. -/
lemma Slots.Free.find?_eq_none (h : slots.Free k) :
    (slots.find? fun slot => slot.2 = k) = none := by
  rw [List.find?_eq_none]
  exact fun slot hslot => by simpa using h slot hslot

/-- No argument goes with a place that none has. -/
lemma Slots.Free.without_eq (h : slots.Free k) : slots.without k = slots := by
  rw [without, List.filter_eq_self]
  exact fun slot hslot => by simpa using h slot hslot

/-- Without arguments everything is kept. -/
lemma fill_no_slots (text : List Char) : fill [] text = text := by
  induction text with
  | nil => rw [fill]
  | cons c rest ih =>
    rw [fill, List.find?_nil]
    exact congrArg _ ih

/-- At the head of a text there is no place of an argument, or just that of one of the arguments. -/
lemma find?_placeholder_append (slots : Slots) (k : Nat) (after : List Char) :
    (slots.find? fun slot => (placeholder slot.2).isPrefixOf (placeholder k ++ after)) =
      slots.find? fun slot => slot.2 = k := by
  congr 1
  funext slot
  rw [Bool.eq_iff_iff, List.isPrefixOf_iff_prefix, decide_eq_true_iff]
  refine ⟨eq_of_prefix_placeholder, ?_⟩
  rintro rfl
  exact List.prefix_append _ _

/-- At the place of an argument the argument is put out. -/
lemma fill_placeholder_of_find {slot : String × Nat}
    (h : (slots.find? fun slot => slot.2 = k) = some slot) (after : List Char) :
    fill slots (placeholder k ++ after) =
      slot.1.toList ++ fill (slots.without k) after := by
  have hk : slot.2 = k := by simpa using List.find?_some h
  have hfind := find?_placeholder_append slots k after
  rw [h] at hfind
  have hcons : placeholder k ++ after = '$' :: ((placeholder k).tail ++ after) := rfl
  rw [hcons] at hfind ⊢
  rw [fill, hfind]
  dsimp only
  rw [← hcons, hk, List.drop_left]

/-- Text without a dollar sign is kept.

**Proof sketch.** Induction on the text. All places start with a dollar sign, so no argument is put
in here. -/
lemma fill_append_of_dollar_notMem (h : '$' ∉ before) (after : List Char) :
    fill slots (before ++ after) = before ++ fill slots after := by
  induction before with
  | nil => rfl
  | cons c before ih =>
    rw [List.mem_cons, not_or] at h
    have hnone : (slots.find? fun slot =>
        (placeholder slot.2).isPrefixOf (c :: (before ++ after))) = none := by
      rw [List.find?_eq_none]
      intro slot _
      rw [List.isPrefixOf_iff_prefix]
      rintro ⟨rest, hrest⟩
      exact h.1 (List.cons.inj hrest).1
    rw [List.cons_append, fill, hnone, ih h.2, List.cons_append]

/-- A place that no argument has is kept. -/
lemma fill_placeholder_of_free (h : slots.Free k) (after : List Char) :
    fill slots (placeholder k ++ after) = placeholder k ++ fill slots after := by
  have hfind := find?_placeholder_append slots k after
  rw [h.find?_eq_none] at hfind
  have hcons : placeholder k ++ after = '$' :: ((placeholder k).tail ++ after) := rfl
  rw [hcons] at hfind ⊢
  rw [fill, hfind]
  dsimp only
  rw [fill_append_of_dollar_notMem (dollar_notMem_tail k)]
  rfl

/-- A text is filled in part by part, if the second part starts with a dollar sign: the arguments
left behind the first part go to the second.

**Proof sketch.** Induction on the way through the first part. A place that is found at its head is
in this part altogether, since it does not reach into the second. Its argument is the one that is
not left behind any more. -/
lemma fill_append (slots : Slots) (before : List Char) (hafter : ∀ c ∈ after.head?, c = '$') :
    fill slots (before ++ after) = fill slots before ++ fill (slots.leftBehind before) after := by
  induction slots, before using fill.induct with
  | case1 slots =>
    have hall : slots.leftBehind [] = slots := by simp [Slots.leftBehind, placeholder_ne_nil]
    rw [hall, List.nil_append, fill.eq_1, List.nil_append]
  | case2 slots c rest slot hfind ih =>
    obtain ⟨text, htext⟩ : placeholder slot.2 <+: c :: rest := by
      simpa using List.find?_some hfind
    rw [← htext] at hfind ih ⊢
    rw [find?_placeholder_append] at hfind
    rw [List.drop_left] at ih
    -- its own argument is not left behind by the part, and all others are left as by the rest
    have hleft : (slots.without slot.2).leftBehind text =
        slots.leftBehind (placeholder slot.2 ++ text) := by
      rw [Slots.leftBehind, Slots.leftBehind, Slots.without, List.filter_filter]
      apply List.filter_congr
      intro other _
      by_cases hother : other.2 = slot.2
      · simp [hother, (List.prefix_append (placeholder slot.2) text).isInfix]
      · simp [hother, placeholder_infix_placeholder_append_iff hother]
    rw [List.append_assoc, fill_placeholder_of_find hfind, ih, fill_placeholder_of_find hfind,
      hleft, List.append_assoc]
  | case3 slots c rest hfind ih =>
    have hhead (slot) (hslot : slot ∈ slots) : ¬placeholder slot.2 <+: c :: rest := by
      simpa using List.find?_eq_none.mp hfind slot hslot
    have hnone : (slots.find? fun slot =>
        (placeholder slot.2).isPrefixOf (c :: (rest ++ after))) = none := by
      rw [List.find?_eq_none]
      intro slot hslot
      rw [List.isPrefixOf_iff_prefix]
      exact fun h => hhead slot hslot (placeholder_prefix_of_append (List.cons_ne_nil _ _)
        (fun d hd => hafter d hd ▸ dollar_notMem_tail slot.2) h)
    have hleft : slots.leftBehind rest = slots.leftBehind (c :: rest) := by
      apply List.filter_congr
      intro slot hslot
      simp [List.infix_cons_iff, hhead slot hslot]
    rw [List.cons_append, fill, hnone, fill, hfind, ih, hleft, List.cons_append]

/-- An argument whose place does not occur makes no difference.

**Proof sketch.** Induction on the way through the text. The last argument is looked for behind the
others and is not found, since its place does not start here. -/
lemma fill_concat_of_not_infix_text (h : ¬placeholder k <:+: text) (arg : String) :
    fill (slots ++ [(arg, k)]) text = fill slots text := by
  induction slots, text using fill.induct with
  | case1 slots => rw [fill, fill]
  | case2 slots c rest slot hfind ih =>
    obtain ⟨text, htext⟩ : placeholder slot.2 <+: c :: rest := by
      simpa using List.find?_some hfind
    have hne : k ≠ slot.2 := by
      rintro rfl
      exact h (htext ▸ (List.prefix_append _ _).isInfix)
    have hwithout : Slots.without (slots ++ [(arg, k)]) slot.2 =
        slots.without slot.2 ++ [(arg, k)] := by
      simp [Slots.without, hne]
    rw [fill, fill, List.find?_append, hfind]
    dsimp only [Option.some_or]
    rw [hwithout, ih fun hin => h (hin.trans (List.drop_suffix _ _).isInfix)]
  | case3 slots c rest hfind ih =>
    rw [List.infix_cons_iff, not_or] at h
    have hhead : (placeholder k).isPrefixOf (c :: rest) = false := by
      rw [← Bool.not_eq_true, List.isPrefixOf_iff_prefix]
      exact h.1
    rw [fill, fill, List.find?_append, hfind, List.find?_cons_of_neg (by simp [hhead])]
    dsimp only [Option.none_or, List.find?_nil]
    rw [ih h.2]

/-! ### Undisturbed arguments -/

/-- If the text made of what is in front of a place does not have this place, then the first
occurrence of the place in the text made so far is the one in the template.

**Proof sketch.** If the place is in the template, cut the template there. What is made of the part
in front does not have the place and is kept, by assumption; the place itself is still there, as no
argument before has it; and behind it the argument makes no difference, as its place has been taken.
If the place is not in the template, then neither side has it. -/
lemma replaceFirst_fill (hfree : slots.Free k)
    (h : ¬placeholder k <:+: fill slots (front (placeholder k) text)) (arg : String) :
    replaceFirst (placeholder k) arg.toList (fill slots text) =
      fill (slots ++ [(arg, k)]) text := by
  by_cases hplace : placeholder k <:+: text
  · obtain ⟨after, htext⟩ := eq_front_append hplace
    have hnot := not_infix_front k text
    generalize front (placeholder k) text = before at h htext hnot
    -- behind what is in front there is the place, and no argument left behind has it
    have hdollar (rest : List Char) : ∀ c ∈ (placeholder k ++ rest).head?, c = '$' := by
      simp [placeholder]
    have hleft : Slots.Free (slots.leftBehind before) k := fun slot hslot =>
      hfree slot (List.mem_of_mem_filter hslot)
    have hfind : ((slots.leftBehind before ++ [(arg, k)]).find? fun slot => slot.2 = k) =
        some (arg, k) := by
      rw [List.find?_append, hleft.find?_eq_none]
      simp
    have hwithout : Slots.without (slots.leftBehind before ++ [(arg, k)]) k =
        slots.leftBehind before := by
      rw [Slots.without, List.filter_append, ← Slots.without, hleft.without_eq]
      simp
    have hbehind : Slots.leftBehind (slots ++ [(arg, k)]) before =
        slots.leftBehind before ++ [(arg, k)] := by
      rw [Slots.leftBehind, List.filter_append]
      simp [Slots.leftBehind, hnot]
    rw [htext, fill_append slots before (hdollar _), fill_placeholder_of_free hleft,
      replaceFirst_append h (hdollar _), replaceFirst_placeholder,
      fill_append (slots ++ [(arg, k)]) before (hdollar _), fill_concat_of_not_infix_text hnot,
      hbehind, fill_placeholder_of_find hfind, hwithout]
  · rw [front_eq_self hplace] at h
    rw [replaceFirst_of_not_infix_text (placeholder_ne_nil k) _ h,
      fill_concat_of_not_infix_text hplace]

/-- One more argument is put in last. -/
lemma insertArgs_concat (text : List Char) (i : Nat) (args : List String) (arg : String) :
    insertArgs text i (args ++ [arg]) =
      replaceFirst (placeholder (i + args.length)) arg.toList (insertArgs text i args) := by
  induction args generalizing text i with
  | nil => rfl
  | cons first args ih =>
    rw [List.cons_append, insertArgs, ih, insertArgs, List.length_cons]
    congr 2
    omega

/-- The numbers of the places of arguments are below the number of arguments. -/
lemma free_zipIdx (args : List String) : Slots.Free args.zipIdx args.length := by
  intro slot hslot
  have := List.snd_lt_of_mem_zipIdx hslot
  omega

/-- One more argument is put at the first occurrence of its place in the text made so far. -/
lemma firstReplaced_replaceFirst (i : Nat) (replacement text : List Char) :
    FirstReplaced (placeholder i) replacement text
      (replaceFirst (placeholder i) replacement text) := by
  by_cases h : placeholder i <:+: text
  · obtain ⟨after, htext⟩ := eq_front_append h
    refine .inl ⟨h, after, by rw [List.append_assoc, ← htext], ?_⟩
    nth_rewrite 1 [htext]
    rw [replaceFirst_append (not_infix_front i text) (by simp [placeholder]),
      replaceFirst_placeholder, List.append_assoc]
  · exact .inr ⟨h, replaceFirst_of_not_infix_text (placeholder_ne_nil i) _ h⟩

/-- The first arguments are undisturbed, if all of them are. -/
lemma Undisturbed.of_concat {template : String} {args : List String} {arg : String}
    (h : Undisturbed template (args ++ [arg])) : Undisturbed template args := by
  intro k hk
  have := h k (by rw [List.length_append]; omega)
  rwa [List.take_append_of_le_length hk.le] at this

/-- Undisturbed arguments are put in as they are.

**Proof sketch.** Induction on the arguments from the end. The last one goes to the first occurrence
in the text that the others made, which is the one in the template (`replaceFirst_fill`). -/
lemma insertArgs_of_undisturbed {template : String} {args : List String}
    (h : Undisturbed template args) :
    insertArgs template.toList 0 args = fill args.zipIdx template.toList := by
  induction args using List.reverseRecOn with
  | nil => rw [insertArgs, List.zipIdx_nil, fill_no_slots]
  | append_singleton args arg ih =>
    have hlast := h args.length (by simp)
    rw [List.take_left] at hlast
    rw [insertArgs_concat, ih h.of_concat, Nat.zero_add, replaceFirst_fill (free_zipIdx args) hlast,
      List.zipIdx_append]
    simp

/-- Without arguments the template is kept. -/
lemma formatMessage_nil (template : String) : formatMessage template [] = template := by
  rw [formatMessage, insertArgs, String.ofList_toList]

/-- One more argument goes to the first occurrence of its place in the message made so far. -/
lemma formatMessage_concat (template : String) (args : List String) (arg : String) :
    FirstReplaced (placeholder args.length) arg.toList (formatMessage template args).toList
      (formatMessage template (args ++ [arg])).toList := by
  rw [formatMessage, formatMessage, String.toList_ofList, String.toList_ofList, insertArgs_concat,
    Nat.zero_add]
  exact firstReplaced_replaceFirst _ _ _

/-- Undisturbed arguments are put in as they are. -/
lemma formatMessage_of_undisturbed {template : String} {args : List String}
    (h : Undisturbed template args) : formatMessage template args = verbatim template args := by
  rw [formatMessage, insertArgs_of_undisturbed h, verbatim]

end Verdict
