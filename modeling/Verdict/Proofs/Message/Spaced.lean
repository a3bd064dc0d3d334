import Verdict.Proofs.Message.Verbatim
import Verdict.Proofs.Table.Lookup
import Verdict.Proofs.Table.Ordered
import Verdict.Validator.Basic
import Verdict.Value.Basic

/-!
# Templates with places apart

In the templates of the built-in rules each place is followed by a blank, or by nothing. There a
place cannot be formed by arguments together with the text around them, but only be in an argument.
So arguments without places of later ones are put in as they are. In particular the parameter, which
comes last, may be any text.

## Main definitions

* `Verdict.Spaced` — a template with its places apart.
* `Verdict.Untangled` — no argument has the place of a later one in it.

## Main results

* `Verdict.undisturbed_of_spaced` — then the arguments are undisturbed.
* `Verdict.Messages.spaced_builtin` — the templates of the built-in rules have their places apart.
* `Verdict.formatMessage_verbatim` — when a message shows its arguments as they are.
-/

namespace Verdict

/-- The characters that places are made of. -/
def inPlace (c : Char) : Bool := c == '$' || c == '{' || c == '}' || c.isDigit

/-- A template in which dollar signs are in places only, and each place is followed by a character
that places are not made of, or by nothing. -/
inductive Spaced : List Char → Prop where
  | nil : Spaced []
  | char {c : Char} {text : List Char} (hc : c ≠ '$') (htext : Spaced text) : Spaced (c :: text)
  | place (i : Nat) {text : List Char} (hnext : ∀ c ∈ text.head?, inPlace c = false)
    (htext : Spaced text) : Spaced (placeholder i ++ text)

/-- No argument that a template has a place for has the place of a later one in it. -/
def Untangled (template : String) (args : List String) : Prop :=
  ∀ slot ∈ args.zipIdx, placeholder slot.2 <:+: template.toList →
    ∀ k < args.length, slot.2 < k → ¬placeholder k <:+: slot.1.toList

instance (template : String) (args : List String) : Decidable (Untangled template args) :=
  inferInstanceAs (Decidable (∀ slot ∈ args.zipIdx, _ → ∀ k < args.length, slot.2 < k → ¬_ <:+: _))

variable {i k : Nat} {text before : List Char} {slots : Slots}

/-! ### Texts with places apart -/

/-- What is not in places is not behind the head of one.

**Proof sketch.** Behind the head of a place there are a bracket, digits and a bracket. -/
lemma notMem_tail_of_not_inPlace {c : Char} (h : inPlace c = false) (i : Nat) :
    c ∉ (placeholder i).tail := by
  simp only [inPlace, Bool.or_eq_false_iff, beq_eq_false_iff_ne] at h
  obtain ⟨⟨⟨-, hopen⟩, hclose⟩, hdigit⟩ := h
  rw [placeholder, List.cons_append, List.tail_cons, List.cons_append, List.mem_cons,
    List.mem_append, List.mem_singleton]
  rintro (rfl | hc | rfl)
  · exact hopen rfl
  · rw [isDigit_of_mem_toString hc] at hdigit
    contradiction
  · exact hclose rfl

/-- Text without a dollar sign in front keeps the places apart. -/
lemma Spaced.append (hbefore : '$' ∉ before) (h : Spaced text) : Spaced (before ++ text) := by
  induction before with
  | nil => exact h
  | cons c before ih =>
    rw [List.mem_cons, not_or] at hbefore
    exact .char (Ne.symm hbefore.1) (ih hbefore.2)

/-- In front of a place there is all text without a dollar sign, and what is in front of the place
in the rest.

**Proof sketch.** Induction on the text in front. A place does not start at a character that is no
dollar sign. -/
lemma front_append (hbefore : '$' ∉ before) (k : Nat) (text : List Char) :
    front (placeholder k) (before ++ text) = before ++ front (placeholder k) text := by
  induction before with
  | nil => rfl
  | cons c before ih =>
    rw [List.mem_cons, not_or] at hbefore
    have hhead : ¬placeholder k <+: c :: (before ++ text) := by
      rintro ⟨rest, hrest⟩
      exact hbefore.1 (List.cons.inj hrest).1
    rw [List.cons_append, front, if_neg (by rwa [List.isPrefixOf_iff_prefix]), ih hbefore.2,
      List.cons_append]

/-- In front of a place there may be another one. -/
lemma front_placeholder_append (h : k ≠ i) (text : List Char) :
    front (placeholder k) (placeholder i ++ text) =
      placeholder i ++ front (placeholder k) text := by
  have hhead : ¬placeholder k <+: placeholder i ++ text := fun hstart =>
    h (eq_of_prefix_placeholder hstart)
  have hcons (rest : List Char) :
      placeholder i ++ rest = '$' :: ((placeholder i).tail ++ rest) := rfl
  rw [hcons] at hhead ⊢
  rw [front, if_neg (by rwa [List.isPrefixOf_iff_prefix]), front_append (dollar_notMem_tail i)]
  rfl

/-- The head of what is in front of a place is that of the text. -/
lemma mem_head?_of_mem_head?_front {needle : List Char} {c : Char}
    (h : c ∈ (front needle text).head?) : c ∈ text.head? := by
  obtain ⟨rest, hrest⟩ := prefix_front_self needle text
  cases hfront : front needle text with
  | nil => simp [hfront] at h
  | cons d front =>
    rw [hfront] at hrest h
    rw [← hrest]
    exact h

/-- In front of a place, places are apart as they are in the whole.

**Proof sketch.** Induction on how the places are apart. At the place in question the text ends, and
what is in front of another place is followed by the same character as before, or by nothing. -/
lemma Spaced.front (h : Spaced text) (k : Nat) : Spaced (front (placeholder k) text) := by
  induction h with
  | nil => exact .nil
  | @char c text hc htext ih =>
    rw [← List.singleton_append, front_append (by simpa using Ne.symm hc)]
    exact .append (by simpa using Ne.symm hc) ih
  | @place i text hnext htext ih =>
    by_cases hk : k = i
    · subst hk
      have hnil : Verdict.front (placeholder k) (placeholder k ++ text) = [] := by
        have hcons : placeholder k ++ text = '$' :: ((placeholder k).tail ++ text) := rfl
        have hhead := List.prefix_append (placeholder k) text
        rw [hcons] at hhead ⊢
        rw [Verdict.front, if_pos (by rwa [List.isPrefixOf_iff_prefix])]
      rw [hnil]
      exact .nil
    · rw [front_placeholder_append hk]
      exact .place i (fun c hc => hnext c (mem_head?_of_mem_head?_front hc)) ih

/-- The head of a text with places apart is kept, if it is not in a place. -/
lemma head?_fill (hnext : ∀ c ∈ text.head?, inPlace c = false) (slots : Slots) :
    (fill slots text).head? = text.head? := by
  cases text with
  | nil => rw [fill]
  | cons c text =>
    have hc : c ≠ '$' := by
      rintro rfl
      exact absurd (hnext _ rfl) (by decide)
    rw [← List.singleton_append, fill_append_of_dollar_notMem (by simpa using Ne.symm hc)]
    rfl

/-- A place that is neither in the text nor in an argument for the text is not in what is made of
them.

**Proof sketch.** Induction on the text. The place starts with a dollar sign, so it does not start
at another character. A place of the text, or the argument that is put there, is followed by a
character that is in no place; so the place is in front of this character or behind it. -/
lemma Spaced.not_infix_fill (h : Spaced text) (hplace : ¬placeholder k <:+: text)
    (harg : ∀ slot ∈ slots, placeholder slot.2 <:+: text → ¬placeholder k <:+: slot.1.toList) :
    ¬placeholder k <:+: fill slots text := by
  induction h generalizing slots with
  | nil => simpa [fill] using placeholder_ne_nil k
  | @char c text hc htext ih =>
    rw [← List.singleton_append, fill_append_of_dollar_notMem (by simpa using Ne.symm hc),
      List.singleton_append, List.infix_cons_iff, not_or]
    have htail {i : Nat} (hi : placeholder i <:+: text) : placeholder i <:+: c :: text :=
      hi.trans (List.suffix_cons c text).isInfix
    refine ⟨?_, ih (mt htail hplace) fun slot hslot hi => harg slot hslot (htail hi)⟩
    rintro ⟨rest, hrest⟩
    exact hc (List.cons.inj hrest).1.symm
  | @place i text hnext htext ih =>
    have htail {i' : Nat} (hi : placeholder i' <:+: text) :
        placeholder i' <:+: placeholder i ++ text := hi.trans (List.suffix_append _ _).isInfix
    have hapart (slots : Slots) : ∀ c ∈ (fill slots text).head?, c ∉ (placeholder k).tail := by
      rw [head?_fill hnext]
      exact fun c hc => notMem_tail_of_not_inPlace (hnext c hc) k
    cases hfind : slots.find? fun slot => slot.2 = i with
    | some slot =>
      have hi : slot.2 = i := by simpa using List.find?_some hfind
      rw [fill_placeholder_of_find hfind]
      intro hin
      rcases placeholder_infix_of_append (hapart _) hin with hin | hin
      · refine harg slot (List.mem_of_find?_eq_some hfind) ?_ hin
        rw [hi]
        exact (List.prefix_append _ _).isInfix
      · refine ih (mt htail hplace) (fun other hother hi' => ?_) hin
        exact harg other (List.mem_of_mem_filter hother) (htail hi')
    | none =>
      have hfree : slots.Free i := by simpa [Slots.Free] using List.find?_eq_none.mp hfind
      have hki : k ≠ i := by
        rintro rfl
        exact hplace (List.prefix_append _ _).isInfix
      rw [fill_placeholder_of_free hfree, placeholder_infix_placeholder_append_iff hki]
      exact ih (mt htail hplace) fun slot hslot hi' => harg slot hslot (htail hi')

/-- Where places are apart, untangled arguments are undisturbed.

**Proof sketch.** The place does not occur in front of its first occurrence in the template, and
these arguments do not have it, as they come earlier and have places in front. So it is not in the
text made of both (`Spaced.not_infix_fill`). -/
lemma undisturbed_of_spaced {template : String} {args : List String}
    (hspaced : Spaced template.toList) (h : Untangled template args) :
    Undisturbed template args := by
  intro k hk
  refine (hspaced.front k).not_infix_fill (not_infix_front k _) fun slot hslot hplace => ?_
  have hmem : slot ∈ args.zipIdx := by
    rw [← List.take_append_drop k args, List.zipIdx_append]
    exact List.mem_append_left _ hslot
  have hlt : slot.2 < k := by
    have := List.snd_lt_of_mem_zipIdx hslot
    rw [List.length_take] at this
    omega
  exact h slot hmem (hplace.trans (prefix_front_self _ _).isInfix) k hk hlt

/-! ### The built-in templates -/

/-- A template of the place of the module, another place, some words and maybe the place of the
parameter has its places apart, if the words start with a blank.

**Proof sketch.** The two places are followed by blanks, and the one at the end by nothing. -/
lemma spaced_of_words {template : String} (i : Nat) (words : String) {rest : List Char}
    (hwords : '$' ∉ words.toList) (hblank : words.toList.head? = some ' ')
    (hrest : rest = [] ∨ rest = placeholder 3)
    (h : template.toList =
      placeholder 0 ++ (" ".toList ++ (placeholder i ++ (words.toList ++ rest)))) :
    Spaced template.toList := by
  have hspaced : Spaced rest := by
    rcases hrest with rfl | rfl
    · exact .nil
    · rw [← List.append_nil (placeholder 3)]
      exact .place 3 (by simp) .nil
  have hne : words.toList ≠ [] := by
    rintro hnil
    simp [hnil] at hblank
  rw [h]
  refine .place 0 (by rintro c ⟨⟩; rfl) (.append (by decide) (.place i ?_ (.append hwords hspaced)))
  rw [List.head?_append_of_ne_nil _ hne, hblank]
  rintro c ⟨⟩
  rfl

/-- The templates of the built-in rules have their places apart.

**Proof sketch.** There are seven templates, each with the place of the module, that of the value or
the field, and words that start with a blank. Four of them have the place of the parameter at the
end. -/
lemma Messages.spaced_builtin {rule template : String}
    (h : Messages.builtin.get? rule = some template) : Spaced template.toList := by
  have htemplates : Messages.builtin.map (·.2) =
      ["$\x7b0\x7d $\x7b2\x7d is not a valid e-mail address",
        "$\x7b0\x7d $\x7b2\x7d is not contained within the list $\x7b3\x7d",
        "$\x7b0\x7d $\x7b2\x7d should be in size $\x7b3\x7d",
        "$\x7b0\x7d $\x7b2\x7d exceeds maximum value $\x7b3\x7d",
        "$\x7b0\x7d $\x7b2\x7d is less than minimum value $\x7b3\x7d",
        "$\x7b0\x7d $\x7b2\x7d is not a valid data",
        "$\x7b0\x7d $\x7b1\x7d cannot be blank"] := by decide +kernel
  have hmem : template ∈ Messages.builtin.map (·.2) := List.mem_map_of_mem (Table.mem_of_get? h)
  rw [htemplates] at hmem
  simp only [List.mem_cons, List.not_mem_nil, or_false] at hmem
  rcases hmem with rfl | rfl | rfl | rfl | rfl | rfl | rfl
  · exact spaced_of_words 2 " is not a valid e-mail address" (by decide) (by decide) (.inl rfl)
      (by decide +kernel)
  · exact spaced_of_words 2 " is not contained within the list " (by decide) (by decide) (.inr rfl)
      (by decide +kernel)
  · exact spaced_of_words 2 " should be in size " (by decide) (by decide) (.inr rfl)
      (by decide +kernel)
  · exact spaced_of_words 2 " exceeds maximum value " (by decide) (by decide) (.inr rfl)
      (by decide +kernel)
  · exact spaced_of_words 2 " is less than minimum value " (by decide) (by decide) (.inr rfl)
      (by decide +kernel)
  · exact spaced_of_words 2 " is not a valid data" (by decide) (by decide) (.inl rfl)
      (by decide +kernel)
  · exact spaced_of_words 1 " cannot be blank" (by decide) (by decide) (.inl rfl)
      (by decide +kernel)

/-! ### Messages -/

section Messages

variable {ρ : Type} [HasFields ρ]

/-- The message of a rule that fails is made of a default template, if neither of the localized
templates that come before it is there. -/
lemma Scope.resolve_of_default (s : Scope ρ) (field : String) (tag : Tag ρ) (value : Value ρ)
    {template : String} (hdefault : s.defaults.get? tag.name = some template)
    (hmissing : s.lang?.isSome = true →
      s.messages.get? (s.module ++ "." ++ field ++ ".error." ++ tag.name) = none ∧
        s.messages.get? ("default.error." ++ tag.name) = none) :
    s.resolve field tag value =
      .message (formatMessage template [s.module, field, value.text, tag.param]) := by
  rw [resolve, resolveMessage]
  cases hlang : s.lang? with
  | none => simp [Messages.format?, hdefault]
  | some lang =>
    obtain ⟨hfield, hany⟩ := hmissing (by rw [hlang]; rfl)
    simp [Messages.format?, hdefault, hfield, hany]

/-- **Arguments are put into a template one after the other**, each at the first occurrence of its
place in the message made so far. If no argument goes to a place that the template does not have
there, then all are put in as they are: the message is the template in which the first occurrence of
each place is replaced, and nothing else. This is so for the message of a rule with a built-in
template, if no argument that the template has a place for has the place of a later one in it; so
whatever characters are in the parameter, which comes last, and whatever else is in the value.

**Proof sketch.** The first law is that of one more argument (`formatMessage_concat`), and the
second `formatMessage_of_undisturbed`. The template of a rule that is built in has its places apart
(`Messages.spaced_builtin`), so arguments that are untangled are undisturbed. -/
theorem formatMessage_verbatim :
    (∀ template, formatMessage template [] = template ∧
        ∀ args arg, FirstReplaced (placeholder args.length) arg.toList
          (formatMessage template args).toList (formatMessage template (args ++ [arg])).toList) ∧
      (∀ template args, Undisturbed template args →
        formatMessage template args = verbatim template args) ∧
      ∀ (s : Scope ρ) (field : String) (tag : Tag ρ) (value : Value ρ) (template : String),
        s.defaults = .builtin → s.defaults.get? tag.name = some template →
          (s.lang?.isSome = true →
            s.messages.get? (s.module ++ "." ++ field ++ ".error." ++ tag.name) = none ∧
              s.messages.get? ("default.error." ++ tag.name) = none) →
          Untangled template [s.module, field, value.text, tag.param] →
            s.resolve field tag value =
              .message (verbatim template [s.module, field, value.text, tag.param]) := by
  refine ⟨fun template => ⟨formatMessage_nil template, formatMessage_concat template⟩,
    fun template args h => formatMessage_of_undisturbed h, ?_⟩
  intro s field tag value template hdefaults htemplate hmissing huntangled
  have hspaced : Spaced template.toList := Messages.spaced_builtin (hdefaults ▸ htemplate)
  rw [s.resolve_of_default field tag value htemplate hmissing,
    formatMessage_of_undisturbed (undisturbed_of_spaced hspaced huntangled)]

/-- Places in the value and in the parameter are kept, if they are not those of later arguments; and
so is a second occurrence of a place in the template. -/
theorem formatMessage_places_kept :
    let s : Scope Record := (Validator.new "User").scope
    let tag : Tag Record := ⟨"min", "$\x7b0\x7d$\x7b3\x7d", ⟨3, Rule.min⟩⟩
    let value : Value Record := .str "$\x7b0\x7d$\x7b2\x7d"
    formatMessage "$\x7b1\x7d $\x7b0\x7d $\x7b0\x7d" ["a", "$\x7b1\x7d"] =
        "$\x7b1\x7d a $\x7b0\x7d" ∧
      s.resolve "Name" tag value =
        .message "User $\x7b0\x7d$\x7b2\x7d is less than minimum value $\x7b0\x7d$\x7b3\x7d" := by
  intro s tag value
  have hlaws := formatMessage_verbatim (ρ := Record)
  refine ⟨?_, ?_⟩
  · rw [hlaws.2.1 _ _ (by decide +kernel)]
    decide +kernel
  · rw [hlaws.2.2 s "Name" tag value "$\x7b0\x7d $\x7b2\x7d is less than minimum value $\x7b3\x7d"
      rfl (by decide +kernel) (by simp [s, Validator.new]) (by decide +kernel)]
    decide +kernel

/-- A place in an argument takes a later argument, and so does a place that an argument forms with
the text around it. In the message of a built-in rule, a value with the place of the parameter is
lost. -/
theorem formatMessage_disturbed :
    let s : Scope Record := (Validator.new "User").scope
    let tag : Tag Record := ⟨"email", "", ⟨4, Rule.email⟩⟩
    (formatMessage "$\x7b0\x7d" ["$\x7b1\x7d", "b"] = "b" ∧
        verbatim "$\x7b0\x7d" ["$\x7b1\x7d", "b"] = "$\x7b1\x7d") ∧
      (formatMessage "$\x7b$\x7b0\x7d\x7d" ["1", "b"] = "b" ∧
        verbatim "$\x7b$\x7b0\x7d\x7d" ["1", "b"] = "$\x7b1\x7d") ∧
      s.resolve "Mail" tag (.str "$\x7b3\x7d") = .message "User  is not a valid e-mail address" ∧
        verbatim "$\x7b0\x7d $\x7b2\x7d is not a valid e-mail address"
          ["User", "Mail", "$\x7b3\x7d", ""] = "User $\x7b3\x7d is not a valid e-mail address" := by
  decide +kernel

end Messages

end Verdict
