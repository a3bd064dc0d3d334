import Mathlib.Data.List.Chain
import Verdict.Proofs.Pattern.Context
import Verdict.Rule.Builtin

/-!
# E-mail addresses by a scan

The pattern of addresses repeats labels that may hold dots themselves, so that it matches one text
in many ways. What it accepts can be told by looking at the text once from left to right.

## Main definitions

* `Verdict.Email.IsLocal` — words separated by single dots.
* `Verdict.Email.IsHost` — dotted host names.
* `Verdict.Email.IsAddress` — addresses, with an optional dot at the end.

## Main results

* `Verdict.Email.denotes_localPart`, `Verdict.Email.denotes_host` — what the two parts of the
  pattern match.
* `Verdict.Email.email_valid_iff` — the rule is satisfied by just these addresses.
-/

namespace Verdict.Email

open Pattern

/-! ### Characters -/

/-- Characters beyond ASCII that an address may hold. -/
def IsInternational (c : Char) : Prop :=
  (0xA0 ≤ c.toNat ∧ c.toNat ≤ 0xD7FF) ∨ (0xF900 ≤ c.toNat ∧ c.toNat ≤ 0xFDCF) ∨
    (0xFDF0 ≤ c.toNat ∧ c.toNat ≤ 0xFFEF)

/-- Letters. -/
def IsLetter (c : Char) : Prop :=
  ('a' ≤ c ∧ c ≤ 'z') ∨ ('A' ≤ c ∧ c ≤ 'Z') ∨ IsInternational c

/-- Letters and digits. -/
def IsAlphanumeric (c : Char) : Prop := IsLetter c ∨ ('0' ≤ c ∧ c ≤ '9')

/-- What a host name is made of. -/
def IsHostChar (c : Char) : Prop := IsAlphanumeric c ∨ c ∈ ['.', '_', '~', '-']

/-- What a word before the at sign is made of. -/
def IsWordChar (c : Char) : Prop :=
  IsAlphanumeric c ∨ c ∈ "!#$%&'*+/=?^_\u0060\x7b|\x7d~-".toList

instance : DecidablePred IsInternational := fun _ =>
  inferInstanceAs (Decidable (_ ∨ _ ∨ _))

instance : DecidablePred IsLetter := fun _ =>
  inferInstanceAs (Decidable (_ ∨ _ ∨ _))

instance : DecidablePred IsAlphanumeric := fun _ =>
  inferInstanceAs (Decidable (_ ∨ _))

instance : DecidablePred IsHostChar := fun _ =>
  inferInstanceAs (Decidable (_ ∨ _))

instance : DecidablePred IsWordChar := fun _ =>
  inferInstanceAs (Decidable (_ ∨ _))

variable {c : Char}

/-- The first class of the pattern holds the international characters. -/
lemma contains_international_iff : international.contains c = true ↔ IsInternational c := by
  simp [international, Text.CharSet.contains, Text.CharSet.containsCode, IsInternational]

/-- The class for letters holds the letters. -/
lemma contains_letters_iff : letters.contains c = true ↔ IsLetter c := by
  simp [letters, contains_international_iff, IsLetter]

/-- The class for letters and digits holds these. -/
lemma contains_alphanumerics_iff : alphanumerics.contains c = true ↔ IsAlphanumeric c := by
  simp [alphanumerics, contains_letters_iff, IsAlphanumeric]

/-- A class that lists its characters holds the ones that are listed. -/
lemma contains_listed_iff {chars : String} :
    (listed chars).contains c = true ↔ c ∈ chars.toList := by
  simp [listed]

/-- The class inside labels holds the characters of host names. -/
lemma contains_labelChars_iff : labelChars.contains c = true ↔ IsHostChar c := by
  simp [labelChars, contains_alphanumerics_iff, contains_listed_iff, IsHostChar]

/-- The class before the at sign holds the characters of words. -/
lemma contains_localChars_iff : localChars.contains c = true ↔ IsWordChar c := by
  rw [localChars, Text.CharSet.contains_union, contains_alphanumerics_iff, contains_listed_iff,
    IsWordChar]

/-- A dot is no character of a word. -/
lemma IsWordChar.ne_dot (h : IsWordChar c) : c ≠ '.' := by
  rintro rfl
  revert h
  decide

/-- A dot is no letter. -/
lemma IsLetter.ne_dot (h : IsLetter c) : c ≠ '.' := by
  rintro rfl
  revert h
  decide

/-- Letters are letters or digits. -/
lemma IsLetter.isAlphanumeric (h : IsLetter c) : IsAlphanumeric c := .inl h

/-- Letters and digits may stand in a host name. -/
lemma IsAlphanumeric.isHostChar (h : IsAlphanumeric c) : IsHostChar c := .inl h

/-! ### Words separated by dots -/

/-- Text that no dot starts or ends, and in which no two dots stand together. -/
structure IsLocal (cs : List Char) : Prop where
  ne_nil : cs ≠ []
  chars : ∀ c ∈ cs, IsWordChar c ∨ c = '.'
  head_ne : cs.head? ≠ some '.'
  last_ne : cs.getLast? ≠ some '.'
  dots_apart : cs.IsChain fun a b => a ≠ '.' ∨ b ≠ '.'

/-- Some characters of words, and at least one. -/
def IsWord (cs : List Char) : Prop := cs ≠ [] ∧ ∀ c ∈ cs, IsWordChar c

variable {cs : List Char}

/-- A word does not end in a dot. -/
lemma IsWord.getLast_ne (h : IsWord cs) : cs.getLast? ≠ some '.' := by
  intro hlast
  exact (h.2 '.' (List.mem_of_getLast? hlast)).ne_dot rfl

/-- A word does not start with a dot. -/
lemma IsWord.head_ne (h : IsWord cs) : cs.head? ≠ some '.' := by
  intro hhead
  exact (h.2 '.' (List.mem_of_head? hhead)).ne_dot rfl

/-- In a word no two dots stand together, as there are none. -/
lemma IsWord.dots_apart (h : IsWord cs) : cs.IsChain fun a b => a ≠ '.' ∨ b ≠ '.' := by
  refine List.Pairwise.isChain (List.pairwise_of_forall_mem_list ?_)
  intro a ha b _
  exact .inl (h.2 a ha).ne_dot

/-- A word alone is words separated by single dots. -/
lemma IsWord.isLocal (h : IsWord cs) : IsLocal cs where
  ne_nil := h.1
  chars c hc := .inl (h.2 c hc)
  head_ne := h.head_ne
  last_ne := h.getLast_ne
  dots_apart := h.dots_apart

/-- A further word after a dot.

**Proof sketch.** What starts and ends the text is taken from the two parts, neither of which is
empty. On either side of the new dot stands another character, since the text before it does not end
in a dot and the word does not start with one. -/
lemma IsLocal.append_word {word : List Char} (h : IsLocal cs) (hword : IsWord word) :
    IsLocal (cs ++ '.' :: word) where
  ne_nil := by simp
  chars := by
    intro c hc
    rcases List.mem_append.mp hc with hc | hc
    · exact h.chars c hc
    · rcases List.mem_cons.mp hc with rfl | hc
      · exact .inr rfl
      · exact .inl (hword.2 c hc)
  head_ne := by
    rw [List.head?_append_of_ne_nil _ h.ne_nil]
    exact h.head_ne
  last_ne := by
    rw [List.getLast?_append_of_ne_nil _ (by simp), List.getLast?_cons_of_ne_nil hword.1]
    exact hword.getLast_ne
  dots_apart := by
    refine List.isChain_append.mpr ⟨h.dots_apart, List.isChain_cons.mpr ⟨?_, hword.dots_apart⟩, ?_⟩
    · rintro b hb
      exact .inr fun hdot => hword.head_ne (hdot ▸ hb)
    · rintro a ha b -
      exact .inl fun hdot => h.last_ne (hdot ▸ ha)

/-- Where no two dots stand together and none ends the text, it is a word, which is missing only if
the text starts with a dot or has no characters, and further words with a dot before each.

**Proof sketch.** Induction on the text. A character of a word is put in front of the first word. A
dot starts a further word, and this is there, as neither a dot nor the end follows. -/
lemma exists_words (hchars : ∀ c ∈ cs, IsWordChar c ∨ c = '.') (hlast : cs.getLast? ≠ some '.')
    (hdots : cs.IsChain fun a b => a ≠ '.' ∨ b ≠ '.') :
    ∃ (word : List Char) (words : List (List Char)),
      cs = word ++ (words.map ('.' :: ·)).flatten ∧ (∀ c ∈ word, IsWordChar c) ∧
      (∀ w ∈ words, IsWord w) ∧ (word = [] → cs = [] ∨ cs.head? = some '.') := by
  induction cs with
  | nil => exact ⟨[], [], rfl, by simp, by simp, fun _ => .inl rfl⟩
  | cons c cs ih =>
    obtain ⟨hc, hrest⟩ := List.forall_mem_cons.mp hchars
    obtain ⟨hnext, hdots⟩ := List.isChain_cons.mp hdots
    have hlast' : cs.getLast? ≠ some '.' := by
      intro hdot
      refine hlast ?_
      rw [List.getLast?_cons, hdot, Option.getD_some]
    obtain ⟨word, words, hcs, hword, hwords, hempty⟩ := ih hrest hlast' hdots
    rcases hc with hc | rfl
    · exact ⟨c :: word, words, by rw [hcs, List.cons_append], List.forall_mem_cons.mpr ⟨hc, hword⟩,
        hwords, by simp⟩
    · have hne : word ≠ [] := by
        intro hnil
        rcases hempty hnil with rfl | hhead
        · exact hlast rfl
        · simpa using hnext '.' hhead
      refine ⟨[], word :: words, by rw [hcs]; simp, by simp, ?_, fun _ => .inr rfl⟩
      exact List.forall_mem_cons.mpr ⟨⟨hne, hword⟩, hwords⟩

/-- The texts before the at sign are words with single dots in between.

**Proof sketch.** `exists_words` cuts the text; its first word is there, as the text neither is
empty nor starts with a dot. For the converse the words are put behind the first one, one after the
other (`IsLocal.append_word`), by induction on their list. -/
lemma isLocal_iff : IsLocal cs ↔
    ∃ (word : List Char) (words : List (List Char)),
      cs = word ++ (words.map ('.' :: ·)).flatten ∧ IsWord word ∧ ∀ w ∈ words, IsWord w := by
  constructor
  · intro h
    obtain ⟨word, words, hcs, hword, hwords, hempty⟩ := exists_words h.chars h.last_ne h.dots_apart
    refine ⟨word, words, hcs, ⟨fun hnil => ?_, hword⟩, hwords⟩
    rcases hempty hnil with hnil | hhead
    · exact h.ne_nil hnil
    · exact h.head_ne hhead
  · rintro ⟨word, words, rfl, hword, hwords⟩
    -- what has been read so far has the shape as well, and each word is put behind it
    have hread : ∀ words : List (List Char), (∀ w ∈ words, IsWord w) → ∀ read, IsLocal read →
        IsLocal (read ++ (words.map ('.' :: ·)).flatten) := by
      intro words
      induction words with
      | nil =>
        intro _ read hlocal
        simpa using hlocal
      | cons next words ih =>
        intro hwords read hlocal
        obtain ⟨hnext, hwords⟩ := List.forall_mem_cons.mp hwords
        have hstep := ih hwords (read ++ '.' :: next) (hlocal.append_word hnext)
        rwa [List.append_assoc] at hstep
    exact hread words hwords word hword.isLocal

/-- The first part of the pattern.

**Proof sketch.** The pattern is a word, and then any number of words with a dot before each. What
it matches is put together from what its parts match, and this is the right-hand side of
`isLocal_iff`, where the pieces behind the first word are named by their words. -/
lemma denotes_localPart : localPart.Denotes IsLocal := by
  have hword : (plus (chars localChars)).Denotes IsWord :=
    (denotes_plus_chars localChars).congr fun cs => by
      simp only [IsWord, contains_localChars_iff]
  have hdotted : (seq (char '.') (plus (chars localChars))).Denotes
      fun cs => ∃ word, cs = '.' :: word ∧ IsWord word :=
    ((denotes_char '.').seq hword).congr fun cs => by simp
  refine (hword.seq hdotted.star).congr fun cs => ?_
  rw [isLocal_iff]
  constructor
  · rintro ⟨word, _, rfl, hword, parts, rfl, hparts⟩
    choose! words hwords using hparts
    refine ⟨word, parts.map words, ?_, hword, ?_⟩
    · rw [List.map_map, List.map_congr_left (g := id), List.map_id]
      intro part hpart
      exact (hwords part hpart).1.symm
    · intro w hw
      obtain ⟨part, hpart, rfl⟩ := List.mem_map.mp hw
      exact (hwords part hpart).2
  · rintro ⟨word, words, rfl, hword, hwords⟩
    refine ⟨word, _, rfl, hword, words.map ('.' :: ·), rfl, ?_⟩
    intro part hpart
    obtain ⟨w, hw, rfl⟩ := List.mem_map.mp hpart
    exact ⟨w, rfl, hwords w hw⟩

/-! ### Host names -/

/-- Text from a letter or digit to a letter, with a dot somewhere that a letter or digit precedes
and a letter follows. -/
structure IsHost (cs : List Char) : Prop where
  ne_nil : cs ≠ []
  chars : ∀ c ∈ cs, IsHostChar c
  head : ∀ c ∈ cs.head?, IsAlphanumeric c
  last : ∀ c ∈ cs.getLast?, IsLetter c
  dotted : ∃ a b, IsAlphanumeric a ∧ IsLetter b ∧ [a, '.', b] <:+: cs

/-- A label is not empty, and certain characters stand at its ends. -/
def IsLabel (ends : Char → Prop) (cs : List Char) : Prop :=
  cs ≠ [] ∧ (∀ c ∈ cs, IsHostChar c) ∧ (∀ c ∈ cs.head?, ends c) ∧ ∀ c ∈ cs.getLast?, ends c

/-- A label, with what its ends are taken from.

**Proof sketch.** The pattern is a character from the set, and then optionally characters of host
names and one more from the set. A text of one character is the case without the optional part; a
longer one is cut at its first and at its last character. -/
lemma denotes_label {set : Text.CharSet} {ends : Char → Prop}
    (hset : ∀ c, set.contains c = true ↔ ends c) (hends : ∀ c, ends c → IsHostChar c) :
    (label set).Denotes (IsLabel ends) := by
  have hend : (chars set).Denotes fun cs => ∃ c, ends c ∧ cs = [c] :=
    (denotes_chars set).congr fun cs => by simp only [hset]
  have hmiddle : (star (chars labelChars)).Denotes fun cs => ∀ c ∈ cs, IsHostChar c :=
    (denotes_star_chars labelChars).congr fun cs => by simp only [contains_labelChars_iff]
  refine (hend.seq (hmiddle.seq hend).opt).congr fun cs => ?_
  constructor
  · rintro ⟨_, right, rfl, ⟨first, hfirst, rfl⟩, rfl | ⟨middle, _, rfl, hmid, last, hlast, rfl⟩⟩
    · simp [IsLabel, hfirst, hends first hfirst]
    · refine ⟨by simp, ?_, by simpa using hfirst, ?_⟩
      · simp only [List.mem_append, List.mem_singleton]
        rintro c (rfl | hc | rfl)
        · exact hends c hfirst
        · exact hmid c hc
        · exact hends c hlast
      · rw [← List.append_assoc, List.getLast?_concat]
        simpa using hlast
  · rintro ⟨hne, hchars, hhead, hlast⟩
    obtain ⟨first, rest, rfl⟩ := List.exists_cons_of_ne_nil hne
    refine ⟨[first], rest, rfl, ⟨first, hhead first rfl, rfl⟩, ?_⟩
    rcases List.eq_nil_or_concat' rest with rfl | ⟨middle, last, rfl⟩
    · exact .inl rfl
    · refine .inr ⟨middle, [last], rfl, fun c hc => hchars c ?_, last, hlast last ?_, rfl⟩
      · simp [hc]
      · rw [← List.cons_append, List.getLast?_concat]
        rfl

/-- A label that a dot follows. -/
def IsDotted (cs : List Char) : Prop := ∃ name, cs = name ++ ['.'] ∧ IsLabel IsAlphanumeric name

/-- Labels with a dot after each consist of characters of host names, begin with a letter or digit,
and end with one and a dot.

**Proof sketch.** The first character is that of the first label, and the end is that of the last
label with its dot. All others are in some label, or are dots. -/
lemma dotted_flatten {parts : List (List Char)} (hne : parts ≠ [])
    (hparts : ∀ part ∈ parts, IsDotted part) :
    (∀ c ∈ parts.flatten, IsHostChar c) ∧ (∀ c ∈ parts.flatten.head?, IsAlphanumeric c) ∧
      ∃ front a, IsAlphanumeric a ∧ parts.flatten = front ++ [a, '.'] := by
  refine ⟨?_, ?_, ?_⟩
  · intro c hc
    obtain ⟨part, hpart, hc⟩ := List.mem_flatten.mp hc
    obtain ⟨name, rfl, hname⟩ := hparts part hpart
    rcases List.mem_append.mp hc with hc | hc
    · exact hname.2.1 c hc
    · obtain rfl := List.mem_singleton.mp hc
      decide
  · obtain ⟨part, rest, rfl⟩ := List.exists_cons_of_ne_nil hne
    obtain ⟨name, rfl, hname⟩ := hparts part List.mem_cons_self
    rw [List.flatten_cons, List.append_assoc, List.head?_append_of_ne_nil _ hname.1]
    exact hname.2.2.1
  · obtain rfl | ⟨front, part, rfl⟩ := List.eq_nil_or_concat' parts
    · exact absurd rfl hne
    · obtain ⟨name, rfl, hname⟩ := hparts part (by simp)
      obtain ⟨name, a, rfl⟩ := (List.eq_nil_or_concat' name).resolve_left hname.1
      refine ⟨front.flatten ++ name, a, hname.2.2.2 a (by simp), by simp⟩

/-- The second part of the pattern. However many labels the text may be cut into, two are enough:
the front one may hold all dots but the last.

**Proof sketch.** The last of the dotted labels and the first character of the label behind it give
the dot between them. For the converse what stands before such a dot is one label, and what stands
after it another. -/
lemma denotes_host : host.Denotes IsHost := by
  have hdotted : (seq (label alphanumerics) (char '.')).Denotes IsDotted :=
    ((denotes_label (fun _ => contains_alphanumerics_iff) fun _ => IsAlphanumeric.isHostChar).seq
      (denotes_char '.')).congr fun cs => by
        constructor
        · rintro ⟨name, _, rfl, hname, rfl⟩
          exact ⟨name, rfl, hname⟩
        · rintro ⟨name, rfl, hname⟩
          exact ⟨name, _, rfl, hname, rfl⟩
  have hlast : (label letters).Denotes (IsLabel IsLetter) :=
    denotes_label (fun _ => contains_letters_iff) fun _ h => h.isAlphanumeric.isHostChar
  refine (hdotted.plus.seq hlast).congr fun cs => ?_
  constructor
  · rintro ⟨_, last, rfl, ⟨parts, hne, rfl, hparts⟩, hlast⟩
    obtain ⟨hchars, hhead, front, a, ha, hfront⟩ := dotted_flatten hne hparts
    obtain ⟨b, rest, rfl⟩ := List.exists_cons_of_ne_nil hlast.1
    rw [hfront] at hchars hhead ⊢
    constructor
    · simp
    · intro c hc
      rcases List.mem_append.mp hc with hc | hc
      · exact hchars c hc
      · exact hlast.2.1 c hc
    · rwa [List.head?_append_of_ne_nil _ (by simp)]
    · rw [List.getLast?_append_of_ne_nil _ (by simp)]
      exact hlast.2.2.2
    · exact ⟨a, b, ha, hlast.2.2.1 b rfl, front, rest, by simp⟩
  · rintro ⟨-, hchars, hhead, hend, a, b, ha, hb, front, rest, rfl⟩
    -- one label holds all that is in front of the dot, further dots included
    have hfirst : front ++ [a, '.', b] ++ rest = (front ++ [a]) ++ '.' :: b :: rest := by simp
    have hsecond : front ++ [a, '.', b] ++ rest = (front ++ [a, '.']) ++ b :: rest := by simp
    rw [hfirst, List.head?_append_of_ne_nil _ (by simp)] at hhead
    rw [hsecond, List.getLast?_append_of_ne_nil _ (by simp)] at hend
    refine ⟨front ++ [a, '.'], b :: rest, hsecond, ⟨[front ++ [a, '.']], by simp, by simp, ?_⟩, ?_⟩
    · intro part hpart
      obtain rfl := List.mem_singleton.mp hpart
      refine ⟨front ++ [a], by simp, by simp, fun c hc => hchars c ?_, hhead, ?_⟩
      · rw [hfirst]
        exact List.mem_append_left _ hc
      · intro c hc
        rw [List.getLast?_concat] at hc
        obtain rfl := Option.some.inj hc
        exact ha
    · refine ⟨by simp, fun c hc => hchars c ?_, ?_, hend⟩
      · rw [hsecond]
        exact List.mem_append_right _ hc
      · intro c hc
        obtain rfl := Option.some.inj hc
        exact hb

/-! ### Addresses -/

/-- Text less a dot at its end. -/
def withoutFinalDot (cs : List Char) : List Char :=
  if cs.getLast? = some '.' then cs.dropLast else cs

/-- An address has one at sign, words before it, and after it a host name, which may be followed by
a dot. -/
def IsAddress (cs : List Char) : Prop :=
  ∃ before after, cs = before ++ '@' :: after ∧ '@' ∉ before ∧ '@' ∉ after ∧ IsLocal before ∧
    IsHost (withoutFinalDot after)

/-- There is no at sign in the first part of an address. -/
lemma IsLocal.at_not_mem (h : IsLocal cs) : '@' ∉ cs := by
  intro hat
  have hchar := h.chars '@' hat
  revert hchar
  decide

/-- There is no at sign in a host name. -/
lemma IsHost.at_not_mem (h : IsHost cs) : '@' ∉ cs := by
  intro hat
  have hchar := h.chars '@' hat
  revert hchar
  decide

/-- A host name does not end in a dot. -/
lemma IsHost.getLast_ne (h : IsHost cs) : cs.getLast? ≠ some '.' :=
  fun hdot => (h.last '.' hdot).ne_dot rfl

/-- A host name that a dot may follow.

**Proof sketch.** A text that ends in a dot is cut before it. As a host name does not end in a dot
itself (`IsHost.getLast_ne`), the dot that is taken away is the one that was put behind it. -/
lemma isHost_withoutFinalDot_iff : IsHost (withoutFinalDot cs) ↔
    ∃ name dot, cs = name ++ dot ∧ IsHost name ∧ (dot = [] ∨ dot = ['.']) := by
  constructor
  · intro h
    rw [withoutFinalDot] at h
    split_ifs at h with hdot
    · refine ⟨cs.dropLast, ['.'], ?_, h, .inr rfl⟩
      exact (List.dropLast_append_getLast? '.' hdot).symm
    · exact ⟨cs, [], (List.append_nil cs).symm, h, .inl rfl⟩
  · rintro ⟨name, _, rfl, hname, rfl | rfl⟩
    · rwa [List.append_nil, withoutFinalDot, if_neg hname.getLast_ne]
    · rwa [withoutFinalDot, if_pos (by simp), List.dropLast_concat]

/-- The whole pattern matches all of an address, and nothing else.

**Proof sketch.** The pattern is a sequence of six parts, and what each of them matches is known; so
a match is a text before the at sign, a host name and maybe a dot. This is an address, because none
of the three holds an at sign. -/
lemma matches_emailPattern_iff {before within after : List Char} :
    emailPattern.Matches before within after ↔ before = [] ∧ after = [] ∧ IsAddress within := by
  have hparts : emailPattern.Matches before within after ↔ before = [] ∧ after = [] ∧
      ∃ name domain dot, within = name ++ '@' :: (domain ++ dot) ∧ IsLocal name ∧ IsHost domain ∧
        (dot = [] ∨ dot = ['.']) := by
    simp only [emailPattern, concat, matches_seq_iff, matches_textStart_iff, matches_textEnd_iff,
      denotes_localPart _ _ _, denotes_host _ _ _, denotes_char _ _ _ _,
      (denotes_char '.').opt _ _ _]
    constructor
    · rintro ⟨_, _, rfl, ⟨rfl, rfl⟩, name, _, rfl, hname, _, _, rfl, rfl, domain, _, rfl, hdomain,
        dot, _, rfl, hdot, rfl, rfl⟩
      exact ⟨rfl, rfl, name, domain, dot, by simp, hname, hdomain, hdot⟩
    · rintro ⟨rfl, rfl, name, domain, dot, rfl, hname, hdomain, hdot⟩
      exact ⟨[], _, rfl, ⟨rfl, rfl⟩, name, _, rfl, hname, ['@'], _, rfl, rfl, domain, _, rfl,
        hdomain, dot, [], by simp, hdot, rfl, rfl⟩
  rw [hparts]
  refine and_congr_right' (and_congr_right' ?_)
  constructor
  · rintro ⟨name, domain, dot, rfl, hname, hdomain, hdot⟩
    refine ⟨name, domain ++ dot, rfl, hname.at_not_mem, ?_, hname,
      isHost_withoutFinalDot_iff.mpr ⟨domain, dot, rfl, hdomain, hdot⟩⟩
    intro hat
    rcases List.mem_append.mp hat with hat | hat
    · exact hdomain.at_not_mem hat
    · rcases hdot with rfl | rfl
      · exact List.not_mem_nil hat
      · exact absurd hat (by decide)
  · rintro ⟨name, rest, rfl, -, -, hname, hrest⟩
    obtain ⟨domain, dot, rfl, hdomain, hdot⟩ := isHost_withoutFinalDot_iff.mp hrest
    exact ⟨name, domain, dot, rfl, hname, hdomain, hdot⟩

/-- **The rule on texts is satisfied by addresses and by no other text.**

**Proof sketch.** The rule asks whether the pattern matches somewhere in the text. As it matches
only where nothing stands before and after, this is a match of all of the text. -/
theorem email_valid_iff {ρ : Type} (s param : String) :
    Rule.email (.str s : Value ρ) param = .valid ↔ IsAddress s.toList := by
  have hvalid : Rule.email (.str s : Value ρ) param = .valid ↔ emailPattern.isMatch s = true := by
    rw [Rule.email, isEmail]
    cases emailPattern.isMatch s <;> simp [Outcome.ofBool]
  rw [hvalid, isMatch_iff]
  simp only [matches_emailPattern_iff]
  constructor
  · rintro ⟨_, within, _, hs, rfl, rfl, hwithin⟩
    rwa [hs, List.nil_append, List.append_nil]
  · intro haddress
    exact ⟨[], s.toList, [], by simp, rfl, rfl, haddress⟩

end Verdict.Email
