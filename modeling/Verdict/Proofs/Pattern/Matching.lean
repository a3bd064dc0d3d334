import Mathlib.Data.List.Basic
import Verdict.Pattern.Matcher

/-!
# What a pattern matches

Which texts a pattern matches, between what stands before and after them in a larger text, said by
recursion over the pattern and without positions. The matcher, which sends sets of positions through
the pattern, finds exactly these.

## Main definitions

* `Verdict.Pattern.Placed` — properties of texts in their surroundings.
* `Verdict.Pattern.Placed.andThen`, `Verdict.Pattern.Placed.times` — one after the other, and one
  and the same a number of times.
* `Verdict.Pattern.Matches` — what a pattern matches.
* `Verdict.Pattern.Placed.Spans` — what has a property from one position to another.
* `Verdict.Pattern.InSteps` — positions that a number of steps leads to.

## Main results

* `Verdict.Pattern.mem_reach_iff` — the search finds what is within so many steps.
* `Verdict.Pattern.mem_ends_iff` — the matcher finds the ends of all matches.
* `Verdict.Pattern.isMatch_iff` — it tells whether some part of a text is matched.
-/

namespace Verdict.Pattern

/-! ### Matches -/

/-- A property of a text in its surroundings: of what stands before it, of itself, and of what
stands after it. -/
abbrev Placed := List Char → List Char → List Char → Prop

namespace Placed

/-- A text in two parts, of which the first has one property and the second another. -/
def andThen (first second : Placed) : Placed := fun before within after =>
  ∃ left right, within = left ++ right ∧ first before left (right ++ after) ∧
    second (before ++ left) right after

/-- A text in so many parts that all have a property. -/
def times (p : Placed) : Nat → Placed
  | 0 => fun _ within _ => within = []
  | n + 1 => p.andThen (p.times n)

end Placed

/-- What a pattern matches. A greatest number of repetitions below the least one allows for just as
many as this. -/
def Matches : Pattern → Placed
  | .empty => fun _ within _ => within = []
  | .chars set => fun _ within _ => ∃ c, set.contains c = true ∧ within = [c]
  | .assert a => fun before within after =>
    within = [] ∧ a.holds before.getLast? after.head? = true
  | .seq first second => first.Matches.andThen second.Matches
  | .alt first second => fun before within after =>
    first.Matches before within after ∨ second.Matches before within after
  | .repeated body least most => fun before within after =>
    ∃ n, least ≤ n ∧ (∀ m ∈ most, n ≤ max least m) ∧ body.Matches.times n before within after

/-! ### Positions -/

namespace Placed

/-- What stands in a text from one position to another has a property. -/
def Spans (p : Placed) (cs : List Char) (i j : Nat) : Prop :=
  ∃ before within after, cs = before ++ within ++ after ∧ i = before.length ∧
    j = (before ++ within).length ∧ p before within after

variable {p q : Placed} {cs : List Char} {i j : Nat}

/-- A span runs forward, and does not leave the text. -/
lemma Spans.bounds (h : p.Spans cs i j) : i ≤ j ∧ j ≤ cs.length := by
  obtain ⟨before, within, after, rfl, rfl, rfl, -⟩ := h
  simp

/-- A span in two parts is a span followed by a span.

**Proof sketch.** What comes before the first part and the part itself come before the second part.
Two spans that meet cut the text at the same position, so what comes behind the first is the second
part with what comes behind it. -/
lemma spans_andThen_iff :
    (p.andThen q).Spans cs i j ↔ ∃ k, p.Spans cs i k ∧ q.Spans cs k j := by
  constructor
  · rintro ⟨before, _, after, rfl, rfl, rfl, left, right, rfl, hp, hq⟩
    refine ⟨(before ++ left).length, ⟨before, left, right ++ after, by simp, rfl, rfl, hp⟩,
      before ++ left, right, after, by simp, rfl, by simp, hq⟩
  · rintro ⟨_, ⟨before, left, rest, rfl, rfl, rfl, hp⟩, ⟨before', right, after, hcs, hk, rfl, hq⟩⟩
    -- the second span starts where the first one ends
    obtain ⟨rfl, hrest⟩ := List.append_inj (hcs.trans (List.append_assoc before' right after)) hk
    subst hrest
    exact ⟨before, left ++ right, after, by simp, rfl, by simp, left, right, rfl, hp, hq⟩

/-- Nothing spans from a position to itself. -/
lemma spans_nil_iff : Spans (fun _ within _ => within = []) cs i j ↔ i = j ∧ j ≤ cs.length := by
  constructor
  · rintro ⟨before, _, after, rfl, rfl, rfl, rfl⟩
    simp
  · rintro ⟨rfl, hle⟩
    exact ⟨cs.take i, [], cs.drop i, by simp, by simp [hle], by simp [hle], rfl⟩

end Placed

/-! ### Steps -/

/-- A position leads to another in a number of steps. -/
def InSteps (step : Nat → Nat → Prop) : Nat → Nat → Nat → Prop
  | 0, i, j => i = j
  | n + 1, i, j => ∃ k, step i k ∧ InSteps step n k j

section Steps

variable {step : Nat → Nat → Prop}

/-- Some steps and then some more are as many steps as both together. -/
lemma inSteps_add_iff {m n i j : Nat} :
    InSteps step (m + n) i j ↔ ∃ k, InSteps step m i k ∧ InSteps step n k j := by
  induction m generalizing i with
  | zero => simp [InSteps]
  | succ m ih =>
    rw [Nat.succ_add_eq_add_succ, Nat.add_succ]
    simp only [InSteps, ih]
    constructor
    · rintro ⟨l, hl, k, hk, hj⟩
      exact ⟨k, ⟨l, hl, hk⟩, hj⟩
    · rintro ⟨k, ⟨l, hl, hk⟩, hj⟩
      exact ⟨l, hl, k, hk, hj⟩

/-- Steps that do not leave a range lead to its members from its members. -/
lemma InSteps.le {size : Nat} (hbound : ∀ i j, step i j → j ≤ size) {n i j : Nat} (hi : i ≤ size)
    (h : InSteps step n i j) : j ≤ size := by
  induction n generalizing i with
  | zero =>
    obtain rfl : i = j := h
    exact hi
  | succ n ih =>
    obtain ⟨k, hik, hkj⟩ := h
    exact ih (hbound i k hik) hkj

/-- Where steps run forward, those that stay in their place can be left out.

**Proof sketch.** Induction on the number of steps. A first step that stays is dropped. One that
does not leaves less of the way, so that it is paid for by the distance. -/
lemma InSteps.exists_le (hforward : ∀ i j, step i j → i ≤ j) {n i j : Nat}
    (h : InSteps step n i j) : i ≤ j ∧ ∃ m ≤ n, m ≤ j - i ∧ InSteps step m i j := by
  induction n generalizing i with
  | zero =>
    obtain rfl : i = j := h
    exact ⟨Nat.le_refl i, 0, Nat.le_refl 0, by omega, rfl⟩
  | succ n ih =>
    obtain ⟨k, hik, hkj⟩ := h
    obtain ⟨hle, m, hmn, hmd, hm⟩ := ih hkj
    have hforth := hforward i k hik
    refine ⟨by omega, ?_⟩
    by_cases hstay : k = i
    · subst hstay
      exact ⟨m, by omega, hmd, hm⟩
    · exact ⟨m + 1, by omega, by omega, k, hik, hm⟩

end Steps

/-! ### Searching -/

/-- Dropping repetitions loses no member.

**Proof sketch.** Induction on the list, for the loop that keeps what has been taken and the last
element seen. An element that repeats the last one is this one. -/
lemma mem_eraseReps {l : List Nat} {i : Nat} : i ∈ l.eraseReps ↔ i ∈ l := by
  have hloop : ∀ (rest : List Nat) (last : Nat) (taken : List Nat),
      i ∈ List.eraseRepsBy.loop (· == ·) last rest taken ↔ i ∈ taken ∨ i = last ∨ i ∈ rest := by
    intro rest
    induction rest with
    | nil => simp [List.eraseRepsBy.loop, or_comm]
    | cons head rest ih =>
      intro last taken
      rw [List.eraseRepsBy.loop]
      cases hsame : last == head with
      | true =>
        obtain rfl := beq_iff_eq.mp hsame
        rw [ih]
        simp
      | false =>
        rw [ih, List.mem_cons, List.mem_cons]
        tauto
  cases l with
  | nil => simp [List.eraseReps, List.eraseRepsBy]
  | cons head rest =>
    rw [List.eraseReps, List.eraseRepsBy, hloop, List.mem_cons]
    simp

/-- What is in two lists of positions joined is in one of them. -/
lemma mem_mergePositions {a b : List Nat} {i : Nat} :
    i ∈ mergePositions a b ↔ i ∈ a ∨ i ∈ b := by
  rw [mergePositions, mem_eraseReps, List.mem_merge]

section Search

variable {next : List Nat → List Nat} {step : Nat → Nat → Prop} {size : Nat}
  (hnext : ∀ starts, (∀ i ∈ starts, i ≤ size) → ∀ j, j ∈ next starts ↔ ∃ i ∈ starts, step i j)
  (hbound : ∀ i j, step i j → j ≤ size)

include hnext hbound

/-- Repeating a step leads where so many steps lead.

**Proof sketch.** Induction on the number of steps. No position has no next one, so an empty set may
be left early. Positions that a step leads to are again in the range. -/
lemma mem_iterate_iff {n : Nat} {starts : List Nat} (hstarts : ∀ i ∈ starts, i ≤ size) {j : Nat} :
    j ∈ iterate next n starts ↔ ∃ i ∈ starts, InSteps step n i j := by
  induction n generalizing starts with
  | zero => simp [iterate, InSteps]
  | succ n ih =>
    rw [iterate]
    split_ifs with hempty
    · simp [List.isEmpty_iff.mp hempty]
    · have hinside : ∀ k ∈ next starts, k ≤ size := by
        intro k hk
        obtain ⟨i, -, hik⟩ := (hnext starts hstarts k).mp hk
        exact hbound i k hik
      rw [ih hinside]
      simp only [hnext starts hstarts, InSteps]
      constructor
      · rintro ⟨k, ⟨i, hi, hik⟩, hkj⟩
        exact ⟨i, hi, k, hik, hkj⟩
      · rintro ⟨i, hi, k, hik, hkj⟩
        exact ⟨k, ⟨i, hi, hik⟩, hkj⟩

/-- The search finds all positions that are within so many steps of those that it has reached, if
all steps from these are known but for those from the frontier.

**Proof sketch.** Induction on the rounds. What is fresh is one step away from the frontier. If
nothing is, then no step leads out of what has been reached. Otherwise the fresh positions are the
next frontier: the first step of a way leads into what has been reached after this round, and one
step less is left. -/
lemma mem_reach_iff {rounds : Nat} {reached frontier : List Nat}
    (hreached : ∀ i ∈ reached, i ≤ size) (hfrontier : ∀ i ∈ frontier, i ∈ reached)
    (hknown : ∀ i ∈ reached, i ∉ frontier → ∀ j, step i j → j ∈ reached) {j : Nat} :
    j ∈ reach next rounds reached frontier ↔ ∃ i ∈ reached, ∃ n ≤ rounds, InSteps step n i j := by
  induction rounds generalizing reached frontier with
  | zero =>
    simp [reach, InSteps]
  | succ rounds ih =>
    have hfresh (k : Nat) : k ∈ (next frontier).filter (fun i => !reached.contains i) ↔
        (∃ i ∈ frontier, step i k) ∧ k ∉ reached := by
      rw [List.mem_filter, hnext frontier fun i hi => hreached i (hfrontier i hi)]
      simp
    rw [reach]
    generalize (next frontier).filter (fun i => !reached.contains i) = fresh at hfresh
    -- one step from what has been reached leads no further than to what is fresh
    have hone : ∀ i ∈ reached, ∀ k, step i k → k ∈ reached ∨ k ∈ fresh := by
      intro i hi k hik
      by_cases hk : k ∈ reached
      · exact .inl hk
      · refine .inr ((hfresh k).mpr ⟨⟨i, ?_, hik⟩, hk⟩)
        by_contra hnot
        exact hk (hknown i hi hnot k hik)
    split_ifs with hempty
    · rw [List.isEmpty_iff] at hempty
      subst hempty
      have hclosed : ∀ n, ∀ i ∈ reached, InSteps step n i j → j ∈ reached := by
        intro n
        induction n with
        | zero =>
          rintro i hi rfl
          exact hi
        | succ n ihn =>
          rintro i hi ⟨k, hik, hkj⟩
          exact ihn k ((hone i hi k hik).resolve_right List.not_mem_nil) hkj
      constructor
      · intro hj
        exact ⟨j, hj, 0, Nat.zero_le _, rfl⟩
      · rintro ⟨i, hi, n, -, hn⟩
        exact hclosed n i hi hn
    · have hinside : ∀ i ∈ mergePositions reached fresh, i ≤ size := by
        intro i hi
        rcases mem_mergePositions.mp hi with hi | hi
        · exact hreached i hi
        · obtain ⟨⟨k, -, hki⟩, -⟩ := (hfresh i).mp hi
          exact hbound k i hki
      have hknown' : ∀ i ∈ mergePositions reached fresh, i ∉ fresh → ∀ j, step i j →
          j ∈ mergePositions reached fresh := by
        intro i hi hnot k hik
        exact mem_mergePositions.mpr
          (hone i ((mem_mergePositions.mp hi).resolve_right hnot) k hik)
      rw [ih hinside (fun i hi => mem_mergePositions.mpr (.inr hi)) hknown']
      constructor
      · rintro ⟨i, hi, n, hn, hij⟩
        rcases mem_mergePositions.mp hi with hi | hi
        · exact ⟨i, hi, n, by omega, hij⟩
        · obtain ⟨⟨k, hk, hki⟩, -⟩ := (hfresh i).mp hi
          exact ⟨k, hfrontier k hk, n + 1, by omega, i, hki, hij⟩
      · rintro ⟨i, hi, n, hn, hij⟩
        cases n with
        | zero => exact ⟨i, mem_mergePositions.mpr (.inl hi), 0, Nat.zero_le _, hij⟩
        | succ n =>
          obtain ⟨k, hik, hkj⟩ := hij
          exact ⟨k, mem_mergePositions.mpr (hone i hi k hik), n, by omega, hkj⟩

end Search

/-! ### The matcher -/

variable {text : Array Char}

/-- So many matches in a row are so many steps.

**Proof sketch.** Induction on the number, with a span in two parts as a step followed by steps. -/
lemma spans_times_iff {p : Placed} {cs : List Char} {n i j : Nat} :
    (p.times n).Spans cs i j ↔ InSteps (p.Spans cs) n i j ∧ j ≤ cs.length := by
  induction n generalizing i with
  | zero => exact Placed.spans_nil_iff
  | succ n ih =>
    rw [Placed.times, Placed.spans_andThen_iff]
    simp only [ih, InSteps]
    constructor
    · rintro ⟨k, hik, hkj, hj⟩
      exact ⟨⟨k, hik, hkj⟩, hj⟩
    · rintro ⟨⟨k, hik, hkj⟩, hj⟩
      exact ⟨k, hik, hkj, hj⟩

/-- One character from a set spans from its position to the next one.

**Proof sketch.** The text up to the position, the character and the text behind it make up the
whole. -/
lemma spans_chars_iff {set : Text.CharSet} {i j : Nat} :
    (Matches (.chars set)).Spans text.toList i j ↔
      text[i]?.any set.contains = true ∧ j = i + 1 := by
  rw [← Array.getElem?_toList]
  constructor
  · rintro ⟨before, _, after, hcs, rfl, rfl, c, hc, rfl⟩
    simp [hcs, hc]
  · rintro ⟨hany, rfl⟩
    cases hget : text.toList[i]? with
    | none => simp [hget] at hany
    | some c =>
      obtain ⟨hi, hc⟩ := List.getElem?_eq_some_iff.mp hget
      refine ⟨text.toList.take i, [c], text.toList.drop (i + 1), ?_, ?_, ?_, c, ?_, rfl⟩
      · rw [← hc, List.append_assoc, List.singleton_append, ← List.drop_eq_getElem_cons hi,
          List.take_append_drop]
      · simp at hi ⊢
        omega
      · simp at hi ⊢
        omega
      · simpa [hget] using hany

/-- An assertion looks at the two neighbours of a position.

**Proof sketch.** A position that splits the text has its neighbours at the end of the one part and
at the head of the other. -/
lemma spans_assert_iff {a : Assertion} {i j : Nat} :
    (Matches (.assert a)).Spans text.toList i j ↔ i = j ∧ j ≤ text.size ∧
      a.holds (if i = 0 then none else text[i - 1]?) text[i]? = true := by
  have hbefore (before after : List Char) (hcs : text.toList = before ++ after) :
      (if before.length = 0 then none else text[before.length - 1]?) = before.getLast? := by
    rw [← Array.getElem?_toList, hcs, List.getLast?_eq_getElem?]
    split_ifs with hzero
    · simp [List.eq_nil_of_length_eq_zero hzero]
    · rw [List.getElem?_append_left (by omega)]
  have hafter (before after : List Char) (hcs : text.toList = before ++ after) :
      text[before.length]? = after.head? := by
    rw [← Array.getElem?_toList, hcs, List.getElem?_append_right (Nat.le_refl _), Nat.sub_self,
      List.head?_eq_getElem?]
  constructor
  · rintro ⟨before, _, after, hcs, rfl, rfl, rfl, ha⟩
    rw [List.append_nil] at hcs ⊢
    rw [hbefore before after hcs, hafter before after hcs]
    refine ⟨rfl, ?_, ha⟩
    rw [← Array.length_toList, hcs]
    simp
  · rintro ⟨rfl, hle, ha⟩
    have hcs : text.toList = text.toList.take i ++ text.toList.drop i := by simp
    have hlength : (text.toList.take i).length = i := by simp [hle]
    refine ⟨text.toList.take i, [], text.toList.drop i, by simp, hlength.symm, by simp [hle], rfl,
      ?_⟩
    rwa [← hbefore _ _ hcs, ← hafter _ _ hcs, hlength]

/-- Repetitions are so many steps that the bounds on their number are kept. -/
lemma spans_repeated_iff {body : Pattern} {least : Nat} {most : Option Nat} {cs : List Char}
    {i j : Nat} : (Matches (.repeated body least most)).Spans cs i j ↔
      ∃ n, least ≤ n ∧ (∀ m ∈ most, n ≤ max least m) ∧ InSteps (body.Matches.Spans cs) n i j ∧
        j ≤ cs.length := by
  have hspans : (Matches (.repeated body least most)).Spans cs i j ↔
      ∃ n, least ≤ n ∧ (∀ m ∈ most, n ≤ max least m) ∧ (body.Matches.times n).Spans cs i j := by
    constructor
    · rintro ⟨before, within, after, hcs, hi, hj, n, hn, hmost, hbody⟩
      exact ⟨n, hn, hmost, before, within, after, hcs, hi, hj, hbody⟩
    · rintro ⟨n, hn, hmost, before, within, after, hcs, hi, hj, hbody⟩
      exact ⟨before, within, after, hcs, hi, hj, n, hn, hmost, hbody⟩
  simp only [hspans, spans_times_iff]

/-- The search behind the least number of repetitions, and the rounds that it may take. -/
lemma ends_repeated (body : Pattern) (least : Nat) (most : Option Nat) (starts : List Nat) :
    ends text (.repeated body least most) starts =
      reach (ends text body)
        (most.elim (text.size + 1) fun most => min (text.size + 1) (most - least))
        (iterate (ends text body) least starts) (iterate (ends text body) least starts) := by
  cases most with
  | none => rw [ends, Option.elim_none]
  | some most => rw [ends, Option.elim_some]

/-- The matcher finds the ends of the matches that start in a set of positions.

**Proof sketch.** Induction on the pattern. Repetitions are found in two stages: the least number of
them step by step, and the others by the search. This may give up after as many rounds as the text
has positions, since repetitions that match nothing can be left out. -/
lemma mem_ends_iff (p : Pattern) {starts : List Nat} (hstarts : ∀ i ∈ starts, i ≤ text.size)
    {j : Nat} : j ∈ ends text p starts ↔ ∃ i ∈ starts, p.Matches.Spans text.toList i j := by
  induction p generalizing starts j with
  | empty =>
    rw [ends]
    simp only [Matches, Placed.spans_nil_iff, Array.length_toList]
    constructor
    · intro hj
      exact ⟨j, hj, rfl, hstarts j hj⟩
    · rintro ⟨i, hi, rfl, -⟩
      exact hi
  | chars set =>
    rw [ends, List.mem_filterMap]
    simp only [spans_chars_iff]
    refine exists_congr fun i => and_congr_right fun _ => ?_
    split_ifs with hany
    · simp [hany, eq_comm]
    · simp [hany]
  | assert a =>
    rw [ends, List.mem_filter]
    simp only [spans_assert_iff]
    constructor
    · rintro ⟨hj, ha⟩
      exact ⟨j, hj, rfl, hstarts j hj, ha⟩
    · rintro ⟨i, hi, rfl, -, ha⟩
      exact ⟨hi, ha⟩
  | seq first second ihf ihs =>
    have hinside : ∀ k ∈ ends text first starts, k ≤ text.size := by
      intro k hk
      obtain ⟨i, -, hspan⟩ := (ihf hstarts).mp hk
      simpa using hspan.bounds.2
    rw [ends, ihs hinside]
    simp only [ihf hstarts, Matches, Placed.spans_andThen_iff]
    constructor
    · rintro ⟨k, ⟨i, hi, hik⟩, hkj⟩
      exact ⟨i, hi, k, hik, hkj⟩
    · rintro ⟨i, hi, k, hik, hkj⟩
      exact ⟨k, ⟨i, hi, hik⟩, hkj⟩
  | alt first second ihf ihs =>
    have hor (i : Nat) : (Matches (.alt first second)).Spans text.toList i j ↔
        first.Matches.Spans text.toList i j ∨ second.Matches.Spans text.toList i j := by
      simp only [Placed.Spans, Matches, and_or_left, exists_or]
    rw [ends, mem_mergePositions, ihf hstarts, ihs hstarts]
    simp only [hor, and_or_left, exists_or]
  | repeated body least most ih =>
    have hnext : ∀ starts : List Nat, (∀ i ∈ starts, i ≤ text.size) → ∀ j,
        j ∈ ends text body starts ↔ ∃ i ∈ starts, body.Matches.Spans text.toList i j :=
      fun _ hstarts _ => ih hstarts
    have hbound : ∀ i j, body.Matches.Spans text.toList i j → j ≤ text.size := by
      intro i j hspan
      simpa using hspan.bounds.2
    have hforward : ∀ i j, body.Matches.Spans text.toList i j → i ≤ j :=
      fun i j hspan => hspan.bounds.1
    have hleast (k : Nat) := mem_iterate_iff hnext hbound (n := least) hstarts (j := k)
    have hinside : ∀ k ∈ iterate (ends text body) least starts, k ≤ text.size := by
      intro k hk
      obtain ⟨i, hi, hik⟩ := (hleast k).mp hk
      exact hik.le hbound (hstarts i hi)
    rw [ends_repeated,
      mem_reach_iff hnext hbound hinside (fun _ hi => hi) fun i hi hnot => absurd hi hnot]
    simp only [spans_repeated_iff, Array.length_toList, hleast]
    constructor
    · rintro ⟨k, ⟨i, hi, hik⟩, n, hn, hkj⟩
      refine ⟨i, hi, least + n, Nat.le_add_right _ _, ?_, inSteps_add_iff.mpr ⟨k, hik, hkj⟩, ?_⟩
      · rintro m rfl
        rw [Option.elim_some] at hn
        omega
      · exact hkj.le hbound (hik.le hbound (hstarts i hi))
    · rintro ⟨i, hi, n, hn, hmost, hij, hj⟩
      obtain ⟨r, rfl⟩ := Nat.exists_eq_add_of_le hn
      obtain ⟨k, hik, hkj⟩ := inSteps_add_iff.mp hij
      -- what is left of the way after the least number of steps needs no more rounds than there are
      obtain ⟨-, m, hmr, hmd, hm⟩ := hkj.exists_le hforward
      refine ⟨k, ⟨i, hi, hik⟩, m, ?_, hm⟩
      cases most with
      | none =>
        rw [Option.elim_none]
        omega
      | some most =>
        have hmost := hmost most rfl
        rw [Option.elim_some]
        omega

/-- A pattern is found in a text if and only if it matches some part of it.

**Proof sketch.** The matcher starts at all positions of the text and finds the end of every match
(`mem_ends_iff`). So there is an end to be found just if there is a match. -/
lemma isMatch_iff (p : Pattern) (s : String) :
    p.isMatch s = true ↔ ∃ before within after, s.toList = before ++ within ++ after ∧
      p.Matches before within after := by
  have hends (j : Nat) : j ∈ ends s.toList.toArray p (List.range (s.toList.toArray.size + 1)) ↔
      ∃ i ∈ List.range (s.toList.toArray.size + 1), p.Matches.Spans s.toList i j :=
    mem_ends_iff p fun i hi => Nat.lt_succ_iff.mp (List.mem_range.mp hi)
  rw [isMatch, Bool.not_eq_true', ← Bool.not_eq_true, List.isEmpty_iff,
    List.eq_nil_iff_forall_not_mem]
  simp only [hends, not_forall, not_not]
  constructor
  · rintro ⟨j, i, -, before, within, after, hcs, -, -, hp⟩
    exact ⟨before, within, after, hcs, hp⟩
  · rintro ⟨before, within, after, hcs, hp⟩
    refine ⟨_, before.length, ?_, before, within, after, hcs, rfl, rfl, hp⟩
    rw [List.mem_range, List.size_toArray, hcs, List.length_append, List.length_append]
    omega

end Verdict.Pattern
