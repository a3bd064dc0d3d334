import Verdict.Proofs.Rule.Builtin
import Verdict.Proofs.Walk.Alongside
import Verdict.Proofs.Walk.Faultless

/-!
# What a skipped field can still change

A field with the skip mark is not checked and not descended into. But it is printed with the record
that it belongs to. Three things are made of the text of a value that holds such a record: the
verdict of `inList` on it, the message of any rule that fails on it, and the paths of the records
below a map with it as a key. Where these three do not come about, or the text is the same, the
values of skipped fields make no difference.

## Main definitions

* `Verdict.Scope.ReadsSameText` — no rule reads two values whose texts differ.
* `Verdict.Scope.ShowsSameText` — no message shows two values whose texts differ.

## Main results

* `Verdict.Validator.validate_of_differInSkipped` — records that differ in skipped fields only.
* `Verdict.Validator.validate_skipped_printed` — the three ways in which these fields show.
-/

namespace Verdict

variable {ρ : Type}

/-! ### Rules on values that are alike -/

/-- Values that are alike have one measure. -/
lemma Value.AlikeUpTo.measure_eq {R : ρ → ρ → Prop} {v w : Value ρ} (h : v.AlikeUpTo R w) :
    v.measure = w.measure := by
  obtain ⟨u, rfl, rfl⟩ := h
  rw [measure_mapRecords, measure_mapRecords]

/-- A built-in rule says the same of values that are alike, except for `inList`, which reads their
texts.

**Proof sketch.** One case for each built-in rule. `required` asks of a record no more than that it
is one, the three rules on sizes compare the measure, `email` and `regexp` judge texts only, and
`inList` reads the text, which is the same by assumption. -/
lemma Rule.check_eq_of_alikeUpTo [HasFields ρ] {builtin : String} {rule : Rule ρ}
    (hrule : (builtin, rule) ∈ builtins) {R : ρ → ρ → Prop} {v w : Value ρ} (h : v.AlikeUpTo R w)
    (htext : rule.check = inList → v.text = w.text) (param : String) :
    rule.check v param = rule.check w param := by
  have hbound (bound : Bound) : bound.check v param = bound.check w param := by
    rw [Bound.check, Bound.check, h.measure_eq]
  simp only [builtins, List.mem_cons, Prod.mk.injEq, List.not_mem_nil, or_false] at hrule
  rcases hrule with ⟨-, rfl⟩ | ⟨-, rfl⟩ | ⟨-, rfl⟩ | ⟨-, rfl⟩ | ⟨-, rfl⟩ | ⟨-, rfl⟩ | ⟨-, rfl⟩
  · obtain ⟨u, rfl, rfl⟩ := h
    exact (required_mapRecords _ u param).trans (required_mapRecords _ u param).symm
  · exact hbound .exact
  · exact hbound .atLeast
  · exact hbound .atMost
  · -- `email` judges texts only
    obtain ⟨u, rfl, rfl⟩ := h
    cases u <;> rfl
  · -- so does `regexp`
    obtain ⟨u, rfl, rfl⟩ := h
    cases u <;> rfl
  · show inList v param = inList w param
    rw [inList, inList, htext rfl]

/-! ### The first error of a field -/

/-- Two conditions have the same first hit in a list if they agree on every member in front of which
there is none.

**Proof sketch.** Induction on the list. At its head nothing stands in front, so the two conditions
agree there; if neither holds, what stands in front of a later member is no hit. -/
private lemma find?_congr_of_first {α : Type} {p q : α → Bool} {l : List α}
    (h : ∀ before a after, l = before ++ a :: after → (∀ b ∈ before, p b = false) → p a = q a) :
    l.find? p = l.find? q := by
  induction l with
  | nil => rfl
  | cons a l ih =>
    have hhead : p a = q a := h [] a l rfl (by simp)
    rw [List.find?_cons, List.find?_cons, ← hhead]
    cases hp : p a with
    | true => rfl
    | false =>
      refine ih fun before b after hsplit hbefore => ?_
      exact h (a :: before) b after (by rw [hsplit]; rfl) (List.forall_mem_cons.mpr ⟨hp, hbefore⟩)

namespace Scope

variable [HasFields ρ] {s : Scope ρ} {f g : Field ρ}

/-- If `inList` is checked on the first of two fields, then their values have one text. -/
def ReadsSameText (s : Scope ρ) (f g : Field ρ) : Prop :=
  ∀ tag, s.Checks f tag → tag.rule.check = Rule.inList → f.value.text = g.value.text

/-- If a rule that is checked on the first of two fields fails, then their values have one text. -/
def ShowsSameText (s : Scope ρ) (f g : Field ρ) : Prop :=
  ∀ tag, s.Checks f tag → tag.check f.value = .failed → f.value.text = g.value.text

/-- Two fields that agree have corresponding errors of their own, if `inList` does not tell them
apart and the rule that fails has corresponding errors.

**Proof sketch.** Clauses and rules are the same for both fields, so the first clause that cannot be
bound is, too. Otherwise a rule that is checked says the same of the two values
(`Rule.check_eq_of_alikeUpTo`), and rules behind the first failure are not asked. So the first
failure is the same rule, and its errors correspond by assumption. -/
lemma ownError?_rel {E : FieldError → FieldError → Prop} {R : ρ → ρ → Prop}
    (hbuiltins : s.registry.OnlyBuiltins) (hagree : f.AgreesWith s.tagKey R g)
    (hlook : f.rulesUnder s.tagKey ≠ skipMark) (hread : s.ReadsSameText f g)
    (hrefl : ∀ e, E e e)
    (hfails : ∀ tag, s.Checks f tag → tag.check f.value = .failed →
      E (s.resolve f.name tag f.value) (s.resolve g.name tag g.value)) :
    (s.ownError? f).Rel E (s.ownError? g) := by
  have hbind := s.bindField_eq f
  rw [Registry.bindAll_eq] at hbind
  rw [ownError?, ownError?, ← hagree.clauses_eq]
  cases hunknown : (f.clauses s.tagKey).find? fun clause => !s.registry.knows clause.1 with
  | some clause => exact .some (hrefl _)
  | none =>
    rw [hunknown] at hbind
    dsimp only at hbind ⊢
    set tags := (f.clauses s.tagKey).filterMap s.registry.tag? with htags
    have hchecks : ∀ before tag after, tags = before ++ tag :: after →
        (∀ earlier ∈ before, decide (earlier.check f.value = .failed) = false) →
          s.Checks f tag := by
      intro before tag after hsplit hbefore
      exact ⟨before, after, by rw [hbind, hsplit], by simpa using hbefore⟩
    -- where no rule before it fails, a rule is checked, and so it reads the same text
    have hsame : (tags.find? fun tag => tag.check f.value = .failed) =
        tags.find? fun tag => tag.check g.value = .failed := by
      refine find?_congr_of_first fun before tag after hsplit hbefore => ?_
      have htag : tag ∈ (f.clauses s.tagKey).filterMap s.registry.tag? := by
        rw [← htags, hsplit]
        simp
      obtain ⟨clause, -, hclause⟩ := List.mem_filterMap.mp htag
      obtain ⟨builtin, hrule⟩ := hbuiltins.rule_mem hclause
      have hcheck : tag.check f.value = tag.check g.value :=
        Rule.check_eq_of_alikeUpTo hrule (hagree.value hlook)
          (hread tag (hchecks before tag after hsplit hbefore)) tag.param
      rw [hcheck]
    rw [← hsame]
    cases hfirst : tags.find? fun tag => tag.check f.value = .failed with
    | none => exact .none
    | some tag =>
      obtain ⟨hfailed, before, after, hsplit, hbefore⟩ := List.find?_eq_some_iff_append.mp hfirst
      exact .some (hfails tag (hchecks before tag after hsplit (by simpa using hbefore))
        (by simpa using hfailed))

omit [HasFields ρ] in
/-- The rules that are checked on a field are among those it is bound to. -/
lemma Checks.mem {tag : Tag ρ} {tags : List (Tag ρ)} (h : s.Checks f tag)
    (hbind : s.bindField f (f.rulesUnder s.tagKey) = .ok tags) : tag ∈ tags := by
  obtain ⟨before, after, hsplit, -⟩ := h
  rw [hbind, Except.ok.injEq] at hsplit
  simp [hsplit]

/-- A field that is visited in both walks does not have the skip mark. -/
lemma VisitsBoth.rulesUnder_ne {r q : ρ} {t : Scope ρ} (h : s.VisitsBoth r q t f g) :
    f.rulesUnder t.tagKey ≠ skipMark := by
  induction h with
  | own _ hlook => exact hlook
  | nested _ _ _ _ _ ih => exact ih

/-- All walks below a scope have its registry.

**Proof sketch.** Induction on how the fields are reached. The scope of a record in a value has the
same rules. -/
lemma VisitsBoth.registry_eq {r q : ρ} {t : Scope ρ} (h : s.VisitsBoth r q t f g) :
    t.registry = s.registry := by
  induction h with
  | own _ _ => rfl
  | nested _ _ _ _ _ ih => exact ih

/-- What is visited at the same place in two walks is so in two of their own fields, or in two
records that are met at the same place in these.

**Proof sketch.** A visit is of own fields or goes on through a pair of records, and these are the
two parts. -/
lemma forall_visitsBoth_iff {r q : ρ} {P : Scope ρ → Field ρ → Field ρ → Prop} :
    (∀ t f g, s.VisitsBoth r q t f g → P t f g) ↔
      ∀ pair ∈ (HasFields.fields r).zip (HasFields.fields q),
        pair.1.rulesUnder s.tagKey ≠ skipMark → P s pair.1 pair.2 ∧
          ∀ met ∈ (pair.1.value.records pair.1.name).zip (pair.2.value.records pair.2.name),
            s.depth < s.maxDepth →
              ∀ t f g, (s.child met.1.1).VisitsBoth met.1.2 met.2.2 t f g → P t f g := by
  constructor
  · rintro h ⟨f, g⟩ hfields hlook
    refine ⟨h s f g (.own hfields hlook), ?_⟩
    rintro ⟨met, met'⟩ hmet hdepth t f' g' hvisit
    exact h t f' g' (.nested hfields hlook hmet hdepth hvisit)
  · intro h t f g hvisit
    cases hvisit with
    | own hfields hlook => exact (h _ hfields hlook).1
    | nested hfields hlook hmet hdepth hvisit =>
      exact (h _ hfields hlook).2 _ hmet hdepth t f g hvisit

end Scope

namespace Validator

variable [HasFields ρ]

/-- **The values of skipped fields matter to a validation with built-in rules only as far as they
are printed.** Let two records differ in such values only, on all levels, and at fields that are
visited at the same place let `inList` read the same text and the records in them be met at the same
paths. Then the two validations have errors at the same paths in the same order, hence the same
verdict. If moreover each rule that fails is shown the same text, then they have the same result.

**Proof sketch.** The own errors of fields that are visited at the same place correspond
(`ownError?_rel`), and so do the events of the two records, one by one (`Scope.flatEvents_forall₂`).
With any two errors corresponding, this gives the same paths, and which paths are taken depends on
paths only. With equal errors corresponding, which takes that the same text is shown, the events are
equal. -/
theorem validate_of_differInSkipped (v : Validator ρ)
    (hbuiltins : v.scope.registry.OnlyBuiltins) {r q : ρ}
    (hdiffer : DifferInSkipped v.scope.tagKey r q)
    (hread : ∀ t f g, v.scope.VisitsBoth r q t f g →
      t.ReadsSameText f g ∧ Scope.MeetsAlike f g) :
    ((v.validate r).result.paths = (v.validate q).result.paths ∧
        (v.validate r).result.isEmpty = (v.validate q).result.isEmpty) ∧
      ((∀ t f g, v.scope.VisitsBoth r q t f g → t.ShowsSameText f g) →
        (v.validate r).result = (v.validate q).result) := by
  have hmeet (t : Scope ρ) (f g : Field ρ) (hvisit : v.scope.VisitsBoth r q t f g) :=
    (hread t f g hvisit).2
  have hown {E : FieldError → FieldError → Prop} (hrefl : ∀ e, E e e)
      (hfails : ∀ t f g, v.scope.VisitsBoth r q t f g → f.name = g.name →
        ∀ tag, t.Checks f tag → tag.check f.value = .failed →
          E (t.resolve f.name tag f.value) (t.resolve g.name tag g.value)) (t : Scope ρ)
      (f g : Field ρ) (hvisit : v.scope.VisitsBoth r q t f g)
      (hagree : f.AgreesWith t.tagKey (DifferInSkipped t.tagKey) g) :
      (t.ownError? f).Rel E (t.ownError? g) :=
    Scope.ownError?_rel (hvisit.registry_eq ▸ hbuiltins) hagree hvisit.rulesUnder_ne
      (hread t f g hvisit).1 hrefl (hfails t f g hvisit hagree.name_eq)
  constructor
  · -- any two errors correspond here, so that only paths are compared
    have hevents := Scope.flatEvents_forall₂ (E := fun _ _ => True) (fun _ => trivial) hdiffer
      (hown (fun _ => trivial) fun _ _ _ _ _ _ _ _ => trivial) hmeet
    have hpaths : Entries.paths (v.scope.flatEvents r) = Entries.paths (v.scope.flatEvents q) := by
      rw [Entries.paths, Entries.paths, ← List.forall₂_eq_eq_eq, List.forall₂_map_left_iff,
        List.forall₂_map_right_iff]
      exact hevents.imp fun _ _ h => h.1
    have hresult : (v.validate r).result.paths = (v.validate q).result.paths := by
      rw [result_validate, result_validate]
      exact Errors.paths_extend_congr rfl hpaths
    have hempty (w : ρ) : (v.validate w).result.isEmpty = true ↔
        (v.validate w).result.paths = [] := by
      rw [Errors.isEmpty_iff, Errors.paths, List.map_eq_nil_iff]
    refine ⟨hresult, ?_⟩
    rw [Bool.eq_iff_iff, hempty, hempty, hresult]
  · intro hshow
    have hevents := Scope.flatEvents_forall₂ (E := Eq) (fun _ => rfl) hdiffer
      (hown (fun _ => rfl) fun t f g hvisit hname tag hchecks hfailed => by
        rw [Scope.resolve, Scope.resolve, hname, hshow t f g hvisit tag hchecks hfailed]) hmeet
    have hsame : v.scope.flatEvents r = v.scope.flatEvents q := by
      rw [← List.forall₂_eq_eq_eq]
      exact hevents.imp fun _ _ h => Prod.ext h.1 h.2
    rw [result_validate, result_validate, hsame]

/-- Accounts with a secret that is not to be looked at, in a map in a sequence, on which a rule is
checked that holds: the secret makes no difference.

**Proof sketch.** The records differ in the secret only. In the session one rule is checked, which
is not `inList` and does not fail; in the accounts only the names are visited. -/
theorem validate_skipped_unprinted :
    let v : Validator Record := .new "Session"
    let account (secret : String) : Record := .plain
      [⟨"Secret", .str secret, [("validate", "-")], []⟩,
        ⟨"Name", .str "", [("validate", "required")], []⟩]
    let session (secret : String) : Record := .plain
      [⟨"Users", .seq [.map [(.str "owner", .record (account secret))]], [("validate", "len=1")],
        []⟩]
    v.scope.registry.OnlyBuiltins ∧ DifferInSkipped v.scope.tagKey (session "x") (session "y") ∧
      (v.validate (session "x")).result = (v.validate (session "y")).result ∧
      (v.validate (session "x")).result.paths = ["Users[0][owner](value).Name"] := by
  intro v account session
  have hbuiltins : v.scope.registry.OnlyBuiltins := Registry.onlyBuiltins_builtins
  have haccount : DifferInSkipped v.scope.tagKey (account "x") (account "y") :=
    differInSkipped_of_fields (.cons ⟨rfl, rfl, rfl, absurd rfl⟩
      (.cons ⟨rfl, rfl, rfl, fun _ => ⟨.str "", rfl, rfl⟩⟩ .nil))
  have hsession : DifferInSkipped v.scope.tagKey (session "x") (session "y") :=
    differInSkipped_of_fields (.cons ⟨rfl, rfl, rfl, fun _ =>
      ⟨.seq [.map [(.str "owner", .record ⟨(account "x", account "y"), haccount⟩)]], rfl, rfl⟩⟩
        .nil)
  -- in the accounts only the names are visited in both walks
  have hnames (path : String) (t : Scope Record) (f g : Field Record)
      (hvisit : (v.scope.child path).VisitsBoth (account "x") (account "y") t f g) :
      t.ReadsSameText f g ∧ t.ShowsSameText f g ∧ Scope.MeetsAlike f g := by
    revert t f g
    rw [Scope.forall_visitsBoth_iff]
    intro pair hpair hlook
    obtain rfl | hpair := List.mem_cons.mp hpair
    · exact absurd rfl hlook
    · obtain rfl := List.mem_singleton.mp hpair
      refine ⟨⟨fun _ _ _ => rfl, fun _ _ _ => rfl, rfl⟩, fun met hmet => ?_⟩
      exact absurd hmet List.not_mem_nil
  have hvisits (t : Scope Record) (f g : Field Record)
      (hvisit : v.scope.VisitsBoth (session "x") (session "y") t f g) :
      t.ReadsSameText f g ∧ t.ShowsSameText f g ∧ Scope.MeetsAlike f g := by
    revert t f g
    rw [Scope.forall_visitsBoth_iff]
    intro pair hpair hlook
    obtain rfl := List.mem_singleton.mp hpair
    have hbind : v.scope.bindField ((HasFields.fields (session "x")).head (List.cons_ne_nil _ _))
        "len=1" = .ok [⟨"len", "1", ⟨1, Rule.len⟩⟩] := rfl
    refine ⟨⟨fun tag hchecks hrule => ?_, fun tag hchecks hfailed => ?_, rfl⟩, ?_⟩
    · obtain rfl := List.mem_singleton.mp (hchecks.mem hbind)
      exact absurd (congrFun (congrFun hrule (.str "")) "1") (by decide +kernel)
    · obtain rfl := List.mem_singleton.mp (hchecks.mem hbind)
      exact absurd hfailed (by decide +kernel)
    · intro met hmet _
      obtain rfl := List.mem_singleton.mp hmet
      exact hnames _
  have hevents : v.scope.flatEvents (session "x") =
      [("Users[0][owner](value).Name",
        .message "Users[0][owner](value) Name cannot be blank")] := by
    decide +kernel
  refine ⟨hbuiltins, hsession, ?_, ?_⟩
  · exact (validate_of_differInSkipped v hbuiltins hsession fun t f g hvisit =>
      ⟨(hvisits t f g hvisit).1, (hvisits t f g hvisit).2.2⟩).2 fun t f g hvisit =>
        (hvisits t f g hvisit).2.1
  · rw [Errors.paths, toList_validate, hevents]
    decide

/-- The secret of an account shows in three ways: it decides whether `inList` rejects the account,
it is part of the message of a rule that fails on a sequence with the account, and it is part of the
paths below a map with the account as a key.

**Proof sketch.** The records differ in skipped fields only, as before. The errors are those of
their events, which are computed. -/
theorem validate_skipped_printed :
    let v : Validator Record := .new "Session"
    let account (secret name : String) : Record := .plain
      [⟨"Secret", .str secret, [("validate", "-")], []⟩,
        ⟨"Name", .str name, [("validate", "required")], []⟩]
    let listed (secret : String) : Record := .plain
      [⟨"User", .record (account secret "a"), [("validate", "inList=\x7by a\x7d")], []⟩]
    let counted (secret : String) : Record := .plain
      [⟨"Users", .seq [.record (account secret "a")], [("validate", "min=2")], []⟩]
    let keyed (secret : String) : Record := .plain
      [⟨"Roles", .map [(.record (account secret ""), .absent)], [], []⟩]
    let outcome (r : Record) := (v.validate r).result.toList
    (v.scope.registry.OnlyBuiltins ∧ DifferInSkipped v.scope.tagKey (listed "x") (listed "y") ∧
        DifferInSkipped v.scope.tagKey (counted "x") (counted "y") ∧
        DifferInSkipped v.scope.tagKey (keyed "x") (keyed "y")) ∧
      (outcome (listed "x") = [] ∧ outcome (listed "y") =
        [("User", .message "Session \x7by a\x7d is not contained within the list \x7by a\x7d")]) ∧
      (outcome (counted "x") =
          [("Users", .message "Session [\x7bx a\x7d] is less than minimum value 2")] ∧
        outcome (counted "y") =
          [("Users", .message "Session [\x7by a\x7d] is less than minimum value 2")]) ∧
      outcome (keyed "x") =
          [("Roles[\x7bx \x7d](key).Name",
            .message "Roles[\x7bx \x7d](key) Name cannot be blank")] ∧
        outcome (keyed "y") =
          [("Roles[\x7by \x7d](key).Name",
            .message "Roles[\x7by \x7d](key) Name cannot be blank")] := by
  intro v account listed counted keyed outcome
  have haccount (name : String) :
      DifferInSkipped v.scope.tagKey (account "x" name) (account "y" name) :=
    differInSkipped_of_fields (.cons ⟨rfl, rfl, rfl, absurd rfl⟩
      (.cons ⟨rfl, rfl, rfl, fun _ => ⟨.str name, rfl, rfl⟩⟩ .nil))
  have houtcome (r : Record) : outcome r = Entries.extend [] (v.scope.flatEvents r) :=
    toList_validate v r
  simp only [houtcome]
  refine ⟨⟨Registry.onlyBuiltins_builtins, ?_, ?_, ?_⟩, by decide +kernel⟩
  · exact differInSkipped_of_fields (.cons ⟨rfl, rfl, rfl, fun _ =>
      ⟨.record ⟨(account "x" "a", account "y" "a"), haccount "a"⟩, rfl, rfl⟩⟩ .nil)
  · exact differInSkipped_of_fields (.cons ⟨rfl, rfl, rfl, fun _ =>
      ⟨.seq [.record ⟨(account "x" "a", account "y" "a"), haccount "a"⟩], rfl, rfl⟩⟩ .nil)
  · exact differInSkipped_of_fields (.cons ⟨rfl, rfl, rfl, fun _ =>
      ⟨.map [(.record ⟨(account "x" "", account "y" ""), haccount ""⟩, .absent)], rfl, rfl⟩⟩ .nil)

end Validator

end Verdict
