import Verdict.Proofs.Rule.Binding
import Verdict.Proofs.Table.Lookup
import Verdict.Proofs.Table.Ordered
import Verdict.Proofs.Value.Unfolding
import Verdict.Rule.Builtin

/-!
# What the built-in rules look at

A built-in rule is a rule over every type of records, and the records in a value mean little to it:
only `inList` looks at them at all, as far as they print. So it says the same of a value and of the
value with its records unfolded.

## Main definitions

* `Verdict.Registry.OnlyBuiltins` — registries without other rules.
* `Verdict.Rule.onRecords`, `Verdict.Tag.onRecords`, `Verdict.Registry.onRecords` — the same rules
  over unfolded records.

## Main results

* `Verdict.Rule.check_onRecords` — a built-in rule on a value with its records unfolded.
* `Verdict.Registry.knows_onRecords`, `tag?_onRecords` — the registry over unfolded records.
-/

namespace Verdict

variable {ρ σ : Type}

/-! ### Measures -/

/-- A value keeps its measure. -/
lemma Value.measure_mapRecords (g : ρ → σ) (v : Value ρ) :
    (v.mapRecords g).measure = v.measure := by
  cases v with
  | seq items => simp [mapRecords, measure]
  | map entries => simp [mapRecords, measure]
  | absent | bool | int | uint | float | str | record => rfl

/-- A bound on the measure of a value takes no notice of its records. -/
lemma Bound.check_mapRecords (bound : Bound) (g : ρ → σ) (v : Value ρ) (param : String) :
    bound.check (v.mapRecords g) param = bound.check v param := by
  rw [check, check, Value.measure_mapRecords]

/-! ### Rules -/

namespace Rule

/-- A value keeps being empty or not. -/
lemma required_mapRecords (g : ρ → σ) (v : Value ρ) (param : String) :
    required (v.mapRecords g) param = required v param := by
  cases v with
  | seq items => simp [Value.mapRecords, required]
  | map entries => simp [Value.mapRecords, required]
  | absent | bool | int | uint | float | str | record => rfl

/-- The built-in rule of the same number, over unfolded records. A number without a built-in rule
gets a rule that is always satisfied. -/
def onRecords (rule : Rule ρ) : Rule Record :=
  ((builtins.find? fun entry => entry.2.identity == rule.identity).map (·.2)).getD
    ⟨rule.identity, fun _ _ => .valid⟩

/-- A built-in rule says the same of a value with its records unfolded as far as they print.

**Proof sketch.** One case for each rule. `required` asks of a record no more than that it is one,
the measure takes no notice of records, and texts have none. Only `inList` shows the value, and this
is cut off above the levels that are kept. -/
lemma check_onRecords [HasFields ρ] {builtin : String} {rule : Rule ρ}
    (h : (builtin, rule) ∈ builtins) {levels : Nat} (hlevels : printDepth ≤ levels) (v : Value ρ)
    (param : String) :
    rule.onRecords.check (v.mapRecords (Record.unfolding levels)) param = rule.check v param := by
  simp only [builtins, List.mem_cons, Prod.mk.injEq, List.not_mem_nil, or_false] at h
  rcases h with ⟨-, rfl⟩ | ⟨-, rfl⟩ | ⟨-, rfl⟩ | ⟨-, rfl⟩ | ⟨-, rfl⟩ | ⟨-, rfl⟩ | ⟨-, rfl⟩
  · exact required_mapRecords _ v param
  · exact Bound.check_mapRecords .exact _ v param
  · exact Bound.check_mapRecords .atLeast _ v param
  · exact Bound.check_mapRecords .atMost _ v param
  · -- `email` judges texts only
    cases v <;> rfl
  · -- so does `regexp`
    cases v <;> rfl
  · show inList _ param = inList v param
    rw [inList, inList, Value.text_mapRecords hlevels]

end Rule

/-- A tag with its rule over unfolded records. -/
def Tag.onRecords (t : Tag ρ) : Tag Record := ⟨t.name, t.param, t.rule.onRecords⟩

/-! ### Registries -/

namespace Registry

/-- A registry with its rules over unfolded records. -/
def onRecords (r : Registry ρ) : Registry Record :=
  ⟨r.rules.map fun entry => (entry.1, entry.2.onRecords)⟩

/-- Under each name there is the same rule, over unfolded records. -/
lemma get?_onRecords (r : Registry ρ) (name : String) :
    r.onRecords.get? name = (r.get? name).map Rule.onRecords :=
  Table.get?_map Rule.onRecords r.rules name

/-- The same names are known. -/
lemma knows_onRecords (r : Registry ρ) (name : String) : r.onRecords.knows name = r.knows name := by
  rw [knows, knows, contains_eq, contains_eq, get?_onRecords, Option.isSome_map]

/-- Clauses get the same rules. -/
lemma tag?_onRecords (r : Registry ρ) (clause : String × String) :
    r.onRecords.tag? clause = (r.tag? clause).map Tag.onRecords := by
  rw [tag?, tag?, get?_onRecords, Option.map_map, Option.map_map]
  rfl

variable [HasFields ρ]

/-- Every rule is a built-in one, under its own name or another. -/
def OnlyBuiltins (r : Registry ρ) : Prop :=
  ∀ name rule, r.get? name = some rule → ∃ builtin, (builtin, rule) ∈ Rule.builtins

/-- The registry of the built-in rules has no others. -/
lemma onlyBuiltins_builtins : (builtins : Registry ρ).OnlyBuiltins := by
  intro name rule h
  have hnames : ((Rule.builtins (ρ := ρ)).map (·.1)).Nodup := by
    simp only [Rule.builtins, List.map_cons, List.map_nil]
    decide
  simp only [get?, builtins] at h
  exact ⟨name, (Table.ofList_perm hnames).mem_iff.mp (Table.mem_of_get? h)⟩

/-- The rules of tags from a registry without other rules are built-in ones. -/
lemma OnlyBuiltins.rule_mem {r : Registry ρ} (h : r.OnlyBuiltins) {clause : String × String}
    {tag : Tag ρ} (htag : r.tag? clause = some tag) :
    ∃ builtin, (builtin, tag.rule) ∈ Rule.builtins := by
  obtain ⟨rule, hrule, rfl⟩ := Option.map_eq_some_iff.mp htag
  exact h clause.1 rule hrule

end Registry

end Verdict
