import Mathlib.Data.List.Basic
import Verdict.Rule.Tag

/-!
# Binding clauses

Binding a list of clauses has one of two outcomes, and which one can be read off the names: either
all names are known, and each clause gets the rule of its name, or the first unknown one is the
error.

## Main definitions

* `Verdict.Tag.clause` — the name and the parameter of a tag.
* `Verdict.Registry.knows` — whether a name can be bound.
* `Verdict.Registry.tag?` — a clause with the rule of its name.

## Main results

* `Verdict.Registry.bindAll_eq` — the two outcomes of binding.
* `Verdict.Registry.bindAll_append` — binding a list in two parts.
* `Verdict.Registry.exists_bindAll_iff`, `bindAll_of_knows` — the clauses that are bound are those
  that are given.
-/

namespace Verdict

/-- The name and the parameter of a tag. -/
def Tag.clause {ρ : Type} (t : Tag ρ) : String × String := (t.name, t.param)

namespace Registry

variable {ρ : Type} (r : Registry ρ)

/-- Whether a name can be bound: it is not empty and has a rule. -/
def knows (name : String) : Bool := !name.isEmpty && r.contains name

/-- A clause with the rule of its name. -/
def tag? (clause : String × String) : Option (Tag ρ) :=
  (r.get? clause.1).map fun rule => ⟨clause.1, clause.2, rule⟩

variable {r}

/-- A name is contained if a rule is found under it. -/
lemma contains_eq (r : Registry ρ) (name : String) : r.contains name = (r.get? name).isSome := rfl

/-- A name is known if it is not empty and has a rule. -/
lemma knows_iff {name : String} :
    r.knows name = true ↔ name ≠ "" ∧ ∃ rule, r.get? name = some rule := by
  rw [knows, Bool.and_eq_true, contains_eq, Option.isSome_iff_exists, Bool.not_eq_true',
    ← Bool.not_eq_true, String.isEmpty_iff]

/-- A known name is bound to its rule. -/
lemma bind_of_knows {clause : String × String} (h : r.knows clause.1 = true) :
    ∃ tag, r.tag? clause = some tag ∧ r.bind clause.1 clause.2 = .ok tag := by
  obtain ⟨hne, rule, hrule⟩ := knows_iff.mp h
  refine ⟨⟨clause.1, clause.2, rule⟩, by rw [tag?, hrule]; rfl, ?_⟩
  rw [bind, if_neg (by rwa [String.isEmpty_iff]), hrule]

/-- An unknown name is the error. -/
lemma bind_of_not_knows {name : String} (h : r.knows name = false) (param : String) :
    r.bind name param = .error (.unknownRule name) := by
  rw [bind]
  split_ifs with hempty
  · rfl
  · cases hrule : r.get? name with
    | none => rfl
    | some rule =>
      have := knows_iff.mpr ⟨by rwa [String.isEmpty_iff] at hempty, rule, hrule⟩
      rw [h] at this
      contradiction

/-- Clauses are bound to the rules of their names, unless there is a first one whose name is
unknown.

**Proof sketch.** Induction on the clauses. An unknown name ends the binding, and a known one gets
its rule. -/
lemma bindAll_eq (r : Registry ρ) (clauses : List (String × String)) :
    r.bindAll clauses =
      match clauses.find? fun clause => !r.knows clause.1 with
      | some clause => .error (.unknownRule clause.1)
      | none => .ok (clauses.filterMap r.tag?) := by
  induction clauses with
  | nil => rfl
  | cons clause clauses ih =>
    rw [bindAll]
    cases h : r.knows clause.1 with
    | false => rw [bind_of_not_knows h, List.find?_cons_of_pos (by simp [h])]
    | true =>
      obtain ⟨tag, htag, hbind⟩ := bind_of_knows h
      rw [hbind, ih, List.find?_cons_of_neg (by simp [h]), List.filterMap_cons_some htag]
      cases clauses.find? fun clause => !r.knows clause.1 <;> rfl

/-- Clauses with known names keep their names and parameters, and get the rules of these names.

**Proof sketch.** Induction on the clauses, where a name that is known gets the rule that is found
under it. -/
lemma bindAll_of_knows {clauses : List (String × String)}
    (h : ∀ clause ∈ clauses, r.knows clause.1 = true) :
    ∃ tags, r.bindAll clauses = .ok tags ∧ tags.map Tag.clause = clauses ∧
      ∀ tag ∈ tags, r.get? tag.name = some tag.rule := by
  induction clauses with
  | nil => exact ⟨[], rfl, rfl, by simp⟩
  | cons clause clauses ih =>
    obtain ⟨hclause, hclauses⟩ := List.forall_mem_cons.mp h
    obtain ⟨tags, hbind, hmap, hrules⟩ := ih hclauses
    obtain ⟨-, rule, hrule⟩ := knows_iff.mp hclause
    refine ⟨⟨clause.1, clause.2, rule⟩ :: tags, ?_, by rw [List.map_cons, hmap]; rfl,
      List.forall_mem_cons.mpr ⟨hrule, hrules⟩⟩
    obtain ⟨tag, htag, hbound⟩ := bind_of_knows hclause
    rw [tag?, hrule, Option.map_some, Option.some_inj] at htag
    rw [bindAll, hbound, hbind, ← htag]

/-- Clauses can be bound if all names are known, and then the clauses of the tags are those that
were given.

**Proof sketch.** If clauses can be bound, then no name is unknown (`bindAll_eq`), and they keep
their names and parameters (`bindAll_of_knows`). -/
lemma exists_bindAll_iff {clauses expected : List (String × String)} :
    (∃ tags, r.bindAll clauses = .ok tags ∧ tags.map Tag.clause = expected) ↔
      clauses = expected ∧ ∀ clause ∈ expected, r.knows clause.1 = true := by
  constructor
  · rintro ⟨tags, hbind, hmap⟩
    have hknown : ∀ clause ∈ clauses, r.knows clause.1 = true := by
      rw [bindAll_eq] at hbind
      cases hfind : clauses.find? fun clause => !r.knows clause.1 with
      | some clause =>
        rw [hfind] at hbind
        contradiction
      | none => simpa using List.find?_eq_none.mp hfind
    obtain ⟨tags', hbind', hmap', -⟩ := bindAll_of_knows hknown
    rw [hbind', Except.ok.injEq] at hbind
    rw [hbind, hmap] at hmap'
    exact ⟨hmap'.symm, hmap' ▸ hknown⟩
  · rintro ⟨rfl, hknown⟩
    obtain ⟨tags, hbind, hmap, -⟩ := bindAll_of_knows hknown
    exact ⟨tags, hbind, hmap⟩

/-- Two lists of clauses are bound one after the other. -/
lemma bindAll_append (r : Registry ρ) (first second : List (String × String)) :
    r.bindAll (first ++ second) =
      match r.bindAll first with
      | .error e => .error e
      | .ok tags =>
        match r.bindAll second with
        | .error e => .error e
        | .ok more => .ok (tags ++ more) := by
  rw [bindAll_eq, bindAll_eq, bindAll_eq, List.find?_append, List.filterMap_append]
  cases first.find? fun clause => !r.knows clause.1 with
  | some clause => rfl
  | none => cases second.find? fun clause => !r.knows clause.1 <;> rfl

end Registry

end Verdict
