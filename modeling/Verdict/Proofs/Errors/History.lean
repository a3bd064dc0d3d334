import Verdict.Proofs.Errors.Index
import Verdict.Proofs.Table.Ordered

/-!
# Histories of errors

Whatever is done to a collection of errors, one after the other and starting from nothing, shows the
same as if it were done to a plain ordered list; and the index, which is in step with the entries
all along, finds in them what a search would find.

## Main definitions

* `Verdict.Keeper` — a way of keeping errors by path: the operations on it.
* `Verdict.Errors.Step`, `Verdict.Errors.Reply` — one operation, and what it answers.
* `Verdict.Keeper.run` — a whole history of operations.
* `Verdict.Errors.Mirrors` — a collection shows what a plain list shows.

## Main results

* `Verdict.Errors.mirrors` — a collection shows what the list of its entries shows.
* `Verdict.Errors.same_iff` — collections agree as soon as their entries do.
* `Verdict.Errors.run_refines_entries` — every history, on a collection and on a plain list.

## Design

One history is run on both sides: the same function plays the steps for the operations of either.
A part that is merged under a path has a history of its own, so steps contain histories, and the
induction over histories goes into them.
-/

namespace Verdict

/-- A way of keeping errors by path. -/
structure Keeper (ε : Type) where
  empty : ε
  add : ε → String → FieldError → Bool × ε
  remove : ε → String → Option FieldError × ε
  extend : ε → Entries → ε
  appendScoped : ε → String → ε → ε
  collect : Entries → ε
  entries : ε → Entries

/-- Errors kept with an index. -/
def Errors.keeper : Keeper Errors where
  empty := Errors.empty
  add := Errors.add
  remove := Errors.remove
  extend := Errors.extend
  appendScoped := Errors.appendScoped
  collect := Errors.ofList
  entries := Errors.toList

/-- Errors kept as a plain list. -/
def Entries.keeper : Keeper Entries where
  empty := []
  add := Entries.add
  remove := Entries.remove
  extend := Entries.extend
  appendScoped := Entries.appendScoped
  collect := Entries.extend []
  entries := id

namespace Errors

/-- One operation of a history. -/
inductive Step where
  | add (path : String) (error : FieldError)
  | remove (path : String)
  | extend (items : Entries)
  /-- Merge a part, which has a history of its own, under a path. -/
  | appendScoped (scope : String) (child : List Step)
  /-- Go on with a collection made of a list. -/
  | collect (items : Entries)
  /-- Take everything out and go on with nothing. -/
  | take

/-- What an operation answers. -/
inductive Reply where
  | added (taken : Bool)
  | removed (error? : Option FieldError)
  | took (entries : Entries)
  | done
  deriving Repr, DecidableEq

end Errors

namespace Keeper

open Errors (Step Reply)

variable {ε : Type}

mutual

/-- Do one operation. -/
def step (k : Keeper ε) (e : ε) : Step → Reply × ε
  | .add path error => (.added (k.add e path error).1, (k.add e path error).2)
  | .remove path => (.removed (k.remove e path).1, (k.remove e path).2)
  | .extend items => (.done, k.extend e items)
  | .appendScoped scope child => (.done, k.appendScoped e scope (run k k.empty child).2)
  | .collect items => (.done, k.collect items)
  | .take => (.took (k.entries e), k.empty)

/-- Do the operations of a history in order. -/
def run (k : Keeper ε) (e : ε) : List Step → List Reply × ε
  | [] => ([], e)
  | first :: rest =>
    let (reply, next) := step k e first
    let (replies, last) := run k next rest
    (reply :: replies, last)

end

end Keeper

namespace Errors

variable {e : Errors}

/-- A collection shows what a plain list shows, and what its operations rely on holds. -/
structure Mirrors (e : Errors) (l : Entries) : Prop where
  toList_eq : e.toList = l
  size_eq : e.size = l.length
  isEmpty_iff : e.isEmpty = true ↔ l = []
  get?_eq : ∀ path, e.get? path = l.get? path
  contains_iff : ∀ path, e.contains path = true ↔ path ∈ l.paths
  /-- The table of texts has the entries of the list, in the order of the paths. -/
  toTable : e.toTable.Perm (l.map fun entry => (entry.1, entry.2.text)) ∧ e.toTable.Ordered ∧
    e.toTable.length = l.length
  nodup : l.paths.Nodup
  empty_notMem : "" ∉ l.paths
  /-- The index sends a path to a position exactly when the entry there has the path. -/
  index_iff : ∀ (path : String) (i : Nat),
    e.index[path]? = some i ↔ ∃ error, e.entries[i]? = some (path, error)
  /-- Positions that are looked up are those of entries. -/
  lt_size : ∀ (path : String) (i : Nat), e.index[path]? = some i → i < e.entries.size
  /-- Taking an entry away moves the later ones up one by one, and none of them is at the first
  position when its turn comes. -/
  moveUp_pos : ∀ (path : String) (i : Nat), e.index[path]? = some i →
    (e.remove path).2.index = moveUp (e.index.erase path) (e.paths.drop (i + 1)) ∧
    ∀ before later rest, e.paths.drop (i + 1) = before ++ later :: rest →
      ∃ n, (moveUp (e.index.erase path) before)[later]? = some (n + 1)

/-! ### What is seen of a collection -/

/-- The table of texts has the entries of the list. -/
lemma toTable_perm (e : Errors) :
    e.toTable.Perm (e.toList.map fun entry => (entry.1, entry.2.text)) := by
  apply Table.ofList_perm
  rw [List.map_map]
  exact e.nodup_paths

/-- A collection shows what the list of its entries shows.

**Proof sketch.** What the operations on lists say of a collection are facts about its entries. The
index finds each path at its position, as the collection carries a proof of that, and from this
proof also follows that no position is zero when it moves up (`Indexed.moveUp_pos`). -/
lemma mirrors (e : Errors) : e.Mirrors e.toList where
  toList_eq := rfl
  size_eq := by simp [size, toList]
  isEmpty_iff := isEmpty_iff
  get?_eq := e.get?_eq
  contains_iff := e.contains_iff
  toTable := by
    refine ⟨e.toTable_perm, Table.ordered_ofList _, ?_⟩
    rw [e.toTable_perm.length_eq, List.length_map]
  nodup := e.nodup_paths
  empty_notMem := e.empty_notMem
  index_iff path i := by
    refine ⟨getElem?_entries, ?_⟩
    rintro ⟨error, herror⟩
    rw [e.index_iff, paths, toList, List.getElem?_map, Array.getElem?_toList, herror]
    rfl
  lt_size _ _ := lt_size
  moveUp_pos path i hi := by
    refine ⟨(remove_of_index hi).2, fun before later rest hsplit => ?_⟩
    exact e.indexed.moveUp_pos hi hsplit

/-- Collections agree as soon as their entries do.

**Proof sketch.** Both indexes give a path the same position, namely the one among the common
paths; so they are equivalent as maps, and equally large. -/
lemma same_iff {a b : Errors} : a.same b = true ↔ a.toList = b.toList := by
  constructor
  · intro h
    simp only [same, Bool.and_eq_true, beq_iff_eq] at h
    rw [toList, toList, h.1.1]
  · intro h
    have hpaths : a.paths = b.paths := by rw [paths, paths, h]
    have hindex : ∀ path : String, a.index[path]? = b.index[path]? := by
      intro path
      apply Option.ext
      intro i
      rw [a.index_iff, b.index_iff, hpaths]
    have hsize := (Std.HashMap.Equiv.of_forall_getElem?_eq hindex).size_eq
    simp only [same, Bool.and_eq_true, beq_iff_eq, List.all_eq_true]
    refine ⟨⟨Array.toList_inj.mp h, hsize⟩, fun item hitem => ?_⟩
    rw [← hindex]
    exact Std.HashMap.mem_toList_iff_getElem?_eq_some.mp hitem

/-! ### Runs -/

mutual

/-- One operation answers the same on a collection and on the list of its entries, and the two are
that again afterwards.

**Proof sketch.** By the operation. For all but the merging of a part, this is the lemma about the
operation on the entries. The part that is merged comes of a history of its own, started from
nothing; by induction its entries are those of the list that the history makes. -/
lemma step_toList {e : Errors} {l : Entries} (h : e.toList = l) : ∀ s : Step,
    (keeper.step e s).1 = (Entries.keeper.step l s).1 ∧
      (keeper.step e s).2.toList = (Entries.keeper.step l s).2
  | .add path error => by
    subst h
    exact ⟨congrArg Reply.added (e.add_fst path error), e.toList_add path error⟩
  | .remove path => by
    subst h
    exact ⟨congrArg Reply.removed (e.remove_fst path), e.toList_remove path⟩
  | .extend items => by
    subst h
    exact ⟨rfl, e.toList_extend items⟩
  | .appendScoped scope child => by
    subst h
    obtain ⟨-, hchild⟩ := run_toList (e := .empty) (l := []) rfl child
    have hmerge : (keeper.step e (.appendScoped scope child)).2 =
        e.extend (Entries.under scope (Entries.keeper.run [] child).2) := by
      rw [← hchild]
      exact appendScoped_eq_extend e scope _
    rw [hmerge]
    exact ⟨rfl, e.toList_extend _⟩
  | .collect items => ⟨rfl, empty.toList_extend items⟩
  | .take => by
    subst h
    exact ⟨rfl, rfl⟩

/-- So does a history. -/
lemma run_toList {e : Errors} {l : Entries} (h : e.toList = l) : ∀ history : List Step,
    (keeper.run e history).1 = (Entries.keeper.run l history).1 ∧
      (keeper.run e history).2.toList = (Entries.keeper.run l history).2
  | [] => ⟨rfl, h⟩
  | first :: rest => by
    obtain ⟨hreply, hnext⟩ := step_toList h first
    obtain ⟨hreplies, hlast⟩ := run_toList hnext rest
    exact ⟨congrArg₂ List.cons hreply hreplies, hlast⟩

end

/-- **Errors by path are a plain ordered list.** Every history of operations, started from nothing,
answers as on such a list, and what can be seen of the collection afterwards is what the list shows.
Two collections reached in this way agree, in entries and index, exactly when their lists of entries
do. -/
theorem run_refines_entries (history : List Step) :
    (keeper.run .empty history).1 = (Entries.keeper.run [] history).1 ∧
      (keeper.run .empty history).2.Mirrors (Entries.keeper.run [] history).2 ∧
      ∀ other : List Step,
        (keeper.run .empty history).2.same (keeper.run .empty other).2 = true ↔
          (keeper.run .empty history).2.toList = (keeper.run .empty other).2.toList := by
  obtain ⟨hreplies, hentries⟩ := run_toList (e := .empty) (l := []) rfl history
  refine ⟨hreplies, ?_, fun other => same_iff⟩
  rw [← hentries]
  exact mirrors _

end Errors

end Verdict
