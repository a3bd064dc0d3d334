import Verdict.Errors.Index
import Verdict.Json.Basic
import Verdict.Rule.Tag

/-!
# Errors by path

The outcome of a validation: at most one error for each path, in the order in which the paths first
had one. An index beside the entries finds a path without a search, and is always in step with them.

## Main definitions

* `Verdict.FieldError` — what is wrong at a path.
* `Verdict.Errors` — the errors by path.
* `Verdict.Errors.add` — the first error of a path stays.
* `Verdict.Errors.appendScoped` — the errors of a part, under the path of the part.
* `Verdict.Errors.toJson`, `Verdict.Errors.response` — errors as data.
-/

namespace Verdict

/-- What is wrong at a path. -/
inductive FieldError where
  /-- A rule failed, with a message made for it. -/
  | message (text : String)
  /-- A rule failed for which there is no message. -/
  | failed
  /-- The rules of the field name one that is not registered. -/
  | unknownRule (name : String)
  /-- The field holds a record beyond the nesting limit. -/
  | depthExceeded (limit : Nat)
  deriving Repr, DecidableEq

namespace FieldError

/-- The wording of an error. -/
def text : FieldError → String
  | .message text => text
  | .failed => "validation failed"
  | .unknownRule name => (TagError.unknownRule name).message
  | .depthExceeded limit => "maximum nesting depth of " ++ toString limit ++ " exceeded"

/-- The error of a field whose rules cannot be bound. -/
def ofTagError : TagError → FieldError
  | .unknownRule name => .unknownRule name

/-- The diagnostic listing of an error. -/
def listing : FieldError → Text.Listing
  | .message text => .call "Message" [.text text]
  | .failed => .atom "Failed"
  | .unknownRule name => .fields "UnknownRule" [("name", .text name)] false
  | .depthExceeded limit =>
    .fields "DepthExceeded" [("limit", .atom (toString limit))] false

end FieldError

/-- Errors by path, in order, with the position of every path. -/
structure Errors where
  entries : Array (String × FieldError)
  index : Std.HashMap String Nat
  indexed : Errors.Indexed (entries.toList.map (·.1)) index

namespace Errors

/-- No errors. -/
def empty : Errors := ⟨#[], {}, indexed_empty⟩

/-- The paths with their errors, in order. -/
def toList (e : Errors) : List (String × FieldError) := e.entries.toList

/-- The number of paths with an error. -/
def size (e : Errors) : Nat := e.entries.size

/-- Whether there are no errors. -/
def isEmpty (e : Errors) : Bool := e.entries.isEmpty

/-- The paths in order. -/
def paths (e : Errors) : List String := e.toList.map (·.1)

/-- Whether a path has an error. -/
def contains (e : Errors) (path : String) : Bool := e.index.contains path

/-- The error of a path. -/
def get? (e : Errors) (path : String) : Option FieldError :=
  e.index[path]?.bind fun i => e.entries[i]?.map (·.2)

/-- The index stays in step when an error at a free path is put at the end. -/
theorem indexed_push (e : Errors) {path : String}
    (hfree : ¬(path.isEmpty || e.contains path) = true) (error : FieldError) :
    Indexed ((e.entries.push (path, error)).toList.map (·.1))
      (e.index.insert path e.entries.size) := by
  have hpush := e.indexed.push hfree
  rw [List.length_map, Array.length_toList] at hpush
  rwa [Array.toList_push, List.map_append]

/-- Give a path an error. The empty path and a path with an error are left alone; the flag tells
whether the error was taken. -/
def add (e : Errors) (path : String) (error : FieldError) : Bool × Errors :=
  if hfree : path.isEmpty || e.contains path then (false, e)
  else
    (true,
      { entries := e.entries.push (path, error)
        index := e.index.insert path e.entries.size
        indexed := e.indexed_push hfree error })

/-- Give a path an error, whether or not it is taken. -/
def record (e : Errors) (path : String) (error : FieldError) : Errors := (e.add path error).2

/-- The paths after one is taken out. -/
theorem paths_eraseIdx (e : Errors) (i : Nat) :
    (e.entries.eraseIdxIfInBounds i).toList.map (·.1) = e.paths.eraseIdx i := by
  rw [Array.toList_eraseIdxIfInBounds, paths, toList]
  apply List.ext_getElem?
  intro j
  simp only [List.getElem?_map, List.getElem?_eraseIdx]
  split <;> rfl

/-- The index stays in step when the error of a path is taken out and the paths behind it move
up. -/
theorem indexed_erase (e : Errors) {path : String} {i : Nat} (hi : e.index[path]? = some i) :
    Indexed ((e.entries.eraseIdxIfInBounds i).toList.map (·.1))
      (moveUp (e.index.erase path)
        (((e.entries.eraseIdxIfInBounds i).toList.map (·.1)).drop i)) := by
  rw [paths_eraseIdx, drop_eraseIdx]
  exact e.indexed.eraseIdx hi

/-- Take away the error of a path; the paths after it move up by one position. -/
def remove (e : Errors) (path : String) : Option FieldError × Errors :=
  match hi : e.index[path]? with
  | none => (none, e)
  | some i =>
    let entries := e.entries.eraseIdxIfInBounds i
    (e.entries[i]?.map (·.2),
      { entries := entries
        index := moveUp (e.index.erase path) ((entries.toList.map (·.1)).drop i)
        indexed := e.indexed_erase hi })

/-- Add errors in order. -/
def extend (e : Errors) (items : List (String × FieldError)) : Errors :=
  items.foldl (fun e item => e.record item.1 item.2) e

/-- The first error of each path of a list. -/
def ofList (items : List (String × FieldError)) : Errors := empty.extend items

/-- Add the errors of a part, each path behind the path of the part and a dot. -/
def appendScoped (e : Errors) (scope : String) (child : Errors) : Errors :=
  child.toList.foldl (fun e item => e.record (scope ++ "." ++ item.1) item.2) e

/-- The texts of the errors in ascending order of the paths. -/
def toTable (e : Errors) : Table String :=
  Table.ofList (e.toList.map fun item => (item.1, item.2.text))

/-- Whether two collections agree in their entries and in their indexes. -/
def same (a b : Errors) : Bool :=
  a.entries == b.entries && a.index.size == b.index.size &&
    a.index.toList.all fun item => b.index[item.1]? == some item.2

/-! ### What is shown of errors -/

/-- What heads every report of errors. -/
def heading : String := "Validation Error(s)"

/-- The status that goes with a response to errors. -/
def responseStatus : Nat := 400

/-- The errors as a text of several lines. -/
def text (e : Errors) : String :=
  e.toList.foldl (fun text item => text ++ "\n  " ++ item.1 ++ ": " ++ item.2.text)
    (heading ++ ":")

/-- The texts of the errors by path, in order, as data. -/
def toJson (e : Errors) : Json := .obj (e.toList.map fun item => (item.1, .str item.2.text))

/-- The body of a response: the heading and the errors. -/
def response (e : Errors) : Json :=
  .obj [("message", .str heading), ("errors", e.toJson)]

/-- The diagnostic listing of errors. -/
def listing (e : Errors) : Text.Listing :=
  .fields "Errors"
    [("entries", .list (e.toList.map fun item => .call "" [.text item.1, item.2.listing])),
      ("index", .map (e.index.toList.map fun item => (.text item.1, .atom (toString item.2))))]
    false

end Errors

end Verdict
