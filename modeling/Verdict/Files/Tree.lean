import Verdict.Files.Path

/-!
# Files

What a program finds at a path, and a tree of files in memory to find it in.

## Main definitions

* `Verdict.Entry` — what is at a path.
* `Verdict.FileTree` — files in memory, with a working directory.
* `Verdict.FileTree.entry?` — what is at a path.
* `Verdict.FileTree.store?` — write a file.
-/

namespace Verdict

/-- What is at a path. -/
inductive Entry where
  | file (text : String)
  | directory
  /-- A file that is no text or must not be read. -/
  | unreadable
  deriving Repr, DecidableEq

/-- Files in memory by their place, which is a list of names from the root on. A place above a file
or above the working directory is a directory. -/
structure FileTree where
  files : List (List String × String)
  workingDirectory : List String
  deriving Repr, DecidableEq

namespace FileTree

/-- What is at a place. -/
def at? (t : FileTree) (place : List String) : Option Entry :=
  match t.files.find? fun f => f.1 == place with
  | some f => some (.file f.2)
  | none =>
    if place.isPrefixOf t.workingDirectory || t.files.any fun f => place.isPrefixOf f.1 then
      some .directory
    else none

/-- Follow the parts of a path from a place. Every place that is left has to be a directory, or, if
directories may still be created, no file. -/
def follow (t : FileTree) (creating : Bool) (place : List String) :
    List String → Option (List String)
  | [] => some place
  | part :: rest =>
    if t.at? place == some .directory || (creating && t.at? place == none) then
      if part == "" || part == "." then follow t creating place rest
      else if part == ".." then follow t creating place.dropLast rest
      else follow t creating (place ++ [part]) rest
    else none

/-- The place of a path. -/
def place? (t : FileTree) (creating : Bool) (path : String) : Option (List String) :=
  if path.isEmpty || !Path.isPossible path then none
  else if Path.isAbsolute path then t.follow creating [] (Path.parts path)
  else t.follow creating t.workingDirectory (Path.parts path)

/-- What is at a path. -/
def entry? (t : FileTree) (path : String) : Option Entry := (t.place? false path).bind t.at?

/-- Write a file, creating the directories above it. None if a file is in the way or the path is
one of a directory. -/
def store? (t : FileTree) (path text : String) : Option FileTree :=
  (t.place? true path).bind fun place =>
    if t.at? place == some .directory ||
        ["", ".", ".."].contains ((Path.parts path).getLast?.getD "")
    then none
    else
      some { t with files := t.files.filter (fun f => f.1 != place) ++ [(place, text)] }

end FileTree

end Verdict
