/-!
# Paths

Paths as texts: names between slashes, the last of which may have an extension.

## Main definitions

* `Verdict.Path.parts` — what stands between the slashes.
* `Verdict.Path.stem?`, `Verdict.Path.extension?` — the two halves of the last name.
* `Verdict.Path.join` — a name below a path.
* `Verdict.Path.isPossible` — whether there can be anything at a path.
-/

namespace Verdict.Path

/-- Whether a path starts at the root. -/
def isAbsolute (path : String) : Bool := path.toList.head? = some '/'

/-- Cut a text at every slash, after the characters of the current part in reverse. -/
def partsFrom (current : List Char) : List Char → List String
  | [] => [String.ofList current.reverse]
  | '/' :: rest => String.ofList current.reverse :: partsFrom [] rest
  | c :: rest => partsFrom (c :: current) rest

/-- What stands between the slashes of a path. -/
def parts (path : String) : List String := partsFrom [] path.toList

/-- The greatest number of bytes of a name. -/
def longestName : Nat := 255

/-- The greatest number of bytes of a path. -/
def longestPath : Nat := 4095

/-- Whether there can be anything at a path: it is not too long, none of its names is, and it holds
no null character. -/
def isPossible (path : String) : Bool :=
  !path.toList.contains '\x00' && path.utf8ByteSize ≤ longestPath &&
    (parts path).all fun part => part.utf8ByteSize ≤ longestName

/-- The last name of a path, if the path ends with a name and does not lead upwards. -/
def fileName? (path : String) : Option String :=
  ((parts path).filter fun part => part != "" && part != ".").getLast?.filter (· != "..")

/-- A name before and behind its last dot. A dot at the start of the name does not count. -/
def splitName (name : String) : String × Option String :=
  let reversed := name.toList.reverse
  let extension := (reversed.takeWhile (· != '.')).reverse
  match reversed.dropWhile (· != '.') with
  | _ :: c :: stem => (String.ofList (c :: stem).reverse, some (String.ofList extension))
  | _ => (name, none)

/-- The last name of a path without its extension. -/
def stem? (path : String) : Option String := (fileName? path).map fun name => (splitName name).1

/-- The extension of the last name of a path. -/
def extension? (path : String) : Option String :=
  (fileName? path).bind fun name => (splitName name).2

/-- A relative path below another path. -/
def join (path below : String) : String :=
  if path.isEmpty then below
  else if path.toList.getLast? = some '/' then path ++ below
  else path ++ "/" ++ below

/-- The path of the directory that a path leads into last; empty if the path has one name only. -/
def parent (path : String) : String :=
  String.ofList ((path.toList.reverse.dropWhile (· != '/')).dropWhile (· == '/')).reverse

end Verdict.Path
