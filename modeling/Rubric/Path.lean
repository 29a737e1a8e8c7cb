/-
  Rubric.Path

  Paths of files, as texts.

  Names are separated by slashes. Slashes in a row, slashes at the end and names
  that are a single dot add nothing to a path; only a dot at the very beginning
  counts as a name. Nothing here looks at files, so `..` is a name like others.
-/
import Rubric.Text.Line

namespace Rubric.Path

/-- Whether a path starts at the root. -/
def isAbsolute (path : String) : Bool :=
  path.toList.head? == some '/'

/-- A path, read backwards, without what adds nothing at its end. -/
def dropTail : List Char → List Char
  | ['/'] => ['/']
  | '/' :: rest => dropTail rest
  | '.' :: '/' :: rest => dropTail ('/' :: rest)
  | cs => cs
termination_by cs => cs.length

/-- The last name of a path, and the path before it read backwards. -/
def splitLast? (path : String) : Option (String × List Char) :=
  match dropTail path.toList.reverse with
  | [] => none
  | ['/'] => none
  | cs =>
    some (String.ofList (cs.takeWhile (· != '/')).reverse, dropTail (cs.dropWhile (· != '/')))

/-- The path of what holds the last name. -/
def parent? (path : String) : Option String :=
  (splitLast? path).map fun split => String.ofList split.2.reverse

/-- The last name of a path, unless that is a dot or two. -/
def fileName? (path : String) : Option String :=
  match splitLast? path with
  | some (name, _) => if name == "." || name == ".." then none else some name
  | none => none

/-- What follows the last dot of a file name. A dot in front starts no extension. -/
def extension? (path : String) : Option String :=
  match fileName? path with
  | none => none
  | some name =>
    let backwards := name.toList.reverse
    match backwards.dropWhile (· != '.') with
    | _ :: _ :: _ => some (String.ofList (backwards.takeWhile (· != '.')).reverse)
    | _ => none

/-- A path that is taken from a directory on; an absolute one stays as it is. -/
def join (base path : String) : String :=
  if isAbsolute path then path
  else if base.isEmpty || base.toList.getLast? == some '/' then base ++ path
  else base ++ "/" ++ path

/-- The names of a path that add to it. -/
def names (path : String) : List String :=
  let parts := (path.toList.splitOn '/').map String.ofList
  match parts with
  | "." :: rest => "." :: rest.filter fun n => n != "" && n != "."
  | parts => parts.filter fun n => n != "" && n != "."

end Rubric.Path
