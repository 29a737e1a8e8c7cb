/-
  Rubric.FileTree

  Files and directories as a value.

  A tree lists its files by the names on their way from the root. The directories
  on these ways are there, and those that are listed by themselves. A path is
  followed name by name: only a directory can be passed through, a dot stays in
  it, and two dots go back.
-/
import Rubric.Host
import Rubric.Json.Basic

namespace Rubric

/-- Files and directories. -/
structure FileTree where
  files : List (List String × String) := []
  directories : List (List String) := []
deriving Repr, Inhabited

namespace FileTree

/-- What a path leads to: the text of a file, or a directory by its names. -/
inductive Entry where
  | file (text : String)
  | directory (names : List String)
deriving DecidableEq, Repr, Inhabited

/-- Whether there is a directory of these names. -/
def hasDirectory (tree : FileTree) (names : List String) : Bool :=
  names.isEmpty || tree.directories.any names.isPrefixOf
    || tree.files.any fun f => names.isPrefixOf f.1 && names.length < f.1.length

/-- What has these names. -/
def entry? (tree : FileTree) (names : List String) : Option Entry :=
  match tree.files.find? fun f => f.1 == names with
  | some (_, text) => some (.file text)
  | none => if tree.hasDirectory names then some (.directory names) else none

/-- Follows names from an entry on. -/
def follow (tree : FileTree) : Entry → List String → Except FileFault Entry
  | here, [] => .ok here
  | .file _, _ :: _ => .error .notDirectory
  | .directory names, name :: rest =>
    if name == "" || name == "." then follow tree (.directory names) rest
    else if name == ".." then follow tree (.directory names.dropLast) rest
    else if 255 < name.utf8ByteSize then .error .nameTooLong
    else match tree.entry? (names ++ [name]) with
      | some next => follow tree next rest
      | none => .error .notFound

/-- What a path leads to from a directory on. -/
def find (tree : FileTree) (here : List String) (path : String) : Except FileFault Entry :=
  if path.toList.contains '\x00' then .error .badName
  else if path.isEmpty then .error .notFound
  else
    let parts := (path.toList.splitOn '/').map String.ofList
    tree.follow (.directory (if Path.isAbsolute path then [] else here)) parts

/-- The text of a file. -/
def readText (tree : FileTree) (here : List String) (path : String) : Except FileFault String :=
  match tree.find here path with
  | .ok (.file text) => .ok text
  | .ok (.directory _) => .error .isDirectory
  | .error fault => .error fault

/-- Whether a path leads to a file. -/
def isFile (tree : FileTree) (here : List String) (path : String) : Bool :=
  match tree.find here path with
  | .ok (.file _) => true
  | _ => false

/-- What keeps a path from leading anywhere, if something does. -/
def faultOf (tree : FileTree) (here : List String) (path : String) : Option FileFault :=
  match tree.find here path with
  | .ok _ => none
  | .error fault => some fault

/-- The path of some names from the root. -/
def pathOf (names : List String) : String :=
  "/" ++ String.intercalate "/" names

/-- Writes a file. -/
def write (tree : FileTree) (names : List String) (text : String) : FileTree :=
  { tree with files := (tree.files.filter fun f => f.1 != names) ++ [(names, text)] }

/-- The tree as a host, seen from a directory. -/
def host (tree : FileTree) (here : List String) (settingsDirectory : Option String)
    (network : Network) : Host Id where
  readText := tree.readText here
  isFile := tree.isFile here
  faultOf := tree.faultOf here
  here := pathOf here
  settingsDirectory := settingsDirectory
  network := network

end FileTree

end Rubric
