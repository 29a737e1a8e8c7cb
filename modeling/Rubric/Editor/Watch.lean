/-
  Rubric.Editor.Watch

  Watching a template file.

  What is watched is the directory that holds the file, because editors often
  save a file by putting another one in its place.
-/
import Rubric.Host
import Rubric.Text.Quoted

namespace Rubric.Editor

/-- A directory that is watched for changes of one file. -/
structure Watch where
  directory : String
  name : String
deriving DecidableEq, Repr, Inhabited

namespace Watch

/-- The watch that a template file needs. -/
def ofPath? (path : String) : Option Watch :=
  (Path.fileName? path).map fun name =>
    let above := (Path.parent? path).getD ""
    ⟨if above.isEmpty then "." else above, name⟩

/-- What keeps a directory from being watched. -/
def faultText : FileFault → String
  | .notFound => "No path was found."
  | fault => fault.toText

/-- Starts to watch a template file; otherwise there is a text that says why not. -/
def start {m : Type → Type} [Monad m] (host : Host m) (path : String) :
    m (Except String Watch) := do
  match ofPath? path with
  | none => pure (.error s!"Not a file: {path}")
  | some watch =>
    match ← host.faultOf watch.directory with
    | none => pure (.ok { watch with directory := Path.join host.here watch.directory })
    | some fault =>
      let full := Text.quoted (Path.join host.here watch.directory)
      pure (.error s!"Failed to watch {watch.directory}: {faultText fault} about [{full}]")

/-- The path under which a change of the file is reported. -/
def filePath (watch : Watch) : String :=
  Path.join watch.directory watch.name

end Watch

end Rubric.Editor
