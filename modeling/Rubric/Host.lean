/-
  Rubric.Host

  What a program sees of the machine it runs on.

  Everything that reads files does so through a host, whose answers come in a
  monad: the identity where the files are a value, input and output where they
  are real.
-/
import Rubric.Network
import Rubric.Path

namespace Rubric

/-- The files, the settings of the user and the network. -/
structure Host (m : Type → Type) where
  /-- The text of a file. -/
  readText : String → m (Except FileFault String)
  /-- Whether a path leads to a file. -/
  isFile : String → m Bool
  /-- What keeps a path from leading anywhere, if something does. -/
  faultOf : String → m (Option FileFault)
  /-- The directory that relative paths are taken from. -/
  here : String
  /-- Where the user keeps settings. -/
  settingsDirectory : Option String
  network : Network

end Rubric
