/-
  Rubric.Project.Config

  What a run is configured to do.

  Flags win over the settings of the project, and those over the defaults. The
  settings of a project are those of the nearest directory, at or above the
  working directory, that has a settings file. A relative path in them is taken
  from that directory.
-/
import Rubric.Project.Settings
import Rubric.Duration
import Rubric.Host
import Rubric.Location

namespace Rubric

/-- What the command line asks for. -/
structure Flags where
  template : Option String := none
  templatePath : Option String := none
  timeoutSeconds : Option Nat := none
  endpoint : Option String := none
  model : Option String := none
  logLevel : String := "info"
deriving DecidableEq, Repr, Inhabited

/-- The server that checks instructions, and the model it is to use. -/
structure ModelServer where
  endpoint : String
  model : String
deriving DecidableEq, Repr, Inhabited

/-- A configuration. -/
structure Config where
  template : Option String := none
  /-- The template file; the built-in templates where there is none. -/
  templatePath : Option String := none
  timeout : Option Duration := none
  /-- What checks instructions; they pass unchecked where there is none. -/
  modelServer : Option ModelServer := none
  logLevel : String := "info"
  /-- The settings file that was applied. -/
  settingsFile : Option String := none
deriving DecidableEq, Repr, Inhabited

namespace Config

/-- The name of the settings file of a project. -/
def settingsName : String := ".doc-structure-lint.toml"

/-- Where instructions are checked if nothing else is said. -/
def defaultEndpoint : String := "http://localhost:11434"

/-- The model that checks instructions if nothing else is said. -/
def defaultModel : String := "llama3.2:3b"

/-- A path and the paths above it, nearest first. -/
def ancestors : (fuel : Nat) → String → List String
  | 0, _ => []
  | fuel + 1, path =>
    path :: match Path.parent? path with
      | some above => ancestors fuel above
      | none => []

/-- The places where the settings file of a project is looked for. -/
def candidates (here : String) : List String :=
  (ancestors (here.length + 1) here).map fun dir => Path.join dir settingsName

variable {m : Type → Type} [Monad m]

/-- The first of some paths that leads to a file. -/
def firstFile (host : Host m) : List String → m (Option String)
  | [] => pure none
  | path :: rest => do
    if ← host.isFile path then pure (some path) else firstFile host rest

/-- The settings in a file. -/
def loadSettings (host : Host m) (path : String) : m (Except Failure Project.Settings) := do
  match ← host.readText path with
  | .error fault => pure (.error ⟨[s!"Failed to read project config: {path}"], .file fault⟩)
  | .ok text => pure (inContext s!"Failed to parse project config: {path}" (Project.Settings.ofText text))

/-- The settings of the nearest project, with the file they are in. -/
def discover (host : Host m) (here : String) :
    m (Except Failure (Option (String × Project.Settings))) := do
  match ← firstFile host (candidates here) with
  | none => pure (.ok none)
  | some path => return (← loadSettings host path).map fun settings => some (path, settings)

/-- A location that settings name, seen from the directory of their file. -/
def relativeTo (directory : Option String) (location : String) : String :=
  if Location.isUrl location || Path.isAbsolute location then location
  else match directory with
    | some directory => Path.join directory location
    | none => location

/-- The server that flags and settings choose, where either speaks of one. -/
def chooseServer (flags : Flags) (settings : Option Project.InstructionSettings) :
    Option ModelServer :=
  if flags.endpoint.isSome || flags.model.isSome || settings.isSome then
    let settings := settings.getD {}
    some ⟨(flags.endpoint <|> settings.endpoint).getD defaultEndpoint,
      (flags.model <|> settings.model).getD defaultModel⟩
  else none

/-- Puts flags over the settings of a project. `userTemplates` is the template file of
    the user. -/
def merge (flags : Flags) (project : Option (String × Project.Settings))
    (userTemplates : Option String) : Config :=
  let settings := (project.map Prod.snd).getD {}
  let directory := project.bind fun p => Path.parent? p.1
  { template := flags.template <|> settings.template
    templatePath := flags.templatePath <|> settings.templatePath.map (relativeTo directory)
      <|> userTemplates
    timeout := (flags.timeoutSeconds <|> settings.timeoutSeconds).map Duration.ofSeconds
    modelServer := chooseServer flags settings.instructions
    logLevel := flags.logLevel
    settingsFile := project.map Prod.fst }

/-- The template file of the user. -/
def userTemplates (host : Host m) : m (Option String) :=
  match host.settingsDirectory with
  | none => pure none
  | some directory =>
    firstFile host [Path.join (Path.join directory "doc-structure-lint") "templates.yaml"]

/-- The configuration that flags make in a directory. -/
def resolve (host : Host m) (flags : Flags) (here : String) : m (Except Failure Config) := do
  match ← discover host here with
  | .error failure => pure (.error failure)
  | .ok project => return .ok (merge flags project (← userTemplates host))

end Config

end Rubric
