/-
  Rubric.Lint

  Checking one document against one template, both by their locations.

  The templates come first, then the document: a template that is not there is
  reported before a document that cannot be read.
-/
import Rubric.Conformance.ChatChecker
import Rubric.Conformance.Limit
import Rubric.Markdown.Blocks
import Rubric.Outline.Reader
import Rubric.Report
import Rubric.Template.Default

namespace Rubric

/-- The document in a text. -/
def DocumentFormat.parse (format : DocumentFormat) (source : String) : Except Failure Document :=
  match format with
  | .markdown => .ok (Markdown.outline source)
  | .json =>
    match Json.readDocument (Outline.readDocument .text) source with
    | .ok document => .ok document
    | .error misfit => .error ⟨["Invalid section tree JSON"], .json misfit⟩

variable {m : Type → Type} [Monad m]

/-- The text at a location. -/
def Host.fetchText (host : Host m) (location : String) : m (Except Failure String) := do
  if Location.isUrl location then pure (host.network.fetch location)
  else match ← host.readText location with
    | .ok text => pure (.ok text)
    | .error fault => pure (.error ⟨[], .file fault⟩)

namespace Registry

/-- The text of a template file. -/
def loadText (host : Host m) (location : String) : m (Except Failure String) := do
  if Location.isUrl location then
    return inContext readingContext (← host.fetchText location)
  else if (← host.faultOf location).isSome then
    pure (.error (Failure.ofText s!"Template file not found: {location}"))
  else
    return inContext s!"{readingContext}: {location}" (← host.fetchText location)

/-- The templates at a location. -/
def load (host : Host m) (location : String) : m (Except Failure Registry) := do
  return (← loadText host location).bind (ofText (Location.templateFormat location))

/-- The templates of a file, or those that are built in where there is none. -/
def loadOrBuiltIn (host : Host m) : Option String → m (Except Failure Registry)
  | some location => load host location
  | none => pure builtIn

end Registry

/-- What to check. -/
structure LintRequest where
  file : String
  template : String
  templatePath : Option String := none
  timeout : Option Duration := none
  checker : Checker := .skip

/-- The request that a configuration makes of a file. -/
def LintRequest.ofConfig (network : Network) (file : String) (config : Config) :
    Except Failure LintRequest :=
  match config.template with
  | none => .error (Failure.ofText "No template specified")
  | some template => .ok
    { file := file
      template := template
      templatePath := config.templatePath
      timeout := config.timeout
      checker := config.checker network }

namespace LintRequest

/-- The document of a request. -/
def readDocument (host : Host m) (request : LintRequest) : m (Except Failure Document) := do
  return (inContext s!"Failed to read file: {request.file}" (← host.fetchText request.file)).bind
    (Location.documentFormat request.file).parse

/-- The report on a document that has been read. `none` says that there never is one. -/
def report? (request : LintRequest) (template : Template) (document : Document) :
    Option (Except Failure Report) :=
  (checkWithin request.timeout request.checker template.sections document).map fun result =>
    (inContext s!"Failed to validate {request.file}" result).map Report.ofViolations

/-- Checks a document. `none` says that this never ends. -/
def run (host : Host m) (request : LintRequest) : m (Option (Except Failure Report)) := do
  match (← Registry.loadOrBuiltIn host request.templatePath).bind (·.require request.template) with
  | .error failure => pure (some (.error failure))
  | .ok template =>
    match ← request.readDocument host with
    | .error failure => pure (some (.error failure))
    | .ok document => pure (request.report? template document)

end LintRequest

end Rubric
