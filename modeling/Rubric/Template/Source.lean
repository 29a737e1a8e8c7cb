/-
  Rubric.Template.Source

  Templates from the texts they are written in.

  Whatever its language, the text of a template file amounts to one JSON value.
  References in it are resolved, and every entry under `templates` is read as a
  template.
-/
import Rubric.Template.Schema
import Rubric.Template.Registry
import Rubric.Json.Reference
import Rubric.Yaml.Value
import Rubric.Toml.Reader
import Rubric.Location

namespace Rubric

namespace TemplateFormat

/-- The value that a text amounts to. -/
def read (format : TemplateFormat) (text : String) : Except Failure Json :=
  match format with
  | .yaml =>
    match Yaml.parse? text with
    | some value => .ok value
    | none => .error ⟨[], .yaml⟩
  | .toml =>
    match (Toml.parse? text).bind Toml.Value.toJson? with
    | some value => .ok value
    | none => .error ⟨[], .toml none⟩
  | .json =>
    match Json.parse text with
    | .ok value => .ok value
    | .error flaw => .error ⟨[], .json (.flaw flaw)⟩

end TemplateFormat

namespace Registry

variable (regex : Regex.Compiler)

/-- What messages call the reading of templates. -/
def readingContext : String := "Error reading template file"

/-- The failure of templates that can be read but are none. -/
def invalid (reason : String) : Failure :=
  Failure.ofText s!"Template is invalid: {reason}"

/-- Adds the templates that the members of an object describe. -/
def addAll (registry : Registry) : List (String × Json) → Except Failure Registry
  | [] => .ok registry
  | (name, value) :: rest =>
    match Schema.templateWith regex name value with
    | .error failure => .error (invalid failure.summary)
    | .ok template => addAll (registry.add template) rest

/-- The templates that a value holds. -/
def ofValue (value : Json) : Except Failure Registry :=
  match value.get? "templates" with
  | some (.object members) => addAll regex empty members
  | some _ => .error (invalid "`templates` must be a mapping")
  | none => .error (invalid "missing `templates`")

/-- The templates of a text. -/
def ofTextWith (format : TemplateFormat) (text : String) : Except Failure Registry :=
  match inContext readingContext (format.read text) with
  | .error failure => .error failure
  | .ok value =>
    match Json.resolve value with
    | .error e => .error ((Failure.ofText e.toText).inContext readingContext)
    | .ok value => ofValue regex value

end Registry

end Rubric
