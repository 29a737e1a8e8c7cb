/-
  Rubric.Location

  Where a document or a template comes from, and what its name says about it.
-/
import Rubric.Path

namespace Rubric

/-- The languages templates are written in. -/
inductive TemplateFormat where
  | yaml
  | toml
  | json
deriving DecidableEq, Repr, Inhabited

/-- The forms in which documents come. -/
inductive DocumentFormat where
  | markdown
  /-- An outline that was folded elsewhere. -/
  | json
deriving DecidableEq, Repr, Inhabited

namespace Location

/-- The extension of a location with its ASCII letters in lower case. -/
def extension? (location : String) : Option String :=
  (Path.extension? location).map fun e => String.ofList (e.toList.map Char.toLower)

/-- Whether a location is fetched over the network. -/
def isUrl (location : String) : Bool :=
  "http://".toList.isPrefixOf location.toList || "https://".toList.isPrefixOf location.toList

/-- The language of the templates at a location. -/
def templateFormat (location : String) : TemplateFormat :=
  match extension? location with
  | some "toml" => .toml
  | some "json" => .json
  | _ => .yaml

/-- The form of the document at a location. -/
def documentFormat (location : String) : DocumentFormat :=
  match extension? location with
  | some "json" => .json
  | _ => .markdown

end Location

end Rubric
