/-
  Rubric.Template.Compiled

  Rules and templates with the patterns of this library.

  How entries and template files are read does not depend on what compiles the
  patterns in them. Here it is the reader of regular expressions.
-/
import Rubric.Regex.Reader
import Rubric.Template.Source

namespace Rubric

/-- The rule that a value describes; `path` is where the value stands. -/
def Schema.ruleOf (path : String) (value : Json) : Except Failure Rule :=
  ruleWith Pattern.ofText? path value

/-- The template that a value describes. -/
def Schema.templateOf (name : String) (value : Json) : Except Failure Template :=
  templateWith Pattern.ofText? name value

/-- The templates of a text. -/
def Registry.ofText (format : TemplateFormat) (text : String) : Except Failure Registry :=
  ofTextWith Pattern.ofText? format text

end Rubric
