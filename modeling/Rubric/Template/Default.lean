/-
  Rubric.Template.Default

  The templates that are there when no template file is given.
-/
import Rubric.Template.Compiled

namespace Rubric.Registry

/-- The text of the default templates. -/
def defaultText : String :=
  "# Templates available when no template file is configured.
templates:
  how-to:
    description: Task-oriented guide that walks the reader through one procedure.
    sections:
      title:
        description: Title of the guide and a short summary of what the reader will do.
        heading:
          pattern: \"^[A-Z]\"
        paragraphs:
          min: 1
          max: 3
        additionalSections: true
        sections:
          prerequisites:
            description: What the reader needs before starting. A single list.
            required: false
            heading:
              const: Prerequisites
            lists:
              min: 1
              max: 1
          steps:
            description: The procedure itself. An introductory paragraph, then an ordered list of steps.
            heading:
              pattern: \"^(Steps|Procedure)$\"
            paragraphs:
              min: 1
            lists:
              min: 1
              items:
                min: 2
          next-steps:
            description: Where to go after finishing the guide.
            required: false
            heading:
              const: Next steps
            paragraphs:
              min: 1
"

/-- The templates of that text. -/
def builtIn : Except Failure Registry :=
  inContext "Failed to load embedded templates" (ofText .yaml defaultText)

end Rubric.Registry
