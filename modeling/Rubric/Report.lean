/-
  Rubric.Report

  The outcome of checking one document, as text and as data.
-/
import Rubric.Conformance.Violation
import Rubric.Outline.Reader
import Rubric.Outline.Writer
import Rubric.Json.Writer

namespace Rubric

open Rubric.Json

/-! ## Violations as data -/

/-- The JSON form of a violation. A heading that is absent is left out. -/
def Violation.toJson (v : Violation) : Json :=
  .object (("type", .string v.kind.name)
    :: (optionalMember "heading" .string v.heading
      ++ [("position", v.position.toJson), ("message", .string v.message)]))

/-- The kinds with their names. -/
def ViolationKind.named : List (String × ViolationKind) :=
  ViolationKind.all.map fun kind => (kind.name, kind)

/-- The shape of a violation. -/
def Violation.layout (origin : Origin) : Layout Violation where
  name := "Violation"
  fields := [
    .of "type" .required (readVariant origin ViolationKind.named) fun x v => { v with kind := x },
    .of "heading" .defaulted (readOption readText) fun x v => { v with heading := x },
    .of "position" .required (Outline.readSpan origin) fun x v => { v with position := x },
    .of "message" .required readText fun x v => { v with message := x }]

/-- Reads a violation. -/
def Violation.read (origin : Origin) : Reader Violation :=
  (Violation.layout origin).read origin ⟨.headingConst, none, Span.zero, ""⟩

/-! ## Reports -/

/-- The outcome of checking a document. -/
structure Report where
  success : Bool
  errors : List Violation
deriving DecidableEq, Repr, Inhabited

namespace Report

/-- The report on the violations that were found: a success where there are none. -/
def ofViolations (violations : List Violation) : Report :=
  ⟨violations.isEmpty, violations⟩

/-- The line that reports a violation. -/
def line (v : Violation) : String :=
  let label := v.heading.getD ""
  let first := v.position.start.offset
  let last := v.position.stop.offset
  s!"- [{v.kind.name}] {label} (start: {first}, end: {last}): {v.message}"

/-- The report as text, one violation after another. -/
def toText (report : Report) : String :=
  if report.success then "Validation successful!"
  else String.intercalate "\n" ("Structure violations found:" :: report.errors.map line)

/-- The JSON form of a report. -/
def toJson (report : Report) : Json :=
  .object [("success", .bool report.success),
    ("errors", arrayOf Violation.toJson report.errors)]

/-- The report as indented JSON. -/
def toJsonText (report : Report) : String :=
  pretty report.toJson

/-- The shape of a report. -/
def layout (origin : Origin) : Layout Report where
  name := "LintReport"
  fields := [
    .of "success" .required readBool fun x r => { r with success := x },
    .of "errors" .required (readList (Violation.read origin)) fun x r => { r with errors := x }]

/-- Reads the text of a report. -/
def ofJsonText (text : String) : Except Misfit Report :=
  readDocument ((layout .text).read .text ⟨true, []⟩) text

end Report

end Rubric
