/-
  Rubric.Editor.Diagnostic

  Violations as an editor shows them.
-/
import Rubric.Editor.Position
import Rubric.Conformance.Violation

namespace Rubric.Editor

/-- The name under which diagnostics are sent. -/
def diagnosticSource : String := "doc-structure-lint"

/-- The severity of an error. -/
def errorSeverity : Nat := 1

/-- A violation at its place in an editor. -/
structure Diagnostic where
  range : Range
  kind : ViolationKind
  message : String
deriving DecidableEq, Repr, Inhabited

/-- The diagnostic of a violation in a source. -/
def Diagnostic.ofViolation (source : String) (v : Violation) : Diagnostic :=
  ⟨.ofSpan source v.position, v.kind, v.message⟩

/-- The JSON form of a diagnostic. -/
def Diagnostic.toJson (d : Diagnostic) : Json :=
  .object [("range", d.range.toJson), ("severity", .ofNat errorSeverity),
    ("code", .string d.kind.name), ("source", .string diagnosticSource),
    ("message", .string d.message)]

end Rubric.Editor
