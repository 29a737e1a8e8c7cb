/-
  Rubric.Conformance.Limit

  Checking a document within a time limit.

  Two things are assumed of time. Checking takes time only where a checker keeps it
  waiting: an answer comes at once or never. And whoever watches the limit looks at the
  run before it looks at the clock, so that a run with an answer to all of its calls has
  its result even under a limit of nothing. A limit, however short, then matters to a run
  exactly when a call is never answered, and without a limit such a run never ends.
-/
import Rubric.Conformance.Check
import Rubric.Duration
import Rubric.Failure

namespace Rubric

/-- How a run ends under a limit; `none` says that it does not. The run is looked at before
    the clock, so the limit is met only where the run is kept waiting for ever. -/
def Run.within {α : Type} (limit : Option Duration) (run : Run α) :
    Option (Except Failure α) :=
  match run.result with
  | .ok x => some (.ok x)
  | .error (.checker heading reason) => some (.error ⟨[], .checker heading reason⟩)
  | .error (.malformedTree heading line) => some (.error ⟨[], .malformedTree heading line⟩)
  | .error .stalled =>
    limit.map fun d => .error (Failure.ofText s!"Validation timed out after {d.toText}")

/-- Checks a document within a limit. -/
def checkWithin (limit : Option Duration) (checker : Checker) (table : List (String × Rule))
    (document : Document) : Option (Except Failure (List Violation)) :=
  (checkDocument checker table document).within limit

end Rubric
