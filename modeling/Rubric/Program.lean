/-
  Rubric.Program

  The linter as a program: what it prints and the code it ends with.
-/
import Rubric.CommandLine
import Rubric.Lint

namespace Rubric

/-- What a program leaves behind. -/
structure Outcome where
  code : Nat
  output : String := ""
  errors : String := ""
deriving DecidableEq, Repr, Inhabited

/-- The name and the version of the linter. -/
def Linter.versionText : String := "doc-structure-lint 0.1.0"

/-- What is printed about arguments that cannot be used. -/
def Linter.usageText : String :=
  "Usage: doc-structure-lint --file-path FILE [--template NAME] [--template-path PATH] [--json] [--timeout-secs SECONDS]"

/-- The outcome of arguments that ask for no check. -/
def Outcome.ofUsage : CommandLine.UsageError → Outcome
  | .version => { code := 0, output := Linter.versionText ++ "\n" }
  | .help => { code := 0, output := Linter.usageText ++ "\n" }
  | _ => { code := 2, errors := Linter.usageText ++ "\n" }

/-- The outcome of a check. -/
def Outcome.ofResult (json : Bool) : Except Failure Report → Outcome
  | .ok report =>
    { code := if report.success then 0 else 1
      output := (if json then report.toJsonText else report.toText) ++ "\n" }
  | .error failure => { code := 1, errors := failure.toText ++ "\n" }

namespace Linter

variable {m : Type → Type} [Monad m]

/-- Checks what the arguments ask for. `none` says that this never ends. -/
def check (host : Host m) (arguments : CommandLine.LinterArguments) :
    m (Option (Except Failure Report)) := do
  match (← Config.resolve host arguments.flags host.here).bind
      (LintRequest.ofConfig host.network arguments.file) with
  | .error failure => pure (some (.error failure))
  | .ok request => request.run host

/-- Runs the linter. `none` says that it never ends. -/
def run (host : Host m) (arguments : List String) : m (Option Outcome) := do
  match CommandLine.parseLinter arguments with
  | .error e => pure (some (Outcome.ofUsage e))
  | .ok arguments => return (← check host arguments).map (Outcome.ofResult arguments.json)

end Linter

end Rubric
