/-
  Rubric.Failure

  Why an operation gives no answer.

  A failure is a cause with the contexts it went through, outermost first. What
  a document gets wrong is never a failure: that is a violation.
-/
import Rubric.Json.Shape

namespace Rubric

/-- What can go wrong with a file. -/
inductive FileFault where
  | notFound
  | isDirectory
  | notDirectory
  | notText
  /-- A path with a character that no name can have. -/
  | badName
  | nameTooLong
deriving DecidableEq, Repr, Inhabited

/-- What the system says about a file fault. -/
def FileFault.toText : FileFault → String
  | .notFound => "No such file or directory (os error 2)"
  | .isDirectory => "Is a directory (os error 21)"
  | .notDirectory => "Not a directory (os error 20)"
  | .notText => "stream did not contain valid UTF-8"
  | .badName => "file name contained an unexpected NUL byte"
  | .nameTooLong => "File name too long (os error 36)"

/-- What a failure comes from. -/
inductive Cause where
  /-- A text that says it all. -/
  | message (text : String)
  /-- The instruction checker failed while it looked at a section. -/
  | checker (heading reason : String)
  /-- A section is not where its neighbours allow it. -/
  | malformedTree (heading : String) (line : Nat)
  /-- A text is not JSON, or not of the shape it should be. -/
  | json (misfit : Json.Misfit)
  | yaml
  /-- A text is not TOML, or not of the shape it should be. -/
  | toml (mismatch : Option Json.Mismatch)
  | regex
  | file (fault : FileFault)
  | http
deriving DecidableEq, Repr, Inhabited

/-- A cause with its contexts, outermost first. -/
structure Failure where
  contexts : List String := []
  cause : Cause
deriving DecidableEq, Repr, Inhabited

/-- The text of a cause. -/
def Cause.toText : Cause → String
  | .message text => text
  | .checker heading reason => s!"instruction check failed in section \"{heading}\": {reason}"
  | .malformedTree heading line =>
    s!"malformed section tree: section \"{heading}\" at line {line} is outside its parent or out of order"
  | .json (.flaw .malformed) => "malformed JSON"
  | .json (.flaw .endOfInput) => "unexpected end of JSON"
  | .json (.mismatch m) => m.toText
  | .yaml => "malformed YAML"
  | .toml none => "malformed TOML"
  | .toml (some m) => m.toText
  | .regex => "malformed pattern"
  | .file fault => fault.toText
  | .http => "request failed"

namespace Failure

/-- A failure that is a plain text. -/
def ofText (text : String) : Failure := ⟨[], .message text⟩

/-- The failure in a wider context. -/
def inContext (context : String) (failure : Failure) : Failure :=
  { failure with contexts := context :: failure.contexts }

/-- The texts of a failure from the outermost context to the cause. -/
def chain (failure : Failure) : List String :=
  failure.contexts ++ [failure.cause.toText]

/-- The chain on one line. -/
def toText (failure : Failure) : String :=
  String.intercalate ": " failure.chain

/-- The chain on one line without what is wrong with a pattern. -/
def summary (failure : Failure) : String :=
  match failure.cause with
  | .regex => String.intercalate ": " failure.contexts
  | _ => failure.toText

end Failure

/-- Puts a failure of a result into a wider context. -/
def inContext {α : Type} (context : String) : Except Failure α → Except Failure α
  | .ok x => .ok x
  | .error failure => .error (failure.inContext context)

end Rubric
