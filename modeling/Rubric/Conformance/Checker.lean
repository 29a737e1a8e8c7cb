/-
  Rubric.Conformance.Checker

  Judges of instructions, and the runs that consult them.

  An instruction is plain language, so that what decides it stands outside: a
  checker is asked about one text and one instruction at a time. A run keeps
  every call it made in order. It ends with a result unless a call fails or is
  never answered; such a call is the last.
-/
import Rubric.Conformance.Violation

namespace Rubric

/-- What a checker answers. -/
inductive Answer where
  | pass
  | fail (explanation : String)
  /-- The checker itself goes wrong. -/
  | error (reason : String)
  /-- No answer ever comes. -/
  | stall
deriving DecidableEq, Repr, Inhabited

/-- A judge of whether a text follows an instruction. The answer is a function of the two:
    a judge that answers the same question in different ways, or by what it was asked
    before, is not among these. -/
abbrev Checker := (content instruction : String) → Answer

/-- The checker that lets everything pass. -/
def Checker.skip : Checker := fun _ _ => .pass

/-- A call of a checker. -/
structure Call where
  content : String
  instruction : String
deriving DecidableEq, Repr, Inhabited

/-- Why a run has no result. -/
inductive Halt where
  /-- The checker failed while a section was looked at. -/
  | checker (heading reason : String)
  /-- A section is not where its neighbours allow it. -/
  | malformedTree (heading : String) (line : Nat)
  /-- A call was not answered. -/
  | stalled
deriving DecidableEq, Repr, Inhabited

/-- The calls that were made and what came of them. -/
structure Run (α : Type) where
  calls : List Call
  result : Except Halt α

namespace Run

/-- The run that makes no call. -/
def done {α : Type} (x : α) : Run α := ⟨[], .ok x⟩

/-- The run that ends without a result. -/
def halt {α : Type} (h : Halt) : Run α := ⟨[], .error h⟩

/-- One run after the other. The second one is not made if the first has no
    result. -/
def andThen {α β : Type} (first : Run α) (next : α → Run β) : Run β :=
  match first.result with
  | .error h => ⟨first.calls, .error h⟩
  | .ok x => ⟨first.calls ++ (next x).calls, (next x).result⟩

instance : Monad Run where
  pure := done
  bind := andThen

/-- Asks a checker on behalf of a section. The result is what is missing where
    the instruction is not followed. -/
def ask (checker : Checker) (heading content instruction : String) : Run (Option String) :=
  ⟨[⟨content, instruction⟩],
    match checker content instruction with
    | .pass => .ok none
    | .fail explanation => .ok (some explanation)
    | .error reason => .error (.checker heading reason)
    | .stall => .error .stalled⟩

end Run

end Rubric
