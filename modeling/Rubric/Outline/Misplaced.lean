/-
  Rubric.Outline.Misplaced

  Looking for a section that is not where its neighbours allow it.

  Sections nest: each lies inside its parent and starts no earlier than the
  section before it ends. At the top there is no parent, so only the second
  condition counts. `Document.misplaced?` finds the first section, in reading
  order, that breaks one of them.
-/
import Rubric.Outline.Basic

namespace Rubric

/-- Whether a section starts before `previousEnd`, the end of the section before it. -/
def Section.startsBefore (s : Section) (previousEnd : Option Nat) : Bool :=
  match previousEnd with
  | none => false
  | some stop => s.position.start.offset < stop

mutual

/-- The first misplaced section below this one, in reading order. -/
def Section.misplaced? : Section → Option Section
  | ⟨_, _, _, _, _, _, sections, position, _⟩ => misplacedChild? position none sections

/-- The first misplaced section among the children of a section at `parent`. -/
def misplacedChild? (parent : Span) (previousEnd : Option Nat) : List Section → Option Section
  | [] => none
  | child :: rest =>
    if !parent.contains child.position || child.startsBefore previousEnd then some child
    else child.misplaced?.or (misplacedChild? parent (some child.position.stop.offset) rest)

end

/-- The first misplaced section among top-level sections. -/
def misplacedTop? (previousEnd : Option Nat) : List Section → Option Section
  | [] => none
  | s :: rest =>
    if s.startsBefore previousEnd then some s
    else s.misplaced?.or (misplacedTop? (some s.position.stop.offset) rest)

/-- The first misplaced section of a document, in reading order. -/
def Document.misplaced? (document : Document) : Option Section :=
  misplacedTop? none document.sections

end Rubric
