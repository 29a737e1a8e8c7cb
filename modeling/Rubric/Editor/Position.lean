/-
  Rubric.Editor.Position

  Places as editors count them: lines from 0, and in a line UTF-16 units from 0.

  The unit count is taken from the source text. Where an offset lies outside of
  it or inside a character, the column is all there is. Both numbers have 32 bits.
-/
import Rubric.Position
import Rubric.Json.Basic

namespace Rubric.Editor

/-- A place in an editor. -/
structure Position where
  line : Nat
  character : Nat
deriving DecidableEq, Repr, Inhabited

/-- The stretch between two places in an editor. -/
structure Range where
  start : Position
  stop : Position
deriving DecidableEq, Repr, Inhabited

/-- A number as far as 32 bits hold it. -/
def low32 (n : Nat) : Nat := n % Nat.pow 2 32

/-- The characters after the last line break. -/
def lastLine (cs : List Char) : List Char :=
  (cs.reverse.takeWhile (· != '\n')).reverse

/-- The place of a point of a source. -/
def Position.ofPoint (source : List Char) (p : Point) : Position :=
  let character := match Text.takeBytes? p.offset source with
    | some before => Text.units16 (lastLine before)
    | none => p.column - 1
  ⟨low32 (p.line - 1), low32 character⟩

/-- The stretch of a span of a source. -/
def Range.ofSpan (source : String) (s : Span) : Range :=
  ⟨.ofPoint source.toList s.start, .ofPoint source.toList s.stop⟩

/-- The JSON form of a place. -/
def Position.toJson (p : Position) : Json :=
  .object [("line", .ofNat p.line), ("character", .ofNat p.character)]

/-- The JSON form of a stretch. -/
def Range.toJson (r : Range) : Json :=
  .object [("start", r.start.toJson), ("end", r.stop.toJson)]

end Rubric.Editor
