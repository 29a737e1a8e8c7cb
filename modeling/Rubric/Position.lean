/-
  Rubric.Position

  Places in a source text and the spans between them.

  A point carries three coordinates of one place: line and column, both from 1
  and counted in characters, and the byte offset from 0. Comparisons look at
  byte offsets alone; line and column are for the reader of a report.
-/
import Rubric.Text.Offset

namespace Rubric

/-- A place in a source text. -/
structure Point where
  /-- Line number, from 1. -/
  line : Nat
  /-- Column in characters, from 1. -/
  column : Nat
  /-- Byte offset, from 0. -/
  offset : Nat
deriving DecidableEq, Repr, Inhabited

/-- The stretch between two places. -/
structure Span where
  start : Point
  stop : Point
deriving DecidableEq, Repr, Inhabited

namespace Point

/-- The point with all coordinates zero, where nothing is known of a place. -/
def zero : Point := ⟨0, 0, 0⟩

end Point

/-! ## Lines -/

/-- A text with the offsets at which its lines start. -/
structure LineIndex where
  source : List Char
  starts : List Nat
deriving DecidableEq, Repr, Inhabited

namespace LineIndex

/-- The offsets behind the line feeds of a text that stands at offset `here`. -/
def startsBehind (here : Nat) : List Char → List Nat
  | [] => []
  | c :: cs =>
    if c = '\n' then (here + 1) :: startsBehind (here + 1) cs
    else startsBehind (here + c.utf8Size) cs

/-- The lines of a text. The first one starts at its beginning. -/
def ofText (source : List Char) : LineIndex :=
  ⟨source, 0 :: startsBehind 0 source⟩

/-- The number of the line of an offset, from 1, and the offset at which it starts. It is the
    last line that starts at the offset or before. -/
def lineStart (index : LineIndex) (offset : Nat) : Nat × Nat :=
  let line := max (index.starts.takeWhile (· ≤ offset)).length 1
  (line, index.starts.getD (line - 1) 0)

/-- How far an offset is from the start of its line: in characters, or in bytes where it lies
    inside a character or behind the end. -/
def distance (index : LineIndex) (start offset : Nat) : Nat :=
  match Text.slice? index.source start offset with
  | some text => text.length
  | none => offset - start

/-- The point at an offset. -/
def point (index : LineIndex) (offset : Nat) : Point :=
  let (line, start) := index.lineStart offset
  ⟨line, index.distance start offset + 1, offset⟩

end LineIndex

/-- The point at a byte offset of a source text. -/
def Point.ofOffset (source : List Char) (offset : Nat) : Point :=
  (LineIndex.ofText source).point offset

namespace Span

/-- The span with all coordinates zero. -/
def zero : Span := ⟨Point.zero, Point.zero⟩

/-- Whether `other` lies inside this span. -/
def contains (span other : Span) : Bool :=
  span.start.offset ≤ other.start.offset && other.stop.offset ≤ span.stop.offset

/-- The smallest span that holds both. -/
def cover (span other : Span) : Span :=
  ⟨if other.start.offset < span.start.offset then other.start else span.start,
   if other.stop.offset > span.stop.offset then other.stop else span.stop⟩

theorem cover_start_offset (span other : Span) :
    (span.cover other).start.offset = min span.start.offset other.start.offset := by
  unfold cover
  dsimp only
  split <;> omega

theorem cover_stop_offset (span other : Span) :
    (span.cover other).stop.offset = max span.stop.offset other.stop.offset := by
  unfold cover
  dsimp only
  split <;> omega

theorem contains_iff {span other : Span} :
    span.contains other = true ↔
      span.start.offset ≤ other.start.offset ∧ other.stop.offset ≤ span.stop.offset := by
  simp [contains]

theorem contains_refl (span : Span) : span.contains span = true :=
  contains_iff.2 ⟨Nat.le_refl _, Nat.le_refl _⟩

theorem contains_trans {a b c : Span} (hab : a.contains b = true)
    (hbc : b.contains c = true) : a.contains c = true := by
  rw [contains_iff] at hab hbc ⊢
  omega

/-- The spans that hold a cover are those that hold both of its parts. -/
theorem contains_cover_iff {span a b : Span} :
    span.contains (a.cover b) = true ↔ span.contains a = true ∧ span.contains b = true := by
  rw [contains_iff, contains_iff, contains_iff, cover_start_offset, cover_stop_offset]
  omega

end Span

end Rubric
