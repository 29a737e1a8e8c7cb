/-
  Rubric.Markdown.Line

  Lines of a Markdown source, and places on them.

  Block structure is read line by line. A line ends at a line feed, at a carriage
  return, or at both in this order. Indentation is counted in columns: a tab
  reaches to the next multiple of four, and columns that a container has claimed
  no longer count for what stands inside it.
-/
import Rubric.Text.Blank
import Rubric.Text.Offset

namespace Rubric.Markdown

/-- A line with its place in the source. -/
structure SourceLine where
  /-- The byte offset of the line. -/
  start : Nat
  /-- The line without its line end. -/
  text : List Char
  /-- The number of bytes of the line end, zero only where the source ends. -/
  ending : Nat
deriving Repr, Inhabited, DecidableEq

/-- Where the line with its line end stops. -/
def SourceLine.stop (line : SourceLine) : Nat :=
  line.start + Text.byteLength line.text + line.ending

/-- Cuts a text into lines: `here` is the offset reached, `line` the current line so
    far, read backwards, and `begun` where that starts. -/
def cutLines : (begun here : Nat) → (line : List Char) → List Char → List SourceLine
  | begun, _, line, [] => if line.isEmpty then [] else [⟨begun, line.reverse, 0⟩]
  | begun, here, line, '\n' :: cs => ⟨begun, line.reverse, 1⟩ :: cutLines (here + 1) (here + 1) [] cs
  | begun, here, line, '\r' :: '\n' :: cs =>
    ⟨begun, line.reverse, 2⟩ :: cutLines (here + 2) (here + 2) [] cs
  | begun, here, line, '\r' :: cs =>
    ⟨begun, line.reverse, 1⟩ :: cutLines (here + 1) (here + 1) [] cs
  | begun, here, line, c :: cs => cutLines begun (here + c.utf8Size) (c :: line) cs

/-- The lines of a source. A byte order mark at its beginning belongs to no line. -/
def sourceLines (source : List Char) : List SourceLine :=
  match source with
  | '\uFEFF' :: rest => cutLines 3 3 [] rest
  | source => cutLines 0 0 [] source

/-! ## Places -/

/-- A place on a line. -/
structure Place where
  /-- What is left of the line. -/
  rest : List Char
  /-- The byte offset of the place. -/
  offset : Nat
  /-- Columns of blanks before the place that nothing has claimed yet. -/
  indent : Nat := 0
  /-- The column of the place, modulo four. -/
  column : Nat := 0
  /-- Whether the line has a line end. -/
  terminated : Bool
deriving Repr, Inhabited

/-- The beginning of a line. -/
def SourceLine.place (line : SourceLine) : Place :=
  { rest := line.text, offset := line.start, terminated := 0 < line.ending }

namespace Place

/-- Whether the place is right before a line end. -/
def atLineEnd (p : Place) : Bool :=
  p.rest.isEmpty && p.terminated

/-- Whether the place is where the source ends. -/
def atSourceEnd (p : Place) : Bool :=
  p.rest.isEmpty && !p.terminated

/-- The place after the next character. -/
def next (p : Place) : Place :=
  match p.rest with
  | [] => p
  | c :: cs =>
    { p with
      rest := cs
      offset := p.offset + c.utf8Size
      column := if c == '\t' then 0 else (p.column + 1) % 4 }

/-- The place after the next `n` characters. -/
def skip : Nat → Place → Place
  | 0, p => p
  | n + 1, p => skip n p.next

/-- Walks over blanks while the indentation is below `limit`; the characters are
    those left at the place. -/
def walkBlanks (limit : Option Nat) : List Char → Place → Place
  | [], p => p
  | c :: cs, p =>
    if Text.isGap c && limit.all (p.indent < ·) then
      let width := if c == '\t' then 4 - p.column else 1
      walkBlanks limit cs { p.next with indent := p.indent + width }
    else p

/-- The place after all blanks. -/
def skipBlanks (p : Place) : Place :=
  walkBlanks none p.rest p

/-- The place after as many blanks as it takes to reach an indentation. -/
def skipTo (limit : Nat) (p : Place) : Place :=
  walkBlanks (some limit) p.rest p

/-- The place after at most one blank, which claims its first column. -/
def skipOneBlank (p : Place) : Place :=
  match p.rest with
  | c :: _ =>
    if Text.isGap c then
      { p.next with indent := p.indent + (if c == '\t' then 4 - p.column else 1) - 1 }
    else p
  | [] => p

end Place

end Rubric.Markdown
