/-
  Rubric.Markdown.Table

  The first two lines of a pipe table.

  A header and the delimiter row below it make a table when both have the same
  number of cells. The header must show a pipe after the one it may begin with.
-/
import Rubric.Text.Blank

namespace Rubric.Markdown.Table

/-- ASCII punctuation. -/
def isPunctuation (c : Char) : Bool :=
  0x20 < c.toNat && c.toNat < 0x7f && !c.isAlphanum

/-- Counts pipes that no backslash escapes; `closed` is whether only blanks follow the
    last pipe so far. -/
def countPipes : (count : Nat) → (closed : Bool) → List Char → Nat × Bool
  | count, closed, [] => (count, closed)
  | count, _, '|' :: cs => countPipes (count + 1) true cs
  | count, _, '\\' :: c :: cs =>
    if isPunctuation c then countPipes count false cs else countPipes count false (c :: cs)
  | count, closed, c :: cs => countPipes count (closed && Text.isGap c) cs

/-- The number of cells of a header. -/
def headerCells? (cs : List Char) : Option Nat :=
  let cs := match cs with
    | '|' :: rest => rest
    | cs => cs
  match countPipes 0 false cs with
  | (0, _) => none
  | (count, closed) => some (if closed then count else count + 1)

/-- Where the cells of a delimiter row are read. -/
inductive CellPart where
  /-- Before anything of a cell. -/
  | start
  /-- After a colon that needs a dash. -/
  | colon
  | dashes
  /-- After the dashes and what may follow them. -/
  | done
deriving DecidableEq, Repr

/-- Counts the cells of a delimiter row. -/
def delimiterCells? : (count : Nat) → CellPart → List Char → Option Nat
  | count, .start, [] => some count
  | count, .start, c :: cs =>
    if Text.isGap c then delimiterCells? count .start cs
    else if c == '|' then delimiterCells? (count + 1) .start cs
    else if c == ':' then delimiterCells? count .colon cs
    else if c == '-' then delimiterCells? (count + 1) .dashes cs
    else none
  | _, .colon, [] => none
  | count, .colon, c :: cs => if c == '-' then delimiterCells? (count + 1) .dashes cs else none
  | count, .dashes, [] => some count
  | count, .dashes, c :: cs =>
    if c == '-' then delimiterCells? count .dashes cs
    else if c == ':' || Text.isGap c then delimiterCells? count .done cs
    else if c == '|' then delimiterCells? count .start cs
    else none
  | count, .done, [] => some count
  | count, .done, c :: cs =>
    if Text.isGap c then delimiterCells? count .done cs
    else if c == '|' then delimiterCells? count .start cs
    else none

/-- Whether a line and the line below it begin a table. -/
def isHeader (header delimiters : List Char) : Bool :=
  let delimiters := match delimiters with
    | '|' :: rest => rest
    | cs => cs
  match headerCells? header, delimiterCells? 0 .start delimiters with
  | some n, some m => n == m
  | _, _ => false

end Rubric.Markdown.Table
