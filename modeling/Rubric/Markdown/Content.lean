/-
  Rubric.Markdown.Content

  The texts that blocks show: of headings, paragraphs, code and list items.

  A paragraph shows its lines trimmed. A heading behind number signs loses a
  closing run of them that stands apart. Fenced code loses the indentation of its
  fence, indented code what all its lines share. A list item shows everything in
  it as lines of text.
-/
import Rubric.Text.Blank
import Rubric.Text.Line
import Rubric.Text.Offset

namespace Rubric.Markdown.Content

/-- The trimmed lines of a text, without blank lines around them. -/
def normalizeLines (cs : List Char) : List Char :=
  Text.trim (Text.joinLines ((Text.lines cs).map Text.trim))

/-- The trimmed text of a heading without a closing run of number signs. A run closes
    the heading when it is the whole text or stands after a blank. -/
def stripClosing (cs : List Char) : List Char :=
  let trimmed := Text.trim cs
  let before := Text.dropWhileEnd (· == '#') trimmed
  if before.length == trimmed.length then trimmed
  else match before.getLast? with
    | none => []
    | some c => if Text.isGap c then Text.trimEnd before else trimmed

/-- A line without its leading spaces, at most `indent` of them. -/
def stripSpaces : (indent : Nat) → List Char → List Char
  | indent + 1, ' ' :: cs => stripSpaces indent cs
  | _, cs => cs

/-- The lines of a text, each without up to `indent` leading spaces. -/
def stripIndent (indent : Nat) (cs : List Char) : List Char :=
  Text.joinLines ((Text.lines cs).map (stripSpaces indent))

/-- The lines of a text without the indentation that all lines with content share. -/
def dedent (cs : List Char) : List Char :=
  let lines := Text.lines cs
  let widths := (lines.filter fun l => !l.all Text.isBlank).map fun l =>
    Text.byteLength (l.takeWhile Text.isBlank)
  let indent := widths.min?.getD 0
  let lines := lines.map fun l => (Text.dropBytes? indent l).getD (Text.trimStart l)
  Text.dropWhileEnd (· == '\n') ((Text.joinLines lines).dropWhile (· == '\n'))

/-- The first word of a text. -/
def firstWord? (cs : List Char) : Option (List Char) :=
  match (Text.trimStart cs).takeWhile fun c => !Text.isBlank c with
  | [] => none
  | word => some word

end Rubric.Markdown.Content
