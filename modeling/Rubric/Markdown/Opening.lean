/-
  Rubric.Markdown.Opening

  What begins at a place on a line.

  The first character after the blanks decides what can begin there, and what
  follows decides whether it does. An opening that continues the line carries the
  place where the line goes on. Whether a list item may break into a paragraph is
  part of its opening.
-/
import Rubric.Markdown.Line
import Rubric.Markdown.Html

namespace Rubric.Markdown

/-- The marks of list items. Neighbouring items of one mark make a list. -/
inductive Bullet where
  | minus
  | plus
  | star
  /-- A number and a dot. -/
  | dot
  /-- A number and a closing parenthesis. -/
  | parenthesis
deriving DecidableEq, Repr, Inhabited

/-- Whether the items of a list are numbered. -/
def Bullet.isOrdered : Bullet → Bool
  | .dot | .parenthesis => true
  | .minus | .plus | .star => false

/-- What begins at a place. -/
inductive Opening where
  /-- The line under a heading's text. -/
  | underline (level : Nat)
  | thematicBreak
  | quote (after : Place)
  | heading (level : Nat) (after : Place)
  /-- A list item whose content stands `width` columns in. A weak item does not break
      into a paragraph. -/
  | item (bullet : Bullet) (width : Nat) (weak : Bool) (after : Place)
  | fence (mark : Char) (length : Nat) (info : Place)
  | html (kind : HtmlKind) (rest : List Char)
deriving Repr, Inhabited

namespace Opening

/-- The backtick. -/
def backtick : Char := Char.ofNat 0x60

/-- The length of the run of `mark` at a place. -/
def runLength (mark : Char) (p : Place) : Nat :=
  (p.rest.takeWhile (· == mark)).length

/-- Whether only blanks come before the line end. -/
def endsLine (cs : List Char) (p : Place) : Bool :=
  cs.all Text.isGap && p.terminated

/-- A code fence. The info string after backticks has no backtick. -/
def fence? (mark : Char) (p : Place) : Option Opening :=
  let n := runLength mark p
  let after := p.skip n
  if 3 ≤ n && !(mark == backtick && after.rest.contains backtick) then some (.fence mark n after)
  else none

/-- A heading of one to six number signs. -/
def heading? (p : Place) : Option Opening :=
  let n := runLength '#' p
  let after := { p.skip n with indent := 0 }
  let closed := match after.rest with
    | [] => p.terminated
    | c :: _ => Text.isGap c
  if p.indent ≤ 3 && n ≤ 6 && closed then some (.heading n after) else none

/-- The row of marks at a place: how many there are with blanks between them, and
    whether they fill the line. -/
def row (mark : Char) (p : Place) : Nat × Bool :=
  let marks := p.rest.takeWhile fun c => c == mark || Text.isGap c
  (marks.count mark, marks.length == p.rest.length && p.terminated)

/-- A list item after its mark. `digits` is the number of digits in the mark, and
    `after` the place right behind it; `weakMark` is whether the mark alone makes the
    item weak, and `inside` whether the line continues every open container. -/
def item? (bullet : Bullet) (digits indent : Nat) (weakMark inside : Bool) (after : Place) :
    Option Opening :=
  let content := { after with indent := 0 }.skipBlanks
  let isEmpty := content.atLineEnd
  let gap := bif isEmpty then 1 else content.indent
  let weak := (weakMark || isEmpty) && inside
  if gap == 0 then none
  -- Five columns or more are one blank and then the indentation of code.
  else if gap ≤ 4 then
    some (.item bullet (indent + (gap - 1) + digits + 2) weak { content with indent := 0 })
  else some (.item bullet (indent + digits + 2) weak { content with indent := gap - 1 })

/-- A numbered item. -/
def numbered? (inside : Bool) (p : Place) : Option Opening :=
  let digits := p.rest.takeWhile Char.isDigit
  let n := digits.length
  let after := p.skip n
  if 3 < p.indent || 9 < n then none
  else match after.rest with
    | '.' :: _ => item? .dot n p.indent (digits != ['1']) inside after.next
    | ')' :: _ => item? .parenthesis n p.indent (digits != ['1']) inside after.next
    | _ => none

/-- A thematic break or an item marked by a star. -/
def star? (inside : Bool) (p : Place) : Option Opening :=
  let (count, full) := row '*' p
  if 3 ≤ count && full && p.indent < 4 then some .thematicBreak
  else item? .star 0 p.indent false inside p.next

/-- An underline, a thematic break or an item marked by a dash. -/
def minus? (underlines inside : Bool) (p : Place) : Option Opening :=
  let (count, full) := row '-' p
  let unbroken := (p.rest.dropWhile (· == '-')).all Text.isGap
  if 3 < p.indent then none
  else if underlines && inside && full && unbroken then some (.underline 2)
  else if 3 ≤ count && full then some .thematicBreak
  else item? .minus 0 p.indent false inside p.next

/-- What begins at a place with no blanks before it. `underlines` is whether a
    paragraph right above can become a heading, and `inside` whether the line
    continues every open container. -/
def at? (underlines inside : Bool) (p : Place) : Option Opening :=
  match p.rest with
  | [] => none
  | c :: cs =>
    if c == backtick || c == '~' then fence? c p
    else if c == '*' then star? inside p
    else if c == '_' then
      let (count, full) := row '_' p
      if 3 ≤ count && full then some .thematicBreak else none
    else if c == '>' then some (.quote { p.next with indent := 0 }.skipOneBlank)
    else if c == '#' then heading? p
    else if c == '=' then
      if underlines && inside && endsLine (p.rest.dropWhile (· == '=')) p then some (.underline 1)
      else none
    else if c == '+' then
      if p.indent ≤ 3 then item? .plus 0 p.indent false inside p.next else none
    else if c.isDigit then numbered? inside p
    else if c == '-' then minus? underlines inside p
    else if c == '<' then
      (Html.start? p.terminated cs).map fun (kind, rest) => .html kind rest
    else none

/-- Whether a character that can begin something else keeps a line from being the
    header of a table. -/
def isMark (c : Char) : Bool :=
  c == backtick || c.isDigit || c ∈ ['~', '*', '_', '>', '#', '=', '+', '-', '<']

end Opening

end Rubric.Markdown
