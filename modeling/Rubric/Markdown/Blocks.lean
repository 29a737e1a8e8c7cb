/-
  Rubric.Markdown.Blocks

  The top-level blocks of a Markdown source.

  Every block spans its text without the white space around it. Neighbouring items
  of one mark make a list.
-/
import Rubric.Markdown.Content
import Rubric.Markdown.Tree
import Rubric.Outline.Fold

namespace Rubric

/-- The span of a byte range without the white space around its text. -/
def Span.trimmed (source : List Char) (start stop : Nat) : Span :=
  let text := Text.slice source start stop
  let first := start + (Text.byteLength text - Text.byteLength (Text.trimStart text))
  let last := max (start + Text.byteLength (Text.trimEnd text)) first
  ⟨.ofOffset source first, .ofOffset source last⟩

namespace Markdown

/-- The text of a range. -/
def Stretch.text (source : List Char) (s : Stretch) : List Char :=
  Text.slice source s.start s.stop

/-- The span of a range without white space around it. -/
def Stretch.span (source : List Char) (s : Stretch) : Span :=
  .trimmed source s.start s.stop

/-- The offset where the line of an offset starts. -/
def lineStart (source : List Char) (offset : Nat) : Nat :=
  ((LineIndex.ofText source).lineStart offset).2

namespace Node

/-- The text that a block of fenced code holds. -/
def fencedText (source : List Char) (body : Option Stretch) (range : Stretch) : List Char :=
  match body with
  | some body =>
    Content.stripIndent (range.start - lineStart source range.start)
      (Text.slice source (lineStart source body.start) body.stop)
  | none => []

/-- The text that a block of indented code holds. -/
def indentedText (source : List Char) (range : Stretch) : List Char :=
  Content.dedent (Text.slice source (lineStart source range.start) range.stop)

/-! ## List items -/

/-- The text of a paragraph after the box of a task, if it begins with one. -/
def afterTaskBox (cs : List Char) : List Char :=
  match Text.trimStart cs with
  | '[' :: box :: ']' :: c :: rest =>
    if (Text.isGap box || box == 'x' || box == 'X') && Text.isGap c then rest else cs
  | _ => cs

mutual

/-- What a node adds to the text of the list item it stands in. `first` is whether
    nothing stands before it. -/
def text (source : List Char) (first : Bool) : Node → List Char
  | .item _ children _ =>
    Text.joinLines ((partTexts source none true children).filter fun t => !t.isEmpty)
  | .fenced _ body range => fencedText source body range
  | .indented range => indentedText source range
  | .blank _ => []
  | .paragraph range =>
    let cs := range.text source
    Content.normalizeLines (if first then afterTaskBox cs else cs)
  | .heading _ _ _ range | .other range => Content.normalizeLines (range.text source)

/-- The texts of the parts of a list item. A heading behind number signs makes one part
    with everything down to the next such heading of its level or above; `part?` holds
    its level and its range so far. -/
def partTexts (source : List Char) (part? : Option (Nat × Stretch)) (first : Bool) :
    List Node → List (List Char)
  | [] => (part?.map fun part => Content.normalizeLines (part.2.text source)).toList
  | node :: nodes =>
    match node, part? with
    | .heading .marked level _ range, none => partTexts source (some (level, range)) false nodes
    | node, none => node.text source first :: partTexts source none false nodes
    | .heading .marked level _ range, some (above, part) =>
      if level ≤ above then
        Content.normalizeLines (part.text source) :: partTexts source (some (level, range)) false nodes
      else partTexts source (some (above, ⟨part.start, range.stop⟩)) false nodes
    | node, some (above, part) =>
      partTexts source (some (above, ⟨part.start, node.range.stop⟩)) false nodes

end

/-! ## Top-level blocks -/

/-- The list item that a node stands for. -/
def listItem (source : List Char) (node : Node) : ListItem :=
  { content := String.ofList (node.text source true), position := node.range.span source }

/-- The block that a node stands for by itself. -/
def block? (source : List Char) : Node → Option Block
  | .heading form level text range =>
    let cs := text.text source
    let content := match form with
      | .marked => Content.stripClosing cs
      | .underlined => Content.normalizeLines cs
    some (.heading ⟨level, String.ofList content, range.span source⟩)
  | .paragraph range =>
    some (.paragraph ⟨String.ofList (Content.normalizeLines (range.text source)), range.span source⟩)
  | .fenced info body range =>
    some (.codeBlock
      { content := String.ofList (fencedText source body range)
        language := (Content.firstWord? (info.text source)).map String.ofList
        position := range.span source })
  | .indented range =>
    some (.codeBlock
      { content := String.ofList (indentedText source range)
        language := none
        position := range.span source })
  | .other range =>
    let span := range.span source
    if span.start.offset < span.stop.offset then some (.other span) else none
  | .item .. | .blank _ => none

/-- The list that begins with an item and goes on with others of its mark. -/
def listing (source : List Char) (bullet : Bullet) (first : Node) (others : List Node) : Listing :=
  let last := others.getLast?.getD first
  { ordered := bullet.isOrdered
    items := (first :: others).map (listItem source)
    position := .trimmed source first.range.start last.range.stop }

/-- The mark of a list item. -/
def bullet? : Node → Option Bullet
  | .item bullet _ _ => some bullet
  | _ => none

/-- The blocks of some nodes. `group?` is the list that the nodes may go on with: its
    mark, its first item and the other items so far, last first. -/
def blocks (source : List Char) (group? : Option (Bullet × Node × List Node)) :
    List Node → List Block
  | [] => (group?.map fun (bullet, first, others) =>
      .list (listing source bullet first others.reverse)).toList
  | node :: nodes =>
    match group?, node.bullet? with
    | some (bullet, first, others), some b =>
      if b == bullet then blocks source (some (bullet, first, node :: others)) nodes
      else .list (listing source bullet first others.reverse) :: blocks source (some (b, node, [])) nodes
    | some (bullet, first, others), none =>
      .list (listing source bullet first others.reverse)
        :: (node.block? source).toList ++ blocks source none nodes
    | none, some b => blocks source (some (b, node, [])) nodes
    | none, none => (node.block? source).toList ++ blocks source none nodes

end Node

/-- The top-level blocks of a source, in reading order. -/
def blocks (source : String) : List Block :=
  Node.blocks source.toList none (nodes source.toList)

/-- The outline of a source. -/
def outline (source : String) : Document :=
  Fold.document source (blocks source)

end Markdown

end Rubric
