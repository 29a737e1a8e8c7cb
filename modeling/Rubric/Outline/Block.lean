/-
  Rubric.Outline.Block

  The flat view of a document: its top-level blocks in reading order.
-/
import Rubric.Outline.Basic

namespace Rubric

/-- A top-level block. -/
inductive Block where
  | heading (heading : Heading)
  | paragraph (paragraph : Paragraph)
  | codeBlock (codeBlock : CodeBlock)
  | list (list : Listing)
  /-- Quotes, tables, raw HTML and rules: part of a section's text, and of no
      kind that is counted. -/
  | other (span : Span)
deriving DecidableEq, Repr, Inhabited

/-- Where a block stands. -/
def Block.position : Block → Span
  | .heading h => h.position
  | .paragraph p => p.position
  | .codeBlock c => c.position
  | .list l => l.position
  | .other span => span

end Rubric
