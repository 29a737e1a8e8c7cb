/-
  Rubric.Markdown.Node

  The block structure of a Markdown source.

  Nodes are byte ranges of the source with what was found out about them. List
  items hold nodes of their own; what stands inside a quote is of no interest
  beyond the quote's extent.
-/
import Rubric.Markdown.Opening

namespace Rubric.Markdown

/-- A range of bytes of the source. -/
structure Stretch where
  start : Nat
  stop : Nat
deriving DecidableEq, Repr, Inhabited

/-- How a heading is written. -/
inductive HeadingForm where
  /-- Behind number signs. -/
  | marked
  /-- Above a line of equals signs or dashes. -/
  | underlined
deriving DecidableEq, Repr, Inhabited

/-- A block, with the range it takes up. -/
inductive Node where
  | heading (form : HeadingForm) (level : Nat) (text : Stretch) (range : Stretch)
  | paragraph (range : Stretch)
  /-- Code between fences; there is no body without a line below the opening fence. -/
  | fenced (info : Stretch) (body : Option Stretch) (range : Stretch)
  /-- Code that is indented. -/
  | indented (range : Stretch)
  | item (bullet : Bullet) (children : List Node) (range : Stretch)
  | blank (range : Stretch)
  /-- A quote, a thematic break, raw HTML, a table or a link reference definition. -/
  | other (range : Stretch)
deriving Repr, Inhabited

/-- The range of a node. -/
def Node.range : Node → Stretch
  | .heading _ _ _ range | .paragraph range | .fenced _ _ range | .indented range
  | .item _ _ range | .blank range | .other range => range

end Rubric.Markdown
