/-
  Rubric.Outline.Basic

  The outline of a document: sections rooted in headings, with their content.

  A section lists its paragraphs, code blocks and lists by kind, and once more
  in document order as content runs, each run holding neighbours of one kind.
  Outlines folded from blocks give every run exactly one payload; outlines read
  from elsewhere may have runs with none or several.
-/
import Rubric.Position

namespace Rubric

/-- The heading line of a section. -/
structure Heading where
  level : Nat
  content : String
  position : Span
deriving DecidableEq, Repr, Inhabited

structure Paragraph where
  content : String
  position : Span
deriving DecidableEq, Repr, Inhabited

structure CodeBlock where
  content : String
  /-- The first word of the fence's info string. -/
  language : Option String
  position : Span
deriving DecidableEq, Repr, Inhabited

structure ListItem where
  content : String
  position : Span
deriving DecidableEq, Repr, Inhabited

/-- A bullet list or a numbered list. -/
structure Listing where
  ordered : Bool
  items : List ListItem
  position : Span
deriving DecidableEq, Repr, Inhabited

/-- The kinds of content that rules count. -/
inductive ContentKind where
  | paragraphs
  | codeBlocks
  | lists
deriving DecidableEq, Repr, Inhabited

/-- The name of a kind in messages and in data. -/
def ContentKind.name : ContentKind → String
  | .paragraphs => "paragraphs"
  | .codeBlocks => "code_blocks"
  | .lists => "lists"

/-- Neighbouring blocks of one kind. -/
structure ContentRun where
  position : Span
  paragraphs : Option (List Paragraph) := none
  codeBlocks : Option (List CodeBlock) := none
  lists : Option (List Listing) := none
deriving DecidableEq, Repr, Inhabited

/-- The kind of a run: the first payload that is present. -/
def ContentRun.kind? (run : ContentRun) : Option ContentKind :=
  if run.paragraphs.isSome then some .paragraphs
  else if run.codeBlocks.isSome then some .codeBlocks
  else if run.lists.isSome then some .lists
  else none

/-- A heading with everything below it, down to the next heading of its level. -/
structure Section where
  id : String := ""
  heading : Option Heading := none
  paragraphs : List Paragraph := []
  codeBlocks : List CodeBlock := []
  lists : List Listing := []
  content : List ContentRun := []
  sections : List Section := []
  position : Span := Span.zero
  /-- The text of the body, without the heading and without the sections below. -/
  rawContent : String := ""
deriving Repr, Inhabited

/-- The heading text that names a section in reports. -/
def Section.label? (s : Section) : Option String :=
  s.heading.map Heading.content

/-- A document: its top-level sections and the text before the first of them. -/
structure Document where
  sections : List Section := []
  preamble : String := ""
deriving Repr, Inhabited

end Rubric
