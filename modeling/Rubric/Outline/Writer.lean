/-
  Rubric.Outline.Writer

  The JSON form of an outline.

  Everything a document holds is written, so that its JSON form says as much as
  the document itself. Payloads, languages and preambles that are absent are
  left out; an absent heading is written as null.
-/
import Rubric.Outline.Basic
import Rubric.Json.Basic

namespace Rubric

/-- The JSON form of a place. -/
def Point.toJson (p : Point) : Json :=
  .object [("line", .ofNat p.line), ("column", .ofNat p.column), ("offset", .ofNat p.offset)]

/-- The JSON form of a span. -/
def Span.toJson (s : Span) : Json :=
  .object [("start", s.start.toJson), ("end", s.stop.toJson)]

/-- The JSON form of a heading. -/
def Heading.toJson (h : Heading) : Json :=
  .object [("level", .ofNat h.level), ("content", .string h.content),
    ("position", h.position.toJson)]

/-- The JSON form of a paragraph. -/
def Paragraph.toJson (p : Paragraph) : Json :=
  .object [("content", .string p.content), ("position", p.position.toJson)]

/-- A member that is written only where there is a value. -/
def optionalMember {α : Type} (name : String) (write : α → Json) :
    Option α → List (String × Json)
  | some x => [(name, write x)]
  | none => []

/-- The JSON form of a code block. -/
def CodeBlock.toJson (c : CodeBlock) : Json :=
  .object (("content", .string c.content)
    :: (optionalMember "language" .string c.language ++ [("position", c.position.toJson)]))

/-- The JSON form of an item. -/
def ListItem.toJson (i : ListItem) : Json :=
  .object [("content", .string i.content), ("position", i.position.toJson)]

/-- The JSON form of a list. -/
def Listing.toJson (l : Listing) : Json :=
  .object [("ordered", .bool l.ordered), ("items", .array (l.items.map ListItem.toJson)),
    ("position", l.position.toJson)]

/-- The array of the forms of several values. -/
def arrayOf {α : Type} (write : α → Json) (xs : List α) : Json :=
  .array (xs.map write)

/-- The JSON form of a run. -/
def ContentRun.toJson (r : ContentRun) : Json :=
  .object (("position", r.position.toJson)
    :: (optionalMember "paragraphs" (arrayOf Paragraph.toJson) r.paragraphs
      ++ (optionalMember "code_blocks" (arrayOf CodeBlock.toJson) r.codeBlocks
        ++ optionalMember "lists" (arrayOf Listing.toJson) r.lists)))

/-- The JSON form of a heading that may be absent. -/
def headingToJson : Option Heading → Json
  | some h => h.toJson
  | none => .null

mutual

/-- The JSON form of a section. -/
def Section.toJson : Section → Json
  | ⟨id, heading, paragraphs, codeBlocks, lists, content, sections, position, rawContent⟩ =>
    .object [("id", .string id), ("heading", headingToJson heading),
      ("paragraphs", arrayOf Paragraph.toJson paragraphs),
      ("code_blocks", arrayOf CodeBlock.toJson codeBlocks),
      ("lists", arrayOf Listing.toJson lists),
      ("content", arrayOf ContentRun.toJson content),
      ("sections", .array (sectionsToJson sections)),
      ("position", position.toJson), ("raw_content", .string rawContent)]

/-- The JSON forms of sections. -/
def sectionsToJson : List Section → List Json
  | [] => []
  | s :: rest => s.toJson :: sectionsToJson rest

end

/-- The JSON form of a document. -/
def Document.toJson (d : Document) : Json :=
  .object (("sections", .array (sectionsToJson d.sections))
    :: (if d.preamble.isEmpty then [] else [("preamble", .string d.preamble)]))

end Rubric
