/-
  Rubric.Outline.Reader

  Reading outlines from their JSON form.

  Members may stand in any order and unknown ones are passed over. Sections and
  documents may leave out any member; the value is then empty.
-/
import Rubric.Outline.Basic
import Rubric.Json.Shape

namespace Rubric.Outline

open Rubric.Json

/-! ## Positions -/

/-- The shape of a place. -/
def pointLayout : Layout Point where
  name := "Point"
  fields := [
    .of "line" .required readSize fun x p => { p with line := x },
    .of "column" .required readSize fun x p => { p with column := x },
    .of "offset" .required readSize fun x p => { p with offset := x }]

/-- Reads a place. -/
def readPoint (origin : Origin) : Reader Point := pointLayout.read origin Point.zero

/-- The shape of a span. -/
def spanLayout (origin : Origin) : Layout Span where
  name := "Span"
  fields := [
    .of "start" .required (readPoint origin) fun x s => { s with start := x },
    .of "end" .required (readPoint origin) fun x s => { s with stop := x }]

/-- Reads a span. -/
def readSpan (origin : Origin) : Reader Span := (spanLayout origin).read origin Span.zero

/-! ## Content -/

/-- The shape of a heading. -/
def headingLayout (origin : Origin) : Layout Heading where
  name := "Heading"
  fields := [
    .of "level" .required (readUnsigned "u8" 8) fun x h => { h with level := x },
    .of "content" .required readText fun x h => { h with content := x },
    .of "position" .required (readSpan origin) fun x h => { h with position := x }]

/-- Reads a heading. -/
def readHeading (origin : Origin) : Reader Heading :=
  (headingLayout origin).read origin ⟨0, "", Span.zero⟩

/-- The shape of a paragraph. -/
def paragraphLayout (origin : Origin) : Layout Paragraph where
  name := "Paragraph"
  fields := [
    .of "content" .required readText fun x p => { p with content := x },
    .of "position" .required (readSpan origin) fun x p => { p with position := x }]

/-- Reads a paragraph. -/
def readParagraph (origin : Origin) : Reader Paragraph :=
  (paragraphLayout origin).read origin ⟨"", Span.zero⟩

/-- The shape of a code block. -/
def codeBlockLayout (origin : Origin) : Layout CodeBlock where
  name := "CodeBlock"
  fields := [
    .of "content" .required readText fun x c => { c with content := x },
    .of "language" .defaulted (readOption readText) fun x c => { c with language := x },
    .of "position" .required (readSpan origin) fun x c => { c with position := x }]

/-- Reads a code block. -/
def readCodeBlock (origin : Origin) : Reader CodeBlock :=
  (codeBlockLayout origin).read origin ⟨"", none, Span.zero⟩

/-- The shape of an item. -/
def itemLayout (origin : Origin) : Layout ListItem where
  name := "ListItem"
  fields := [
    .of "content" .required readText fun x i => { i with content := x },
    .of "position" .required (readSpan origin) fun x i => { i with position := x }]

/-- Reads an item. -/
def readItem (origin : Origin) : Reader ListItem :=
  (itemLayout origin).read origin ⟨"", Span.zero⟩

/-- The shape of a list. -/
def listLayout (origin : Origin) : Layout Listing where
  name := "List"
  fields := [
    .of "ordered" .required readBool fun x l => { l with ordered := x },
    .of "items" .required (readList (readItem origin)) fun x l => { l with items := x },
    .of "position" .required (readSpan origin) fun x l => { l with position := x }]

/-- Reads a list. -/
def readListing (origin : Origin) : Reader Listing :=
  (listLayout origin).read origin ⟨false, [], Span.zero⟩

/-- The shape of a run. -/
def runLayout (origin : Origin) : Layout ContentRun where
  name := "ContentRun"
  fields := [
    .of "position" .required (readSpan origin) fun x r => { r with position := x },
    .of "paragraphs" .defaulted (readOption (readList (readParagraph origin))) fun x r =>
      { r with paragraphs := x },
    .of "code_blocks" .defaulted (readOption (readList (readCodeBlock origin))) fun x r =>
      { r with codeBlocks := x },
    .of "lists" .defaulted (readOption (readList (readListing origin))) fun x r =>
      { r with lists := x }]

/-- Reads a run. -/
def readRun (origin : Origin) : Reader ContentRun :=
  (runLayout origin).read origin ⟨Span.zero, none, none, none⟩

/-! ## Sections and documents -/

/-- The shape of a section; `inner` reads the sections below it. -/
def sectionLayout (origin : Origin) (inner : Reader Section) : Layout Section where
  name := "Section"
  fields := [
    .of "id" .defaulted readText fun x s => { s with id := x },
    .of "heading" .defaulted (readOption (readHeading origin)) fun x s => { s with heading := x },
    .of "paragraphs" .defaulted (readList (readParagraph origin)) fun x s =>
      { s with paragraphs := x },
    { Field.of "code_blocks" .defaulted (readList (readCodeBlock origin)) (fun x s =>
      ({ s with codeBlocks := x } : Section)) with aliases := ["codeBlocks"] },
    .of "lists" .defaulted (readList (readListing origin)) fun x s => { s with lists := x },
    .of "content" .defaulted (readList (readRun origin)) fun x s => { s with content := x },
    .of "sections" .defaulted (readList inner) fun x s => { s with sections := x },
    .of "position" .defaulted (readSpan origin) fun x s => { s with position := x },
    { Field.of "raw_content" .defaulted readText (fun x s =>
      ({ s with rawContent := x } : Section)) with aliases := ["rawContent"] }]

/-- Reads a section below which at most `levels` further levels are. -/
def readLevels (origin : Origin) : (levels : Nat) → Reader Section
  | 0 => fun _ draft => refuse "struct Section" draft
  | levels + 1 => (sectionLayout origin (readLevels origin levels)).read origin {}

/-- Reads a section. Every level takes up some of the nesting that is allowed, so
    that there are not more levels than that. -/
def readSection (origin : Origin) : Reader Section := fun room draft =>
  readLevels origin (room + 1) room draft

/-- The shape of a document. -/
def documentLayout (origin : Origin) : Layout Document where
  name := "Document"
  fields := [
    .of "sections" .defaulted (readList (readSection origin)) fun x d => { d with sections := x },
    .of "preamble" .defaulted readText fun x d => { d with preamble := x }]

/-- Reads a document. -/
def readDocument (origin : Origin) : Reader Document :=
  (documentLayout origin).read origin {}

end Rubric.Outline
