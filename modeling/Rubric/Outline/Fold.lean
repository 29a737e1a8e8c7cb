/-
  Rubric.Outline.Fold

  Folding a list of blocks into an outline.

  The fold keeps the open sections on a stack, innermost first. A heading
  closes every open section of its own level or deeper and opens a section of
  its own; any other block goes into the innermost open section, or into the
  preamble when none is open. Closing a section settles its span and its text.
-/
import Rubric.Outline.Block
import Rubric.Outline.Slug
import Rubric.Text.Blank

namespace Rubric.Fold

/-- A section that can still grow, with the level of its heading. -/
structure Open where
  level : Nat
  body : Section
deriving Repr, Inhabited

/-! ## Content runs -/

/-- Adds a paragraph to the last run if that holds paragraphs, else in a new run. -/
def addParagraph (p : Paragraph) : List ContentRun → List ContentRun
  | [] => [{ position := p.position, paragraphs := some [p] }]
  | [run] =>
    match run.paragraphs with
    | some ps => [{ run with paragraphs := some (ps ++ [p]), position := run.position.cover p.position }]
    | none => [run, { position := p.position, paragraphs := some [p] }]
  | run :: runs => run :: addParagraph p runs

/-- Adds a code block to the last run if that holds code blocks, else in a new run. -/
def addCodeBlock (c : CodeBlock) : List ContentRun → List ContentRun
  | [] => [{ position := c.position, codeBlocks := some [c] }]
  | [run] =>
    match run.codeBlocks with
    | some cs => [{ run with codeBlocks := some (cs ++ [c]), position := run.position.cover c.position }]
    | none => [run, { position := c.position, codeBlocks := some [c] }]
  | run :: runs => run :: addCodeBlock c runs

/-- Adds a list to the last run if that holds lists, else in a new run. -/
def addListing (l : Listing) : List ContentRun → List ContentRun
  | [] => [{ position := l.position, lists := some [l] }]
  | [run] =>
    match run.lists with
    | some ls => [{ run with lists := some (ls ++ [l]), position := run.position.cover l.position }]
    | none => [run, { position := l.position, lists := some [l] }]
  | run :: runs => run :: addListing l runs

/-! ## Growing and closing a section -/

/-- Adds a block other than a heading to a section. -/
def addBlock (s : Section) (block : Block) : Section :=
  let s := match block with
    | .paragraph p =>
      { s with paragraphs := s.paragraphs ++ [p], content := addParagraph p s.content }
    | .codeBlock c =>
      { s with codeBlocks := s.codeBlocks ++ [c], content := addCodeBlock c s.content }
    | .list l => { s with lists := s.lists ++ [l], content := addListing l s.content }
    | .heading _ | .other _ => s
  { s with position := s.position.cover block.position }

/-- The byte range of a section's own text: from the end of its heading to its
    first child, or to its own end. -/
def bodyRange (s : Section) : Nat × Nat :=
  let start := match s.heading with
    | some h => h.position.stop.offset
    | none => s.position.start.offset
  let stop := match s.sections with
    | child :: _ => child.position.start.offset
    | [] => s.position.stop.offset
  (start, max stop start)

/-- Settles a section that can no longer grow: its span reaches to the end of its
    last child, and its text is cut from the source. -/
def settle (source : List Char) (s : Section) : Section :=
  let s := match s.sections.getLast? with
    | some child => { s with position := s.position.cover child.position }
    | none => s
  let (start, stop) := bodyRange s
  { s with rawContent := String.ofList (Text.trim (Text.slice source start stop)) }

/-! ## The fold -/

/-- What has been folded so far. -/
structure State where
  /-- Top-level sections that are complete. -/
  done : List Section := []
  /-- Open sections, innermost first. -/
  stack : List Open := []
  /-- Slugs of the headings so far. -/
  seen : List String := []
  /-- The span of the blocks before the first heading. -/
  preamble : Option Span := none
deriving Repr, Inhabited

/-- Closes open sections as long as their level is at least `level`. `child?` is the
    section closed last, which still has to find its place: below the next open
    section, or among the complete ones. -/
def closeFrom (source : List Char) (level : Nat) (done : List Section) :
    Option Section → List Open → List Section × List Open
  | child?, [] => (done ++ child?.toList, [])
  | child?, top :: rest =>
    let body := { top.body with sections := top.body.sections ++ child?.toList }
    -- Levels on the stack decrease outwards, so nothing further out is closed either.
    if level ≤ top.level then closeFrom source level done (some (settle source body)) rest
    else (done, { top with body := body } :: rest)

/-- Folds one more block. -/
def step (source : List Char) (state : State) : Block → State
  | .heading h =>
    let (done, stack) := closeFrom source h.level state.done none state.stack
    let body : Section :=
      { id := Slug.next state.seen h.content, heading := some h, position := h.position }
    { state with
      done := done
      stack := ⟨h.level, body⟩ :: stack
      seen := Slug.ofHeading h.content :: state.seen }
  | block =>
    match state.stack with
    | top :: rest => { state with stack := { top with body := addBlock top.body block } :: rest }
    | [] =>
      { state with
        preamble := some (match state.preamble with
          | some span => span.cover block.position
          | none => block.position) }

/-- The outline of a list of blocks of a source text. -/
def document (source : String) (blocks : List Block) : Document :=
  let text := source.toList
  let state := blocks.foldl (step text) {}
  -- Level 0 closes all that is still open.
  let (done, _) := closeFrom text 0 state.done none state.stack
  { sections := done
    preamble := match state.preamble with
      | some span => String.ofList (Text.slice text span.start.offset span.stop.offset)
      | none => "" }

end Rubric.Fold
