/-
  Rubric.Markdown.Tree

  Reading the block structure of a Markdown source.

  The reader keeps the containers that are open (quotes and list items), the leaf
  that is open inside the innermost of them, and takes one line after the other.
  A line first has to continue the open containers, outermost first. A paragraph
  goes on over a line that does not, unless something begins there that may break
  into a paragraph; all else that a line does not continue is closed.
-/
import Rubric.Markdown.Node
import Rubric.Markdown.Reference

namespace Rubric.Markdown

/-! ## What is open -/

/-- What a line has to show to continue a container or a leaf. -/
inductive Frame where
  | quote
  /-- Content that stands `width` columns in. -/
  | item (width : Nat)
  | indented
  /-- Nothing: only the leaf itself decides where it ends. -/
  | free
deriving DecidableEq, Repr, Inhabited

/-- The kinds of open containers. -/
inductive ContainerKind where
  | quote
  | item (bullet : Bullet) (width : Nat)
deriving DecidableEq, Repr, Inhabited

/-- An open container. -/
structure Container where
  kind : ContainerKind
  start : Nat
  /-- The nodes so far, last first. -/
  children : List Node := []
deriving Repr, Inhabited

/-- What continues a container. -/
def Container.frame (c : Container) : Frame :=
  match c.kind with
  | .quote => .quote
  | .item _ width => .item width

/-- A line of a paragraph, from where its containers end. -/
structure ParagraphLine where
  start : Nat
  stop : Nat
  text : List Char
deriving Repr, Inhabited

/-- The leaf that is open. -/
inductive Leaf where
  | nothing
  /-- The lines of a paragraph, last first. -/
  | paragraph (lines : List ParagraphLine)
  /-- Indented code up to `stop`. It is `paused` on the blank lines after a chunk. -/
  | indented (start stop : Nat) (paused : Bool)
  /-- Fenced code; `ended` is whether the closing fence has come. -/
  | fenced (mark : Char) (length : Nat) (info : Stretch) (start : Nat) (body : Option Stretch)
      (ended : Bool)
  | html (kind : HtmlKind) (start : Nat)
  /-- A table, before or after its delimiter row. -/
  | table (start : Nat) (delimited : Bool)
deriving Repr, Inhabited

/-- What continues a leaf that needs or takes every line that reaches it. -/
def Leaf.frame? : Leaf → Option Frame
  | .indented _ _ false => some .indented
  | .fenced .. | .html .. => some .free
  | .nothing | .paragraph _ | .indented _ _ true | .table .. => none

/-- The state of the reader between two lines. -/
structure Reader where
  /-- Nodes that stand in no container, last first. -/
  done : List Node := []
  /-- Open containers, innermost first. -/
  stack : List Container := []
  leaf : Leaf := .nothing
  /-- Whether what is innermost ends with this line, whatever the next one shows. -/
  closing : Bool := false
deriving Repr, Inhabited

/-! ## Continuing a line -/

/-- The place after what continues a frame, if the line continues it, and else the
    place where it fails to. -/
def Frame.continue (p : Place) : Frame → Except Place Place
  | .quote =>
    let p := p.skipBlanks
    if p.rest.head? == some '>' then .ok { p.next with indent := 0 }.skipOneBlank else .error p
  | .item width =>
    let p := p.skipTo width
    if width ≤ p.indent then .ok { p with indent := p.indent - width }
    -- A blank line continues an item with whatever blanks it has.
    else if p.atLineEnd then .ok { p with indent := 0 }
    else .error p
  | .indented =>
    let p := p.skipTo 4
    if 4 ≤ p.indent && !p.atLineEnd then .ok { p with indent := p.indent - 4 } else .error p
  | .free => .ok p

/-- The number of frames that a line continues from a place on, outermost first, and
    the place after them. -/
def continueFrames (p : Place) : List Frame → Nat × Place
  | [] => (0, p)
  | f :: fs =>
    match f.continue p with
    | .ok p =>
      let (n, p) := continueFrames p fs
      (n + 1, p)
    | .error p => (0, p)

namespace Reader

/-- The frames of the open containers, outermost first. -/
def containerFrames (r : Reader) : List Frame :=
  (r.stack.map Container.frame).reverse

/-! ## Closing -/

/-- Adds a node to the innermost container. -/
def add (r : Reader) (node : Node) : Reader :=
  match r.stack with
  | c :: cs => { r with stack := { c with children := node :: c.children } :: cs }
  | [] => { r with done := node :: r.done }

/-- Closes the innermost container. -/
def closeContainer (r : Reader) (stop : Nat) : Reader :=
  match r.stack with
  | [] => r
  | c :: cs =>
    let node := match c.kind with
      | .quote => Node.other ⟨c.start, stop⟩
      | .item bullet _ => .item bullet c.children.reverse ⟨c.start, stop⟩
    { r with stack := cs }.add node

/-- Closes the `n` innermost containers. -/
def closeContainers (stop : Nat) : Nat → Reader → Reader
  | 0, r => r
  | n + 1, r => closeContainers stop n (r.closeContainer stop)

/-- The text of some lines with line feeds between them. -/
def joined (lines : List ParagraphLine) : List Char :=
  match lines with
  | [] => []
  | [l] => l.text
  | l :: ls => l.text ++ '\n' :: joined ls

/-- The range of some lines. -/
def rangeOf (lines : List ParagraphLine) : Stretch :=
  match lines with
  | [] => ⟨0, 0⟩
  | l :: ls => ⟨l.start, (ls.getLast?.getD l).stop⟩

/-- Cuts link reference definitions off the beginning of a paragraph: their ranges, and
    the lines that are left. -/
def cutDefinitions : (fuel : Nat) → List ParagraphLine → List Stretch × List ParagraphLine
  | 0, lines => ([], lines)
  | fuel + 1, lines =>
    if lines.isEmpty then ([], [])
    else match Reference.definition? (joined lines) with
      | none => ([], lines)
      | some rest =>
        -- A definition ends with a line, so what is left begins with one.
        let left := if rest.isEmpty then 0 else rest.count '\n' + 1
        let taken := lines.take (lines.length - left)
        let (ranges, lines) := cutDefinitions fuel (lines.drop (lines.length - left))
        (rangeOf taken :: ranges, lines)

/-- Adds the definitions at the beginning of a paragraph; the lines that are left come
    back. -/
def addDefinitions (r : Reader) (lines : List ParagraphLine) : Reader × List ParagraphLine :=
  let (ranges, lines) := cutDefinitions lines.length lines.reverse
  (ranges.foldl (fun r range => r.add (.other range)) r, lines)

/-- Adds the paragraph of some lines, if there are any. -/
def addParagraph (r : Reader) (lines : List ParagraphLine) : Reader :=
  if lines.isEmpty then r else r.add (.paragraph (rangeOf lines))

/-- Closes the leaf at an offset. -/
def closeLeaf (r : Reader) (stop : Nat) : Reader :=
  let cleared := { r with leaf := .nothing }
  match r.leaf with
  | .nothing => r
  | .paragraph lines =>
    let (r, lines) := cleared.addDefinitions lines
    r.addParagraph lines
  | .indented start codeStop paused =>
    cleared.add (.indented ⟨start, if paused then codeStop else stop⟩)
  | .fenced _ _ info start body ended =>
    let body := if ended then body else body.map fun b => ⟨b.start, stop⟩
    cleared.add (.fenced info body ⟨start, stop⟩)
  | .html _ start => cleared.add (.other ⟨start, stop⟩)
  | .table start _ => cleared.add (.other ⟨start, stop⟩)

/-! ## Opening -/

/-- Whether a table begins at a place: its header is the rest of the line, and the next
    line, inside all containers, is a delimiter row. -/
def beginsTable (frames : List Frame) (p : Place) (next? : Option SourceLine) : Bool :=
  match p.rest, next? with
  | c :: _, some next =>
    let (n, q) := continueFrames next.place.skipBlanks frames
    !Opening.isMark c && n == frames.length && q.terminated && Table.isHeader p.rest q.rest
  | _, _ => false

/-- Whether a line breaks into the paragraph or the table above it. `frames` are all
    open containers, `inside` is whether the line continues them, and `p` the place
    after those that it continues. -/
def interrupts (frames : List Frame) (inside : Bool) (p : Place) (next? : Option SourceLine) :
    Bool :=
  let p := p.skipBlanks
  p.rest.isEmpty || (match Opening.at? true inside p with
    | some (.item _ _ weak _) => !weak
    | some (.html kind _) => kind != .lone
    | some _ => true
    | none => beginsTable frames p next?)

/-- Adds a blank line; a list item that begins with two of them ends there. -/
def addBlank (r : Reader) (range : Stretch) : Reader :=
  match r.leaf with
  | .indented start _ true => { r with leaf := .indented start range.stop true }
  | _ =>
    let r := (r.closeLeaf range.start).add (.blank range)
    match r.stack with
    | ⟨.item .., _, [.blank _, .blank _]⟩ :: _ => { r with closing := true }
    | _ => r

/-- Begins fenced code. -/
def openFence (r : Reader) (line : SourceLine) (start : Nat) (mark : Char) (length : Nat)
    (info : Place) : Reader :=
  { r with leaf := .fenced mark length ⟨info.offset, line.stop⟩ start none false }

/-- Begins raw HTML, which may end on the same line. -/
def openHtml (r : Reader) (start : Nat) (kind : HtmlKind) (terminated : Bool) (rest : List Char) :
    Reader :=
  { r with
    leaf := .html kind start
    closing := kind != .block && kind != .lone && Html.endsOn kind terminated rest }

/-- Begins what stands at a place of a line. The place lies after all open containers;
    `above` holds the lines of a paragraph that ends right above. -/
def openAt (line : SourceLine) (next? : Option SourceLine) :
    (fuel : Nat) → (above : List ParagraphLine) → Place → Reader → Reader
  | 0, _, _, r => r
  | fuel + 1, above, p, r =>
    let q := p.skipBlanks
    let range : Stretch := ⟨p.offset, line.stop⟩
    -- Indented code after blank lines goes on with the chunk before them.
    if 4 ≤ q.indent && !q.atLineEnd then
      let start := match r.leaf with
        | .indented start _ true => start
        | _ => p.offset
      { r.addParagraph above with leaf := .indented start p.offset false }
    else if q.atLineEnd then (r.addParagraph above).addBlank range
    else
      let r := r.closeLeaf p.offset
      match Opening.at? (!above.isEmpty) true q with
      | some (.underline level) =>
        let text := rangeOf above
        r.add (.heading .underlined level text ⟨text.start, line.stop⟩)
      | opening =>
        let r := r.addParagraph above
        match opening with
        | some .thematicBreak => r.add (.other range)
        | some (.heading level after) =>
          r.add (.heading .marked level ⟨after.offset, line.stop⟩ range)
        | some (.quote after) =>
          openAt line next? fuel [] after { r with stack := ⟨.quote, p.offset, []⟩ :: r.stack }
        | some (.item bullet width _ after) =>
          openAt line next? fuel [] after
            { r with stack := ⟨.item bullet width, p.offset, []⟩ :: r.stack }
        | some (.fence mark length info) => r.openFence line p.offset mark length info
        | some (.html kind rest) => r.openHtml p.offset kind q.terminated rest
        | _ =>
          if p.rest.isEmpty then r
          else if beginsTable r.containerFrames q next? then
            { r with leaf := .table p.offset false }
          else { r with leaf := .paragraph [⟨p.offset, line.stop, p.rest⟩] }

/-! ## Lines of code and of raw HTML -/

/-- Where the body of fenced code stops on a line that ends it with a closing fence: at
    the blanks before the fence, when they could stand before a fence. -/
def fenceEnd? (mark : Char) (length : Nat) (p : Place) : Option Nat :=
  let backwards := p.rest.reverse.dropWhile Text.isGap
  let run := (backwards.takeWhile (· == mark)).length
  if run < length then none
  else
    let before := backwards.dropWhile (· == mark)
    let gap := (before.takeWhile Text.isGap).reverse
    let gapStart := p.skip (before.length - gap.length)
    let gapStop := Place.walkBlanks none gap gapStart
    some (if gapStop.indent < 4 then gapStart.offset else gapStop.offset)

/-- Takes a line of the innermost leaf. -/
def takeLine (r : Reader) (line : SourceLine) (p : Place) : Reader :=
  match r.leaf with
  | .indented start _ _ => { r with leaf := .indented start line.stop false }
  | .fenced mark length info start body _ =>
    let bodyStart := (body.map Stretch.start).getD p.offset
    match fenceEnd? mark length p with
    | some stop =>
      let body := if stop == p.offset && body.isNone then none else some ⟨bodyStart, stop⟩
      { r with leaf := .fenced mark length info start body true, closing := true }
    | none =>
      { r with leaf := .fenced mark length info start (some ⟨bodyStart, line.stop⟩) false }
  | .html kind _ => { r with closing := r.closing || Html.endsOn kind p.terminated p.rest }
  | _ => r

/-! ## One line -/

/-- Takes a line on which nothing is continued over a line end. `above` holds the lines
    of a paragraph that ends right above. -/
def takeAfresh (r : Reader) (above : List ParagraphLine) (line : SourceLine)
    (next? : Option SourceLine) : Reader :=
  let containers := r.stack.length
  let frames := r.containerFrames ++ r.leaf.frame?.toList
  let held := if r.closing then frames.dropLast else frames
  let (n, p) := continueFrames line.place held
  let r := { r with closing := false }
  if n == frames.length && containers < n then r.takeLine line p
  else
    let reached := if n == 0 then line.start else p.offset
    let r := match r.leaf with
      | .indented start stop true => { r with leaf := .indented start (max stop reached) true }
      | .indented start _ false => { r with leaf := .indented start p.offset true }
      | .nothing | .table .. | .paragraph _ => r
      | .fenced .. | .html .. => r.closeLeaf reached
    -- The lines above belong to the innermost container, so they are added before it closes.
    let lost := containers - min n containers
    if lost == 0 then openAt line next? (line.text.length + 1) above p r
    else
      let r := (r.addParagraph above).closeLeaf line.start
      openAt line next? (line.text.length + 1) [] p (closeContainers line.start lost r)

/-- Takes the next line. -/
def take (r : Reader) (line : SourceLine) (next? : Option SourceLine) : Reader :=
  let frames := r.containerFrames
  let (n, p) := continueFrames line.place frames
  let inside := n == frames.length
  match r.leaf with
  | .paragraph lines =>
    if interrupts frames inside p next? then
      let (r, above) := { r with leaf := .nothing }.addDefinitions lines
      r.takeAfresh above line next?
    else { r with leaf := .paragraph (⟨p.offset, line.stop, p.rest⟩ :: lines) }
  | .table start delimited =>
    -- The line after the header is the delimiter row that was seen from there.
    if !delimited || (inside && !interrupts frames inside p next?) then
      { r with leaf := .table start true }
    else (r.closeLeaf line.start).takeAfresh [] line next?
  | _ => r.takeAfresh [] line next?

/-- Takes lines to the end. -/
def takeAll (r : Reader) : List SourceLine → Reader
  | [] => r
  | line :: lines => takeAll (r.take line lines.head?) lines

/-- The nodes of a source that ends at `stop`. -/
def finish (r : Reader) (stop : Nat) : List Node :=
  (closeContainers stop r.stack.length (r.closeLeaf stop)).done.reverse

end Reader

/-! ## Whole sources -/

/-- The lines after a block of data between two lines of three marks, which only the
    beginning of a source can hold. -/
def skipData (mark : Char) (lines : List SourceLine) : List SourceLine :=
  match lines with
  | first :: rest =>
    let p := first.place.skipBlanks
    let isFence := fun cs : List Char =>
      List.replicate 3 mark == cs.takeWhile (· == mark) && (cs.drop 3).all Text.isGap
    if p.indent ≤ 3 && isFence p.rest && p.terminated then
      match rest.dropWhile fun l => !(isFence l.text && 0 < l.ending) with
      | _ :: after => after
      | [] => lines
    else lines
  | [] => []

/-- The lines of a source without the data at its beginning. -/
def bodyLines (source : List Char) : List SourceLine :=
  let lines := sourceLines source
  match lines with
  | first :: _ => skipData (if first.place.skipBlanks.rest.head? == some '+' then '+' else '-') lines
  | [] => []

/-- The block structure of a source. -/
def nodes (source : List Char) : List Node :=
  (Reader.takeAll {} (bodyLines source)).finish (Text.byteLength source)

end Rubric.Markdown
