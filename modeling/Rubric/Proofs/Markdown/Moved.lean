/-
  Rubric.Proofs.Markdown.Moved

  Reading lines that stand elsewhere.

  The reader takes offsets from the places of a line and from where the line stops, and
  all that it does with them is to keep them and to take the greater of two. So when
  lines are moved and keep their text, the same nodes come out, moved in the same way:
  whatever is read between two lines, moving commutes with reading one line more.
-/
import Mathlib.Data.Option.Basic
import Mathlib.Order.MinMax
import Rubric.Proofs.Markdown.Lines

namespace Rubric.Markdown

/-! ## Moving what has been read -/

def Stretch.moved (f : Nat → Nat) (s : Stretch) : Stretch :=
  ⟨f s.start, f s.stop⟩

mutual

/-- The node with all of its offsets moved. -/
def Node.moved (f : Nat → Nat) : Node → Node
  | .heading form level text range => .heading form level (text.moved f) (range.moved f)
  | .paragraph range => .paragraph (range.moved f)
  | .fenced info body range => .fenced (info.moved f) (body.map (Stretch.moved f)) (range.moved f)
  | .indented range => .indented (range.moved f)
  | .item bullet children range => .item bullet (movedAll f children) (range.moved f)
  | .blank range => .blank (range.moved f)
  | .other range => .other (range.moved f)

/-- `moved` on every one of some nodes. -/
def Node.movedAll (f : Nat → Nat) : List Node → List Node
  | [] => []
  | node :: nodes => node.moved f :: movedAll f nodes

end

theorem Node.movedAll_eq_map (f : Nat → Nat) (nodes : List Node) :
    movedAll f nodes = nodes.map (moved f) := by
  induction nodes with
  | nil => rfl
  | cons node nodes ih => rw [movedAll, ih, List.map_cons]

def ParagraphLine.moved (f : Nat → Nat) (l : ParagraphLine) : ParagraphLine :=
  { l with start := f l.start, stop := f l.stop }

def Container.moved (f : Nat → Nat) (c : Container) : Container :=
  { c with start := f c.start, children := c.children.map (Node.moved f) }

def Leaf.moved (f : Nat → Nat) : Leaf → Leaf
  | .nothing => .nothing
  | .paragraph lines => .paragraph (lines.map (ParagraphLine.moved f))
  | .indented start stop paused => .indented (f start) (f stop) paused
  | .fenced mark length info start body ended =>
    .fenced mark length (info.moved f) (f start) (body.map (Stretch.moved f)) ended
  | .html kind start => .html kind (f start)
  | .table start delimited => .table (f start) delimited

/-- The state of the reader with all offsets in it moved. -/
def Reader.moved (f : Nat → Nat) (r : Reader) : Reader :=
  { r with
    done := r.done.map (Node.moved f)
    stack := r.stack.map (Container.moved f)
    leaf := r.leaf.moved f }

namespace Reader

variable (f : Nat → Nat) (r : Reader)

/-! ## Adding and closing -/

theorem add_moved (node : Node) : (r.moved f).add (node.moved f) = (r.add node).moved f := by
  obtain ⟨done, stack, leaf, closing⟩ := r
  cases stack with
  | nil => rfl
  | cons c cs => rfl

theorem foldl_add_moved (ranges : List Stretch) :
    (ranges.map (Stretch.moved f)).foldl (fun r range => r.add (.other range)) (r.moved f)
      = (ranges.foldl (fun r range => r.add (.other range)) r).moved f := by
  induction ranges generalizing r with
  | nil => rfl
  | cons range ranges ih =>
    rw [List.map_cons, List.foldl_cons, List.foldl_cons, ← ih, ← add_moved]
    rfl

theorem closeContainer_moved (stop : Nat) :
    (r.moved f).closeContainer (f stop) = (r.closeContainer stop).moved f := by
  obtain ⟨done, stack, leaf, closing⟩ := r
  cases stack with
  | nil => rfl
  | cons c cs =>
    obtain ⟨kind, start, children⟩ := c
    cases kind with
    | quote => exact add_moved f ⟨done, cs, leaf, closing⟩ (.other ⟨start, stop⟩)
    | item bullet width =>
      have hnode : Node.moved f (.item bullet children.reverse ⟨start, stop⟩)
          = .item bullet (children.map (Node.moved f)).reverse ⟨f start, f stop⟩ := by
        rw [Node.moved, Node.movedAll_eq_map, List.map_reverse]
        rfl
      have hadd := add_moved f ⟨done, cs, leaf, closing⟩
        (.item bullet children.reverse ⟨start, stop⟩)
      rw [hnode] at hadd
      exact hadd

theorem closeContainers_moved (stop n : Nat) :
    closeContainers (f stop) n (r.moved f) = (closeContainers stop n r).moved f := by
  induction n generalizing r with
  | zero => rfl
  | succ n ih => rw [closeContainers, closeContainers, closeContainer_moved, ih]

/-! ## Paragraphs and other leaves -/

theorem joined_moved (lines : List ParagraphLine) :
    joined (lines.map (ParagraphLine.moved f)) = joined lines := by
  induction lines with
  | nil => rfl
  | cons l ls ih =>
    cases ls with
    | nil => rfl
    | cons m ls =>
      show l.text ++ '\n' :: joined ((m :: ls).map (ParagraphLine.moved f)) = _
      rw [ih]
      rfl

variable {f}

-- No lines have a range as well, at the beginning of the source, which has to stay there.
theorem rangeOf_moved (hzero : f 0 = 0) (lines : List ParagraphLine) :
    rangeOf (lines.map (ParagraphLine.moved f)) = (rangeOf lines).moved f := by
  cases lines with
  | nil => rw [List.map_nil, rangeOf, Stretch.moved, hzero]
  | cons l ls =>
    rw [List.map_cons, rangeOf, List.getLast?_map]
    cases hlast : ls.getLast? with
    | none => simp [rangeOf, hlast, ParagraphLine.moved, Stretch.moved]
    | some last => simp [rangeOf, hlast, ParagraphLine.moved, Stretch.moved]

theorem cutDefinitions_moved (hzero : f 0 = 0) (fuel : Nat) (lines : List ParagraphLine) :
    cutDefinitions fuel (lines.map (ParagraphLine.moved f))
      = ((cutDefinitions fuel lines).1.map (Stretch.moved f),
          (cutDefinitions fuel lines).2.map (ParagraphLine.moved f)) := by
  induction fuel generalizing lines with
  | zero => rfl
  | succ fuel ih =>
    unfold cutDefinitions
    rw [joined_moved, List.isEmpty_map, List.length_map]
    split
    · rfl
    split
    · rfl
    · dsimp only
      rw [← List.map_take, ← List.map_drop, ih, rangeOf_moved hzero]
      rfl

theorem addDefinitions_moved (hzero : f 0 = 0) (lines : List ParagraphLine) :
    (r.moved f).addDefinitions (lines.map (ParagraphLine.moved f))
      = ((r.addDefinitions lines).1.moved f,
          (r.addDefinitions lines).2.map (ParagraphLine.moved f)) := by
  unfold addDefinitions
  rw [← List.map_reverse, List.length_map, cutDefinitions_moved hzero]
  dsimp only
  rw [foldl_add_moved]

theorem addParagraph_moved (hzero : f 0 = 0) (lines : List ParagraphLine) :
    (r.moved f).addParagraph (lines.map (ParagraphLine.moved f))
      = (r.addParagraph lines).moved f := by
  unfold addParagraph
  rw [List.isEmpty_map, rangeOf_moved hzero]
  split
  · rfl
  · exact add_moved f r (.paragraph (rangeOf lines))

theorem closeLeaf_moved (hzero : f 0 = 0) (stop : Nat) :
    (r.moved f).closeLeaf (f stop) = (r.closeLeaf stop).moved f := by
  obtain ⟨done, stack, leaf, closing⟩ := r
  let cleared : Reader := ⟨done, stack, .nothing, closing⟩
  cases leaf with
  | nothing => rfl
  | paragraph lines =>
    have hcut := addDefinitions_moved cleared hzero lines
    have hadd := addParagraph_moved (cleared.addDefinitions lines).1 hzero
      (cleared.addDefinitions lines).2
    show _ = moved f ((cleared.addDefinitions lines).1.addParagraph
      (cleared.addDefinitions lines).2)
    rw [← hadd]
    show addParagraph ((cleared.moved f).addDefinitions (lines.map (ParagraphLine.moved f))).1
      ((cleared.moved f).addDefinitions (lines.map (ParagraphLine.moved f))).2 = _
    rw [hcut]
  | indented start codeStop paused =>
    cases paused with
    | true => exact add_moved f cleared (.indented ⟨start, codeStop⟩)
    | false => exact add_moved f cleared (.indented ⟨start, stop⟩)
  | fenced mark length info start body ended =>
    cases ended with
    | true => exact add_moved f cleared (.fenced info body ⟨start, stop⟩)
    | false =>
      cases body with
      | none => exact add_moved f cleared (.fenced info none ⟨start, stop⟩)
      | some b => exact add_moved f cleared (.fenced info (some ⟨b.start, stop⟩) ⟨start, stop⟩)
  | html kind start => exact add_moved f cleared (.other ⟨start, stop⟩)
  | table start delimited => exact add_moved f cleared (.other ⟨start, stop⟩)

/-- Whether a list item ends because it begins with two blank lines does not depend on where
these stand. -/
theorem endsItem_moved (r : Reader) :
    (match (r.moved f).stack with
      | ⟨.item .., _, [.blank _, .blank _]⟩ :: _ => { r.moved f with closing := true }
      | _ => r.moved f)
      = (match r.stack with
        | ⟨.item .., _, [.blank _, .blank _]⟩ :: _ => { r with closing := true }
        | _ => r).moved f := by
  obtain ⟨done, stack, leaf, closing⟩ := r
  cases stack with
  | nil => rfl
  | cons c cs =>
    obtain ⟨kind, start, children⟩ := c
    cases kind with
    | quote => rfl
    | item bullet width =>
      -- Only two nodes are looked at, and moving keeps what kind of node they are.
      match children with
      | [] => rfl
      | [a] => cases a <;> rfl
      | [a, b] => cases a <;> cases b <;> rfl
      | a :: b :: c :: rest => cases a <;> cases b <;> rfl

theorem addBlank_moved (hzero : f 0 = 0) (range : Stretch) :
    (r.moved f).addBlank (range.moved f) = (r.addBlank range).moved f := by
  have hblank : ((r.moved f).closeLeaf (f range.start)).add (.blank (range.moved f))
      = ((r.closeLeaf range.start).add (.blank range)).moved f := by
    rw [closeLeaf_moved r hzero]
    exact add_moved f _ (.blank range)
  have hends := endsItem_moved (f := f) ((r.closeLeaf range.start).add (.blank range))
  rw [← hblank] at hends
  obtain ⟨done, stack, leaf, closing⟩ := r
  cases leaf with
  | indented start codeStop paused =>
    cases paused with
    | true => rfl
    | false => exact hends
  | _ => exact hends

end Reader

/-! ## Opening -/

theorem Leaf.frame?_moved (f : Nat → Nat) (leaf : Leaf) : (leaf.moved f).frame? = leaf.frame? := by
  cases leaf with
  | indented start stop paused => cases paused <;> rfl
  | _ => rfl

namespace Reader

variable {f : Nat → Nat} {d : Nat} {line other : SourceLine} {next? next?' : Option SourceLine}

theorem containerFrames_moved (r : Reader) : (r.moved f).containerFrames = r.containerFrames := by
  rw [containerFrames, containerFrames]
  show ((r.stack.map (Container.moved f)).map Container.frame).reverse = _
  rw [List.map_map]
  rfl

theorem beginsTable_moved (frames : List Frame) (p : Place)
    (hnext : Option.Rel SourceLine.Displaced next? next?') :
    beginsTable frames (p.shift d) next?' = beginsTable frames p next? := by
  cases hnext with
  | none => rfl
  | some hline =>
    obtain ⟨e, hplace⟩ := hline
    unfold beginsTable
    rw [Place.shift_rest]
    cases p.rest with
    | nil => rfl
    | cons c cs =>
      dsimp only
      rw [hplace, Place.skipBlanks_shift, continueFrames_shift]
      rfl

theorem interrupts_moved (frames : List Frame) (inside : Bool) (p : Place)
    (hnext : Option.Rel SourceLine.Displaced next? next?') :
    interrupts frames inside (p.shift d) next?' = interrupts frames inside p next? := by
  unfold interrupts
  extract_lets q' q
  have hq : q' = q.shift d := Place.skipBlanks_shift d p
  rw [hq, Opening.at?_shift, beginsTable_moved frames q hnext, Place.shift_rest]
  congr 1
  cases Opening.at? true inside q with
  | none => rfl
  | some opening => cases opening <;> rfl

theorem openFence_moved (h : line.MovesBy f d other) (r : Reader) (start : Nat) (mark : Char)
    (length : Nat) {info : Place} (hinfo : line.On info) :
    (r.moved f).openFence other (f start) mark length (info.shift d)
      = (r.openFence line start mark length info).moved f := by
  have hoffset : info.offset + d = f info.offset := (h.places info hinfo).symm
  unfold openFence
  rw [Place.shift_offset, hoffset, h.stop]
  rfl

/-- What begins at a place begins at the moved place. The containers that begin there lead to
further places of the line, so the induction is on the fuel for these. -/
theorem openAt_moved (h : line.MovesBy f d other)
    (hnext : Option.Rel SourceLine.Displaced next? next?') (hzero : f 0 = 0) (fuel : Nat)
    {p : Place} (hp : line.On p) (above : List ParagraphLine) (r : Reader) :
    openAt other next?' fuel (above.map (ParagraphLine.moved f)) (p.shift d) (r.moved f)
      = (openAt line next? fuel above p r).moved f := by
  induction fuel generalizing above p r with
  | zero => rfl
  | succ fuel ih =>
    have hhere : p.offset + d = f p.offset := (h.places p hp).symm
    have hq : p.Reaches p.skipBlanks := Place.reaches_skipBlanks p
    unfold openAt
    dsimp only
    rw [Place.skipBlanks_shift, Place.shift_offset, hhere, h.stop, addParagraph_moved r hzero,
      closeLeaf_moved r hzero, List.isEmpty_map, addParagraph_moved _ hzero, Place.shift_rest,
      apply_ite (moved f), apply_ite (moved f)]
    simp only [Place.shift_indent, Place.atLineEnd_shift, Opening.at?_shift]
    generalize p.skipBlanks = q at hq ⊢
    generalize r.addParagraph above = grown
    generalize r.closeLeaf p.offset = closed
    generalize closed.addParagraph above = opened
    refine ite_congr rfl (fun _ => ?_) fun _ => ite_congr rfl (fun _ => ?_) fun _ => ?_
    · -- The chunk that the code goes on with begins where it did.
      obtain ⟨done, stack, leaf, closing⟩ := r
      cases leaf with
      | indented start stop paused => cases paused <;> rfl
      | _ => rfl
    · exact addBlank_moved grown hzero ⟨p.offset, line.stop⟩
    have hcontainer : ∀ kind after, q.Reaches after →
        openAt other next?' fuel [] (after.shift d)
            { opened.moved f with stack := ⟨kind, f p.offset, []⟩ :: (opened.moved f).stack }
          = (openAt line next? fuel [] after
              { opened with stack := ⟨kind, p.offset, []⟩ :: opened.stack }).moved f := by
      intro kind after hafter
      exact ih (hp.reaches (hq.trans hafter)) []
        { opened with stack := ⟨kind, p.offset, []⟩ :: opened.stack }
    cases hopening : Opening.at? (!above.isEmpty) true q with
    | none =>
      dsimp only [Option.map_none]
      rw [containerFrames_moved, beginsTable_moved opened.containerFrames q hnext,
        apply_ite (moved f), apply_ite (moved f)]
      rfl
    | some opening =>
      have hfits := Opening.at?_fits hopening
      cases opening with
      | underline level =>
        dsimp only [Option.map_some, Opening.shift]
        rw [rangeOf_moved hzero]
        exact add_moved f closed
          (.heading .underlined level (rangeOf above) ⟨(rangeOf above).start, line.stop⟩)
      | thematicBreak => exact add_moved f opened (.other ⟨p.offset, line.stop⟩)
      | heading level after =>
        have hafter : after.offset + d = f after.offset :=
          (h.places after (hp.reaches (hq.trans hfits))).symm
        dsimp only [Option.map_some, Opening.shift]
        rw [Place.shift_offset, hafter]
        exact add_moved f opened
          (.heading .marked level ⟨after.offset, line.stop⟩ ⟨p.offset, line.stop⟩)
      | quote after => exact hcontainer .quote after hfits
      | item bullet width weak after => exact hcontainer (.item bullet width) after hfits
      | fence mark length info =>
        exact openFence_moved h opened p.offset mark length (hp.reaches (hq.trans hfits))
      | html kind rest => rfl

/-! ## Lines of code and of raw HTML -/

/-- A closing fence ends the body at a place of its line. -/
theorem fenceEnd?_reaches {mark : Char} {length stop : Nat} {p : Place}
    (h : fenceEnd? mark length p = some stop) : ∃ q, p.Reaches q ∧ q.offset = stop := by
  unfold fenceEnd? at h
  extract_lets backwards run before gap gapStart gapStop at h
  have hstart : p.Reaches gapStart := Place.reaches_skip _ p
  split at h
  · cases h
  obtain rfl := Option.some.inj h
  split
  · exact ⟨gapStart, hstart, rfl⟩
  · exact ⟨gapStop, hstart.trans (Place.reaches_walkBlanks none gap gapStart), rfl⟩

theorem fenceEnd?_shift (mark : Char) (length : Nat) (p : Place) :
    fenceEnd? mark length (p.shift d) = (fenceEnd? mark length p).map (· + d) := by
  unfold fenceEnd?
  dsimp only
  rw [Place.skip_shift, Place.walkBlanks_shift, apply_ite (Option.map (· + d)), Option.map_some,
    apply_ite (· + d)]
  rfl

theorem takeLine_moved (h : line.MovesBy f d other) {p : Place} (hp : line.On p) (r : Reader) :
    (r.moved f).takeLine other (p.shift d) = (r.takeLine line p).moved f := by
  have hhere : p.offset + d = f p.offset := (h.places p hp).symm
  obtain ⟨done, stack, leaf, closing⟩ := r
  cases leaf with
  | nothing => rfl
  | paragraph lines => rfl
  | table start delimited => rfl
  | html kind start => rfl
  | indented start stop paused =>
    show (⟨_, _, .indented (f start) other.stop false, closing⟩ : Reader) = _
    rw [h.stop]
    rfl
  | fenced mark length info start body ended =>
    have hbody : ((body.map (Stretch.moved f)).map Stretch.start).getD (f p.offset)
        = f ((body.map Stretch.start).getD p.offset) := by
      cases body <;> rfl
    unfold takeLine
    dsimp only [moved, Leaf.moved]
    rw [fenceEnd?_shift, Place.shift_offset, hhere, hbody, h.stop]
    cases hend : fenceEnd? mark length p with
    | none => rfl
    | some stop =>
      obtain ⟨q, hq, rfl⟩ := fenceEnd?_reaches hend
      have hstop : q.offset + d = f q.offset := (h.places q (hp.reaches hq)).symm
      have hsame : (f q.offset == f p.offset) = (q.offset == p.offset) := by
        rw [Bool.eq_iff_iff, beq_iff_eq, beq_iff_eq, ← hstop, ← hhere]
        omega
      dsimp only [Option.map_some]
      rw [hstop, hsame, Option.isNone_map, apply_ite (Option.map (Stretch.moved f))]
      rfl

/-! ## One line -/

/-- A leaf that pauses is moved with its chunk, whose end is the greater of two offsets. -/
theorem pause_moved (hzero : f 0 = 0) (hmono : Monotone f) (r : Reader) (reached there : Nat) :
    (match (r.moved f).leaf with
      | .indented start stop true =>
        { r.moved f with leaf := .indented start (max stop (f reached)) true }
      | .indented start _ false => { r.moved f with leaf := .indented start (f there) true }
      | .nothing | .table .. | .paragraph _ => r.moved f
      | .fenced .. | .html .. => (r.moved f).closeLeaf (f reached))
      = (match r.leaf with
        | .indented start stop true => { r with leaf := .indented start (max stop reached) true }
        | .indented start _ false => { r with leaf := .indented start there true }
        | .nothing | .table .. | .paragraph _ => r
        | .fenced .. | .html .. => r.closeLeaf reached).moved f := by
  have hclose := closeLeaf_moved r hzero reached
  obtain ⟨done, stack, leaf, closing⟩ := r
  cases leaf with
  | indented start stop paused =>
    cases paused with
    | true =>
      show (⟨_, _, .indented (f start) (max (f stop) (f reached)) true, closing⟩ : Reader) = _
      rw [← hmono.map_max]
      rfl
    | false => rfl
  | fenced mark length info start body ended => exact hclose
  | html kind start => exact hclose
  | _ => rfl

/-- Moving keeps the order of offsets, since a pausing leaf takes the greater of two. -/
theorem takeAfresh_moved (h : line.MovesBy f d other)
    (hnext : Option.Rel SourceLine.Displaced next? next?') (hzero : f 0 = 0) (hmono : Monotone f)
    (above : List ParagraphLine) (r : Reader) :
    (r.moved f).takeAfresh (above.map (ParagraphLine.moved f)) other next?'
      = (r.takeAfresh above line next?).moved f := by
  have hstack : (r.moved f).stack.length = r.stack.length := List.length_map _
  have hleaf : (r.moved f).leaf.frame? = r.leaf.frame? := Leaf.frame?_moved f r.leaf
  have hclosing : (r.moved f).closing = r.closing := rfl
  unfold takeAfresh
  rw [hstack, containerFrames_moved, hleaf, hclosing, h.place, h.displaced.text, h.start]
  extract_lets containers frames held base' base
  rw [continueFrames_shift]
  have hp : line.On (continueFrames line.place held).2 := continueFrames_reaches _ _
  generalize continueFrames line.place held = continued at hp ⊢
  obtain ⟨n, p⟩ := continued
  have hhere : p.offset + d = f p.offset := (h.places p hp).symm
  dsimp -zeta only at hp ⊢
  extract_lets reached' paused' lost closed' reached paused closed
  have hbase : base' = base.moved f := rfl
  have hreached : reached' = f reached := by
    dsimp only [reached', reached]
    rw [apply_ite f, Place.shift_offset, hhere]
  have hpaused : paused' = paused.moved f := by
    dsimp only [paused', base']
    rw [hreached, Place.shift_offset, hhere]
    exact pause_moved hzero hmono base reached p.offset
  have hclosed : closed' = closed.moved f := by
    dsimp only [closed']
    rw [hpaused, addParagraph_moved paused hzero, closeLeaf_moved _ hzero]
  have hinner := openAt_moved h hnext hzero (line.text.length + 1) hp []
    (closeContainers line.start lost closed)
  rw [List.map_nil] at hinner
  rw [hbase, takeLine_moved h hp, hpaused, hclosed, closeContainers_moved, hinner,
    openAt_moved h hnext hzero _ hp, apply_ite (moved f), apply_ite (moved f)]

theorem take_moved (h : line.MovesBy f d other)
    (hnext : Option.Rel SourceLine.Displaced next? next?') (hzero : f 0 = 0) (hmono : Monotone f)
    (r : Reader) : (r.moved f).take other next?' = (r.take line next?).moved f := by
  have hafresh : ∀ above r, (moved f r).takeAfresh (above.map (ParagraphLine.moved f)) other next?'
      = (r.takeAfresh above line next?).moved f :=
    takeAfresh_moved h hnext hzero hmono
  have hp : line.On (continueFrames line.place r.containerFrames).2 := continueFrames_reaches _ _
  have hhere := (h.places _ hp).symm
  unfold take
  rw [containerFrames_moved, h.place, h.start, h.stop]
  dsimp only
  rw [continueFrames_shift]
  generalize continueFrames line.place r.containerFrames = continued at hp hhere ⊢
  obtain ⟨n, p⟩ := continued
  dsimp only at hp hhere ⊢
  rw [interrupts_moved _ _ p hnext]
  generalize interrupts r.containerFrames (n == r.containerFrames.length) p next? = breaks
  have hmoved : (r.moved f).leaf = r.leaf.moved f := rfl
  rw [hmoved]
  cases r.leaf with
  | paragraph lines =>
    let cleared : Reader := { r with leaf := .nothing }
    have hcut := addDefinitions_moved cleared hzero lines
    dsimp only [Leaf.moved]
    rw [Place.shift_offset, hhere, apply_ite (moved f), ← hafresh]
    refine ite_congr rfl (fun _ => ?_) fun _ => rfl
    show ((cleared.moved f).addDefinitions (lines.map (ParagraphLine.moved f))).1.takeAfresh
      ((cleared.moved f).addDefinitions (lines.map (ParagraphLine.moved f))).2 other next?' = _
    rw [hcut]
  | table start delimited =>
    dsimp only [Leaf.moved]
    rw [closeLeaf_moved r hzero, apply_ite (moved f), ← hafresh]
    rfl
  | nothing => exact hafresh [] r
  | indented start stop paused => exact hafresh [] r
  | fenced mark length info start body ended => exact hafresh [] r
  | html kind start => exact hafresh [] r

/-! ## Whole sources -/

theorem takeAll_moved (hzero : f 0 = 0) (hmono : Monotone f) {lines others : List SourceLine}
    (hlines : List.Forall₂ (fun line other => ∃ d, line.MovesBy f d other) lines others)
    (r : Reader) : takeAll (r.moved f) others = (takeAll r lines).moved f := by
  induction hlines generalizing r with
  | nil => rfl
  | @cons line other lines others hline hlines ih =>
    obtain ⟨d, hline⟩ := hline
    have hnext : Option.Rel SourceLine.Displaced lines.head? others.head? := by
      cases hlines with
      | nil => exact .none
      | cons hnext _ =>
        obtain ⟨e, hnext⟩ := hnext
        exact .some hnext.displaced
    rw [takeAll, takeAll, take_moved hline hnext hzero hmono, ih]

theorem finish_moved (hzero : f 0 = 0) (r : Reader) (stop : Nat) :
    (r.moved f).finish (f stop) = (r.finish stop).map (Node.moved f) := by
  have hstack : (r.moved f).stack.length = r.stack.length := List.length_map _
  unfold finish
  rw [hstack, closeLeaf_moved r hzero, closeContainers_moved, List.map_reverse]
  rfl

end Reader

/-- **The nodes of a source with carriage returns are those of the source, moved.** -/
theorem nodes_withReturns (source : List Char) :
    nodes (Text.withReturns source) = (nodes source).map (Node.moved (Text.returned source)) := by
  have hzero := Text.returned_zero source
  have hmono := Text.returned_mono source
  have hlines := (bodyLines_returned source).imp fun _ _ => SourceLine.Returned.movesBy
  have hread := Reader.takeAll_moved hzero hmono hlines {}
  rw [nodes, ← Text.returned_length, nodes, ← Reader.finish_moved hzero, ← hread]
  rfl

/-- The nodes of a source begin and stop at offsets that take no line end apart: moving every
offset to the last such offset up to it leaves the lines where they are. -/
theorem nodes_cutBefore (source : List Char) :
    (nodes source).map (Node.moved (Text.cutBefore source)) = nodes source := by
  have hzero := Text.cutBefore_eq (Text.cut_zero source)
  have hmono := Text.cutBefore_mono source
  have hlines : List.Forall₂ (fun line other => ∃ d, line.MovesBy (Text.cutBefore source) d other)
      (bodyLines source) (bodyLines source) := by
    refine List.forall₂_same.2 fun line hline => ?_
    obtain ⟨before, lineEnd, after, hstands⟩ := bodyLines_stand source line hline
    exact ⟨0, rfl, fun p hp => Text.cutBefore_eq (hstands.place_cut hp),
      (Text.cutBefore_eq hstands.stop_cut).symm⟩
  have hread := Reader.takeAll_moved hzero hmono hlines {}
  have hfinish := Reader.finish_moved hzero (Reader.takeAll {} (bodyLines source))
    (Text.byteLength source)
  rw [Text.cutBefore_eq (Text.cut_byteLength source), ← hread] at hfinish
  exact hfinish.symm

end Rubric.Markdown
