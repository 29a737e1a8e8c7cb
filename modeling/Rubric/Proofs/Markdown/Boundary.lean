/-
  Rubric.Proofs.Markdown.Boundary

  Nodes and blocks begin at characters of the source.

  A line begins at a character, and so does every place on it, since reading passes
  over whole characters. All that the reader keeps as the beginning of a node, of a
  container or of a leaf is such a place. `Reader.Begins` says this for any predicate
  on offsets; each step of the reader keeps it on a line whose places all satisfy
  the predicate.
-/
import Rubric.Proofs.Markdown.Reader

namespace Rubric.Markdown

/-- What a leaf holds begins at offsets that satisfy a predicate. -/
def Leaf.Begins (b : Nat → Prop) : Leaf → Prop
  | .nothing => True
  | .paragraph lines => ∀ l ∈ lines, b l.start
  | .indented start _ _ | .fenced _ _ _ start _ _ | .html _ start | .table start _ => b start

/-- Every place of the line has an offset that satisfies a predicate. -/
def SourceLine.Places (b : Nat → Prop) (line : SourceLine) : Prop :=
  ∀ p, line.On p → b p.offset

theorem SourceLine.Places.start {b : Nat → Prop} {line : SourceLine} (h : line.Places b) :
    b line.start :=
  h line.place (Place.Reaches.refl line.place)

namespace Reader

/-- The nodes at the top, the containers and the leaf begin at offsets that satisfy a
    predicate. -/
structure Begins (b : Nat → Prop) (r : Reader) : Prop where
  done : ∀ node ∈ r.done, b node.range.start
  stack : ∀ c ∈ r.stack, b c.start
  leaf : r.leaf.Begins b

variable {b : Nat → Prop} {r : Reader}

theorem Begins.withLeaf (h : r.Begins b) (leaf : Leaf) (hleaf : leaf.Begins b) (closing : Bool) :
    Begins b { r with leaf := leaf, closing := closing } :=
  ⟨h.done, h.stack, hleaf⟩

theorem Begins.push (h : r.Begins b) {start : Nat} (hstart : b start) (kind : ContainerKind) :
    Begins b { r with stack := ⟨kind, start, []⟩ :: r.stack } :=
  ⟨h.done, List.forall_mem_cons.2 ⟨hstart, h.stack⟩, h.leaf⟩

/-! ## Adding and closing -/

theorem add_begins {node : Node} (h : r.Begins b) (hnode : b node.range.start) :
    (r.add node).Begins b := by
  obtain ⟨hdone, hstack, hleaf⟩ := h
  unfold add
  split
  next c cs heq =>
    rw [heq, List.forall_mem_cons] at hstack
    exact ⟨hdone, List.forall_mem_cons.2 hstack, hleaf⟩
  next => exact ⟨List.forall_mem_cons.2 ⟨hnode, hdone⟩, hstack, hleaf⟩

theorem foldl_add_begins {ranges : List Stretch} (h : r.Begins b)
    (hranges : ∀ range ∈ ranges, b range.start) :
    (ranges.foldl (fun r range => r.add (.other range)) r).Begins b := by
  induction ranges generalizing r with
  | nil => exact h
  | cons range ranges ih =>
    rw [List.forall_mem_cons] at hranges
    exact ih (add_begins h hranges.1) hranges.2

theorem closeContainer_begins (h : r.Begins b) (stop : Nat) :
    (r.closeContainer stop).Begins b := by
  obtain ⟨hdone, hstack, hleaf⟩ := h
  unfold closeContainer
  split
  · exact ⟨hdone, hstack, hleaf⟩
  next c cs heq =>
    rw [heq, List.forall_mem_cons] at hstack
    -- The node of a container begins where the container does.
    apply add_begins
    · exact ⟨hdone, hstack.2, hleaf⟩
    · cases c.kind with
      | quote => exact hstack.1
      | item bullet width => exact hstack.1

theorem closeContainers_begins (stop n : Nat) (h : r.Begins b) :
    (closeContainers stop n r).Begins b := by
  induction n generalizing r with
  | zero => exact h
  | succ n ih => exact ih (closeContainer_begins h stop)

/-! ## Paragraphs and other leaves -/

/-- The range of some lines begins where the first of them does; that of no lines begins at
    the beginning of the source. -/
theorem rangeOf_begins {lines : List ParagraphLine} (hzero : b 0) (h : ∀ l ∈ lines, b l.start) :
    b (rangeOf lines).start := by
  cases lines with
  | nil => exact hzero
  | cons l ls => exact h l List.mem_cons_self

theorem cutDefinitions_begins (hzero : b 0) (fuel : Nat) {lines : List ParagraphLine}
    (h : ∀ l ∈ lines, b l.start) :
    (∀ range ∈ (cutDefinitions fuel lines).1, b range.start) ∧
      ∀ l ∈ (cutDefinitions fuel lines).2, b l.start := by
  induction fuel generalizing lines with
  | zero => exact ⟨by simp [cutDefinitions], h⟩
  | succ fuel ih =>
    unfold cutDefinitions
    split
    · exact ⟨by simp, by simp⟩
    split
    · exact ⟨by simp, h⟩
    next rest _ =>
      extract_lets left taken
      have htaken : b (rangeOf taken).start :=
        rangeOf_begins hzero fun l hl => h l ((List.take_prefix _ lines).subset hl)
      obtain ⟨hranges, hleft⟩ :=
        ih fun l hl => h l ((List.drop_suffix (lines.length - left) lines).subset hl)
      exact ⟨List.forall_mem_cons.2 ⟨htaken, hranges⟩, hleft⟩

theorem addDefinitions_begins (hzero : b 0) {lines : List ParagraphLine} (h : r.Begins b)
    (hlines : ∀ l ∈ lines, b l.start) :
    (r.addDefinitions lines).1.Begins b ∧ ∀ l ∈ (r.addDefinitions lines).2, b l.start := by
  have hreversed : ∀ l ∈ lines.reverse, b l.start := fun l hl => hlines l (List.mem_reverse.1 hl)
  obtain ⟨hranges, hleft⟩ := cutDefinitions_begins hzero lines.length hreversed
  exact ⟨foldl_add_begins h hranges, hleft⟩

theorem addParagraph_begins (hzero : b 0) {lines : List ParagraphLine} (h : r.Begins b)
    (hlines : ∀ l ∈ lines, b l.start) : (r.addParagraph lines).Begins b := by
  unfold addParagraph
  split
  · exact h
  · exact add_begins h (rangeOf_begins hzero hlines)

theorem closeLeaf_begins (hzero : b 0) (h : r.Begins b) (stop : Nat) :
    (r.closeLeaf stop).Begins b := by
  have hleaf := h.leaf
  have hcleared : Begins b { r with leaf := .nothing } := ⟨h.done, h.stack, trivial⟩
  unfold closeLeaf
  extract_lets cleared
  split
  next => exact h
  next lines hlines =>
    rw [hlines] at hleaf
    obtain ⟨hadded, hleft⟩ := addDefinitions_begins hzero hcleared hleaf
    exact addParagraph_begins hzero hadded hleft
  all_goals
    next hopen =>
      rw [hopen] at hleaf
      exact add_begins hcleared hleaf

theorem addBlank_begins (hzero : b 0) (h : r.Begins b) {range : Stretch}
    (hrange : b range.start) : (r.addBlank range).Begins b := by
  unfold addBlank
  split
  next start codeStop hleaf =>
    have hstart := h.leaf
    rw [hleaf] at hstart
    exact ⟨h.done, h.stack, hstart⟩
  next =>
    extract_lets next
    have hnext : next.Begins b := add_begins (closeLeaf_begins hzero h range.start) hrange
    split
    · exact ⟨hnext.done, hnext.stack, hnext.leaf⟩
    · exact hnext

/-! ## One line -/

section
variable {line : SourceLine} (hzero : b 0) (hline : line.Places b)
include hzero hline

/-- What begins at a place of a line begins at the place, or with the paragraph above. -/
theorem openAt_begins (next? : Option SourceLine) (fuel : Nat) {p : Place}
    {above : List ParagraphLine} (hp : line.On p) (h : r.Begins b)
    (habove : ∀ l ∈ above, b l.start) : (openAt line next? fuel above p r).Begins b := by
  have hhere := hline p hp
  induction fuel generalizing above p r with
  | zero => exact h
  | succ fuel ih =>
    unfold openAt
    extract_lets q range start grown closed text opened
    have hq : p.Reaches q := Place.reaches_skipBlanks p
    have hgrown := addParagraph_begins hzero h habove
    split
    · -- Indented code goes on from where it began, or begins here.
      have hstart : b start := by
        dsimp only [start]
        have hleaf := h.leaf
        split
        next codeStart codeStop hindented =>
          rw [hindented] at hleaf
          exact hleaf
        next => exact hhere
      exact ⟨hgrown.done, hgrown.stack, hstart⟩
    split
    · exact addBlank_begins hzero hgrown hhere
    have hclosed : closed.Begins b := closeLeaf_begins hzero h p.offset
    have hopened : opened.Begins b := addParagraph_begins hzero hclosed habove
    have hcontainer : ∀ kind after, q.Reaches after →
        (openAt line next? fuel [] after
          { opened with stack := ⟨kind, p.offset, []⟩ :: opened.stack }).Begins b := by
      intro kind after hafter
      have hon : line.On after := hp.reaches (hq.trans hafter)
      exact ih hon (hopened.push hhere kind) (by simp) (hline after hon)
    cases hopening : Opening.at? (!above.isEmpty) true q with
    | none =>
      dsimp only
      split
      · exact hopened
      split
      · exact hopened.withLeaf (.table p.offset false) hhere _
      · exact hopened.withLeaf (.paragraph _) (List.forall_mem_singleton.2 hhere) _
    | some opening =>
      have hfits := Opening.at?_fits hopening
      cases opening with
      | underline level => exact add_begins hclosed (rangeOf_begins hzero habove)
      | thematicBreak => exact add_begins hopened hhere
      | heading level after => exact add_begins hopened hhere
      | quote after => exact hcontainer .quote after hfits
      | item bullet width weak after => exact hcontainer (.item bullet width) after hfits
      | fence mark length info =>
        exact hopened.withLeaf (.fenced mark length _ p.offset none false) hhere _
      | html kind rest => exact hopened.withLeaf (.html kind p.offset) hhere _

omit hzero hline in
theorem takeLine_begins (h : r.Begins b) (line : SourceLine) (p : Place) :
    (r.takeLine line p).Begins b := by
  obtain ⟨hdone, hstack, hleaf⟩ := h
  unfold takeLine
  split
  next heq =>
    rw [heq] at hleaf
    exact ⟨hdone, hstack, hleaf⟩
  next heq =>
    rw [heq] at hleaf
    extract_lets bodyStart
    split
    · exact ⟨hdone, hstack, hleaf⟩
    · exact ⟨hdone, hstack, hleaf⟩
  next => exact ⟨hdone, hstack, hleaf⟩
  next => exact ⟨hdone, hstack, hleaf⟩

omit hline in
/-- A leaf that pauses keeps its beginning. -/
theorem pause_begins (h : r.Begins b) (reached there : Nat) :
    Begins b (match r.leaf with
      | .indented start stop true => { r with leaf := .indented start (max stop reached) true }
      | .indented start _ false => { r with leaf := .indented start there true }
      | .nothing | .table .. | .paragraph _ => r
      | .fenced .. | .html .. => r.closeLeaf reached) := by
  have hleaf := h.leaf
  split
  next heq =>
    rw [heq] at hleaf
    exact ⟨h.done, h.stack, hleaf⟩
  next heq =>
    rw [heq] at hleaf
    exact ⟨h.done, h.stack, hleaf⟩
  next => exact h
  next => exact h
  next => exact h
  next => exact closeLeaf_begins hzero h reached
  next => exact closeLeaf_begins hzero h reached

theorem takeAfresh_begins (next? : Option SourceLine) {above : List ParagraphLine}
    (h : r.Begins b) (habove : ∀ l ∈ above, b l.start) :
    (r.takeAfresh above line next?).Begins b := by
  unfold takeAfresh
  extract_lets containers frames held base
  have hp : line.On (continueFrames line.place held).2 := continueFrames_reaches _ _
  generalize continueFrames line.place held = continued at hp ⊢
  obtain ⟨n, p⟩ := continued
  dsimp -zeta only at hp ⊢
  have hbase : base.Begins b := ⟨h.done, h.stack, h.leaf⟩
  split
  · exact takeLine_begins hbase line p
  extract_lets reached paused lost closed
  have hpaused : paused.Begins b := pause_begins hzero hbase reached p.offset
  split
  · exact openAt_begins hzero hline next? _ hp hpaused habove
  · have hclosed : closed.Begins b :=
      closeLeaf_begins hzero (addParagraph_begins hzero hpaused habove) line.start
    exact openAt_begins hzero hline next? _ hp (closeContainers_begins _ _ hclosed) (by simp)

theorem take_begins (next? : Option SourceLine) (h : r.Begins b) :
    (r.take line next?).Begins b := by
  unfold take
  extract_lets frames
  have hp : line.On (continueFrames line.place frames).2 := continueFrames_reaches _ _
  generalize continueFrames line.place frames = continued at hp ⊢
  obtain ⟨n, p⟩ := continued
  dsimp -zeta only at hp ⊢
  extract_lets inside
  have hleaf := h.leaf
  split
  next lines hparagraph =>
    rw [hparagraph] at hleaf
    split
    · have hcleared : Begins b { r with leaf := .nothing } := ⟨h.done, h.stack, trivial⟩
      obtain ⟨hadded, hleft⟩ := addDefinitions_begins hzero hcleared hleaf
      exact takeAfresh_begins hzero hline next? hadded hleft
    · exact ⟨h.done, h.stack, List.forall_mem_cons.2 ⟨hline p hp, hleaf⟩⟩
  next start delimited htable =>
    rw [htable] at hleaf
    split
    · exact ⟨h.done, h.stack, hleaf⟩
    · exact takeAfresh_begins hzero hline next? (closeLeaf_begins hzero h line.start) (by simp)
  next => exact takeAfresh_begins hzero hline next? h (by simp)

end

/-! ## Whole sources -/

theorem takeAll_begins (hzero : b 0) {lines : List SourceLine}
    (hlines : ∀ line ∈ lines, line.Places b) (h : r.Begins b) : (takeAll r lines).Begins b := by
  induction lines generalizing r with
  | nil => exact h
  | cons line lines ih =>
    rw [List.forall_mem_cons] at hlines
    exact ih hlines.2 (take_begins hzero hlines.1 lines.head? h)

theorem finish_begins (hzero : b 0) (h : r.Begins b) (stop : Nat) :
    ∀ node ∈ r.finish stop, b node.range.start := by
  have hclosed := closeContainers_begins stop r.stack.length (closeLeaf_begins hzero h stop)
  intro node hnode
  exact hclosed.done node (List.mem_reverse.1 hnode)

end Reader

/-- Every line of a source stands in the source. -/
theorem bodyLines_places (source : List Char) :
    ∀ line ∈ bodyLines source, line.Places (Text.Boundary source) := by
  intro line hline p hp
  obtain ⟨before, lineEnd, after, hstands⟩ := bodyLines_stand source line hline
  exact (hstands.place_cut hp).boundary

/-- **The nodes of a source begin at characters.** -/
theorem nodes_begin (source : List Char) :
    ∀ node ∈ nodes source, Text.Boundary source node.range.start := by
  have hzero := Text.boundary_zero source
  have hstart : Reader.Begins (Text.Boundary source) {} := ⟨by simp, by simp, trivial⟩
  have hread := Reader.takeAll_begins hzero (bodyLines_places source) hstart
  exact Reader.finish_begins hzero hread _

/-! ## Blocks -/

namespace Node

/-- The span of a block starts and ends at characters if the node begins at one. -/
theorem block?_isAt {source : List Char} {node : Node}
    (h : Text.Boundary source node.range.start) :
    ∀ b ∈ (node.block? source).toList, b.position.IsAt source := by
  intro b hb
  rw [(of_block?_eq_some (Option.mem_toList.1 hb)).2]
  exact Span.trimmed_isAt h node.range.stop

theorem blocks_isAt {source : List Char} {nodes : List Node}
    (hnodes : ∀ node ∈ nodes, Text.Boundary source node.range.start) :
    ∀ b ∈ blocks source none nodes, b.position.IsAt source :=
  (blocks_make source nodes).forall_mem (fun _ h => block?_isAt h)
    (fun _ first _ h => Span.trimmed_isAt (h first List.mem_cons_self).2 _) hnodes

end Node

end Rubric.Markdown
