/-
  Rubric.Proofs.Markdown.Outline

  Outlines of Markdown sources are well-formed.

  A check refuses a document in which a section is not where its neighbours allow
  it. Such documents can come from elsewhere; the outline of a Markdown source is
  none of them, whatever the source is. The nodes of a source are in order, so are
  the blocks that they make, and so are the sections folded from these.
-/
import Rubric.Proofs.Conformance.Halting
import Rubric.Proofs.Markdown.Reader

namespace Rubric.Markdown

/-- Blocks of ordered nodes are in order. -/
theorem inOrder_blocks (source : List Char) {nodes : List Node}
    (h : InOrder (nodes.map Node.ends)) :
    InOrder ((Node.blocks source none nodes).map Block.ends) :=
  ((Node.blocks_make source nodes).within h.within).inOrder

/-- The blocks of a source are in order. -/
theorem blocks_inOrder (source : String) : InOrder ((blocks source).map Block.ends) :=
  inOrder_blocks source.toList (nodes_within source.toList).inOrder

/-- **Markdown sources have well-formed outlines.** In an outline of ordered blocks every
    section starts where its heading starts and ends where the last block in the scope of
    the heading ends, or else with the heading; no section is misplaced, and no check finds
    the tree malformed. Blocks of ordered nodes are in order, and so are the blocks of a
    source, so no check finds the outline of a source malformed. -/
theorem outlines_are_wellFormed :
    (∀ (source : String) (blocks : List Block), InOrder (blocks.map Block.ends) →
      (∀ k parent? s,
        (walkAll none 0 (Fold.document source blocks).sections)[k]? = some (parent?, s) →
          ∃ before h rest, blocks = before ++ .heading h :: rest ∧
            (headingsOf before).length = k ∧ s.heading = some h ∧
            s.position.start = h.position.start ∧
            s.position.stop.offset
              = lastEnd h.position.stop.offset ((Fold.scope h.level rest).map Block.ends)) ∧
      (Fold.document source blocks).misplaced? = none ∧
      ∀ checker table, (checkDocument checker table (Fold.document source blocks)).WellFormed) ∧
    (∀ (source : List Char) (nodes : List Node), InOrder (nodes.map Node.ends) →
      InOrder ((Node.blocks source none nodes).map Block.ends)) ∧
    ∀ source : String, InOrder ((blocks source).map Block.ends) ∧
      (outline source).misplaced? = none ∧
      ∀ checker table, (checkDocument checker table (outline source)).WellFormed := by
  refine ⟨fun source blocks hblocks => ?_, fun source nodes => inOrder_blocks source,
    fun source => ?_⟩
  · -- That no section is misplaced is all that a check asks of the tree.
    have hplaced := Fold.document_misplaced? source hblocks
    exact ⟨fun k parent? s hs => Fold.document_extents source hblocks hs, hplaced,
      fun checker table => checkDocument_wellFormed checker table hplaced⟩
  · have hplaced := Fold.document_misplaced? source (blocks_inOrder source)
    exact ⟨blocks_inOrder source, hplaced,
      fun checker table => checkDocument_wellFormed checker table hplaced⟩

/-- A heading, a blank line and a paragraph that touch each other, and the span of an empty
    paragraph, which ends where it starts. -/
theorem touching_blocks_are_wellFormed :
    let span (start stop : Nat) : Span := ⟨⟨1, 1, start⟩, ⟨1, 1, stop⟩⟩
    let blocks : List Block :=
      [.heading ⟨1, "Title", span 0 7⟩, .paragraph ⟨"text", span 7 11⟩, .other (span 11 11)]
    let nodes : List Node := [.paragraph ⟨0, 4⟩, .blank ⟨4, 5⟩, .indented ⟨5, 5⟩]
    (∃ s, (walkAll none 0 (Fold.document "" blocks).sections)[0]? = some (none, s) ∧
      s.position.stop.offset = 11) ∧
    (Fold.document "" blocks).misplaced? = none ∧
    InOrder ((Node.blocks "text".toList none nodes).map Block.ends) := by
  intro span blocks nodes
  have hblocks : InOrder (blocks.map Block.ends) := by
    simp [InOrder, blocks, span, Block.ends, Span.ends, Block.position]
  have hnodes : InOrder (nodes.map Node.ends) := by
    simp [InOrder, nodes, Node.ends, Stretch.ends, Node.range]
  obtain ⟨-, hplaced, -⟩ := outlines_are_wellFormed.1 "" blocks hblocks
  exact ⟨⟨_, rfl, rfl⟩, hplaced, outlines_are_wellFormed.2.1 _ nodes hnodes⟩

end Rubric.Markdown
