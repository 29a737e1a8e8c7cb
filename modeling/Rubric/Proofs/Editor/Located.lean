/-
  Rubric.Proofs.Editor.Located

  Every violation points into the section it is about.

  A check of the outline of a source reports under the heading of a section and at
  a span inside of that section. The span runs forward inside of the source, between
  characters, so that its range in an editor does not end before it starts.
-/
import Rubric.Editor.Diagnostic
import Rubric.Proofs.Editor.Position
import Rubric.Proofs.Markdown.Boundary
import Rubric.Proofs.Markdown.Outline
import Rubric.Proofs.Outline.Inside

namespace Rubric.Editor

/-- The violation points into a section of the document that it is under the heading of; its
    span runs forward inside of the source, and so does its range in an editor, if 32 bits
    can count the source. -/
structure PointsInto (source : String) (document : Document) (v : Violation) : Prop where
  within : ∃ (s : Section) (heading : Heading), s.Among document.sections ∧ s.heading = some heading ∧
    v.heading = some heading.content ∧ s.position.contains v.position = true
  forward : v.position.start.offset ≤ v.position.stop.offset
  inSource : v.position.stop.offset ≤ Text.byteLength source.toList
  inOrder : Text.byteLength source.toList < 2 ^ 32 →
    (Diagnostic.ofViolation source v).range.start.AtOrBefore
      (Diagnostic.ofViolation source v).range.stop

theorem stop_le_byteLength {source : List Char} {span : Span} (h : span.IsAt source) :
    span.stop.offset ≤ Text.byteLength source := by
  obtain ⟨-, offset, hoffset, hstop⟩ := h
  rw [hstop, Point.ofOffset_offset]
  exact hoffset.le_byteLength

/-- What is about a whole section points into it. -/
theorem pointsInto_of_isAbout {source : String} {document : Document} {v : Violation}
    {s : Section} (hs : s.Among document.sections) (hwhole : Fold.IsWhole source.toList s)
    (habout : v.IsAbout s) : PointsInto source document v := by
  obtain ⟨hsome, hholds⟩ := hwhole
  obtain ⟨hlabel, hspan⟩ := habout
  obtain ⟨hplaces, hlo, hforward, hhi⟩ := hholds.of_mem_spans hspan
  obtain ⟨heading, hheading⟩ := Option.isSome_iff_exists.1 hsome
  have hcontains : s.position.contains v.position = true := by
    simp only [Span.contains, Bool.and_eq_true, decide_eq_true_eq]
    exact ⟨hlo, hhi⟩
  refine ⟨⟨s, heading, hs, hheading, ?_, hcontains⟩, hforward, stop_le_byteLength hplaces, ?_⟩
  · rw [hlabel, Section.label?, hheading, Option.map_some]
  · exact fun hsize => Range.ofSpan_forward hsize hplaces hforward

/-- Violations of an outline of nodes that are in order and begin at characters point into
    its sections. -/
theorem pointsInto_of_mem_found {source : String} {nodes : List Markdown.Node}
    (horder : InOrder (nodes.map Markdown.Node.ends))
    (hbegin : ∀ node ∈ nodes, Text.Boundary source.toList node.range.start)
    {checker : Checker} {table : List (String × Rule)} {found : List Violation}
    (hfound : (checkDocument checker table (Fold.document source
      (Markdown.Node.blocks source.toList none nodes))).result = .ok found)
    {v : Violation} (hv : v ∈ found) :
    PointsInto source (Fold.document source (Markdown.Node.blocks source.toList none nodes)) v := by
  obtain ⟨s, hs, habout⟩ := checkDocument_yields checker table _ found hfound v hv
  have hplaces := Markdown.Node.blocks_isAt hbegin
  have hblocks := Markdown.inOrder_blocks source.toList horder
  have hwhole := Fold.isWhole_of_among_document source hblocks hplaces hs
  exact pointsInto_of_isAbout hs hwhole habout

/-- **Every violation points into the section it is about.** Whatever the template and the
    checker are, this holds of the outline of any nodes that are in order and begin at
    characters of the source, and it holds of the outline of every source. -/
theorem violations_point_into_sections :
    (∀ (source : String) (nodes : List Markdown.Node), InOrder (nodes.map Markdown.Node.ends) →
      (∀ node ∈ nodes, Text.Boundary source.toList node.range.start) →
      ∀ checker table found,
        (checkDocument checker table (Fold.document source
          (Markdown.Node.blocks source.toList none nodes))).result = .ok found →
        ∀ v ∈ found, PointsInto source
          (Fold.document source (Markdown.Node.blocks source.toList none nodes)) v) ∧
    ∀ (source : String) checker table found,
      (checkDocument checker table (Markdown.outline source)).result = .ok found →
      ∀ v ∈ found, PointsInto source (Markdown.outline source) v := by
  refine ⟨fun source nodes horder hbegin checker table found hfound v hv => ?_,
    fun source checker table found hfound v hv => ?_⟩
  · exact pointsInto_of_mem_found horder hbegin hfound hv
  · -- The nodes of a source are such nodes.
    have horder := (Markdown.nodes_within source.toList).inOrder
    have hbegin := Markdown.nodes_begin source.toList
    exact pointsInto_of_mem_found horder hbegin hfound hv

/-- Two violations of one document, at a heading and at the section below it: the nodes are
    given in one case and read from the source in the other. -/
theorem title_and_steps_are_located :
    let source := "# Guide\n\nCafé.\n\n## Steps\n"
    let nodes : List Markdown.Node :=
      [.heading .marked 1 ⟨2, 8⟩ ⟨0, 8⟩, .blank ⟨8, 9⟩, .paragraph ⟨9, 16⟩, .blank ⟨16, 17⟩,
        .heading .marked 2 ⟨20, 26⟩ ⟨17, 26⟩]
    let steps : Rule := { codeBlocks := some ⟨some 1, none⟩ }
    let guide : Rule :=
      { heading := some { constant := some "Manual" }, sections := some [("steps", steps)] }
    let found : List Violation :=
      [(Finding.title "Manual" "Guide").toViolation (some "Guide") ⟨⟨1, 1, 0⟩, ⟨1, 8, 7⟩⟩,
        (Finding.tooFew .codeBlocks 1 0).toViolation (some "Steps") ⟨⟨5, 1, 17⟩, ⟨5, 9, 25⟩⟩]
    (checkDocument .skip [("guide", guide)] (Markdown.outline source)).result = .ok found ∧
      (∀ v ∈ found, PointsInto source (Markdown.outline source) v) ∧
      ∀ v ∈ found, PointsInto source
        (Fold.document source (Markdown.Node.blocks source.toList none nodes)) v := by
  intro source nodes steps guide found
  have hread : (checkDocument .skip [("guide", guide)] (Markdown.outline source)).result
      = .ok found := by
    decide +kernel
  have hgiven : (checkDocument .skip [("guide", guide)] (Fold.document source
      (Markdown.Node.blocks source.toList none nodes))).result = .ok found := by
    decide +kernel
  have horder : InOrder (nodes.map Markdown.Node.ends) := by
    simp [InOrder, nodes, Markdown.Node.ends, Markdown.Stretch.ends, Markdown.Node.range]
  have hbegin : ∀ node ∈ nodes, Text.Boundary source.toList node.range.start := by
    intro node hnode
    simp only [nodes, List.mem_cons, List.not_mem_nil, or_false] at hnode
    rcases hnode with rfl | rfl | rfl | rfl | rfl
    · exact ⟨_, List.take_prefix 0 _, rfl⟩
    · exact ⟨_, List.take_prefix 8 _, by decide +kernel⟩
    · exact ⟨_, List.take_prefix 9 _, by decide +kernel⟩
    · exact ⟨_, List.take_prefix 15 _, by decide +kernel⟩
    · exact ⟨_, List.take_prefix 16 _, by decide +kernel⟩
  exact ⟨hread, violations_point_into_sections.2 source .skip _ found hread,
    violations_point_into_sections.1 source nodes horder hbegin .skip _ found hgiven⟩

end Rubric.Editor
