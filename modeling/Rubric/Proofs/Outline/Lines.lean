/-
  Rubric.Proofs.Outline.Lines

  Which lines the sections of an outline take.

  The fold compares offsets only: the span of a section grows from point to point,
  and the lines of these points go along. So a section ends on the line of the block
  with the greatest offset. If blocks stand on lines of their own, in the order of
  their offsets, this is the last block in the scope of the heading, and the sections
  divide up the lines as they divide up the blocks.
-/
import Rubric.Proofs.Outline.Extent

namespace Rubric

/-- The lines of a span as a range: from the first to before the one after the last. -/
def Span.lines (span : Span) : Nat × Nat :=
  (span.start.line, span.stop.line + 1)

/-- The lines of a block as a range. -/
def Block.lines (b : Block) : Nat × Nat :=
  b.position.lines

/-- The lines of a section as a range. -/
def Section.lines (s : Section) : Nat × Nat :=
  s.position.lines

/-- No block ends before it starts, the stretches of text that the blocks take follow one
    another, and so do their lines. Each stretch also ends after the one before: an empty
    block right at the end of another one would be on a later line of the same offset. No
    text has such a block, and the fold, which looks for the greatest offset, would end the
    section on the line before it. -/
structure OnOwnLines (blocks : List Block) : Prop where
  forward : ∀ b ∈ blocks, b.position.start.offset ≤ b.position.stop.offset ∧
    b.position.start.line ≤ b.position.stop.line
  disjoint : blocks.IsChain fun a b => a.position.stop.offset ≤ b.position.start.offset
  increasing : blocks.IsChain fun a b => a.position.stop.offset < b.position.stop.offset
  apart : blocks.IsChain fun a b => a.position.stop.line < b.position.start.line

/-- The section starts on the first line of its heading. The sections below it stand between
    the last line of the heading and that of the section, one after another, and each of them
    is laid out like this itself. -/
inductive Section.LaidOut : Section → Prop
  | intro {s : Section} {h : Heading} : s.heading = some h →
      s.position.start.line = h.position.start.line →
      h.position.start.line ≤ h.position.stop.line →
      Within (h.position.stop.line + 1) (s.position.stop.line + 1)
        (s.sections.map Section.lines) →
      (∀ child ∈ s.sections, child.LaidOut) → s.LaidOut

/-! ## Blocks on lines of their own -/

/-- What `OnOwnLines` says, for blocks on lines between two bounds and so that it is handed
    down to some of the blocks. -/
structure Spread (lo hi : Nat) (blocks : List Block) : Prop where
  ends : InOrder (blocks.map Block.ends)
  stops : (blocks.map fun b => b.position.stop.offset).Pairwise (· < ·)
  lines : Within lo hi (blocks.map Block.lines)
  forward : ∀ b ∈ blocks, b.position.start.line ≤ b.position.stop.line

/-- Where an offset is on one line alone, as it is in a text, blocks on later and later lines
    end after one another. -/
theorem OnOwnLines.of_agree {blocks : List Block}
    (hforward : ∀ b ∈ blocks, b.position.start.offset ≤ b.position.stop.offset ∧
      b.position.start.line ≤ b.position.stop.line)
    (hdisjoint : blocks.IsChain fun a b => a.position.stop.offset ≤ b.position.start.offset)
    (hapart : blocks.IsChain fun a b => a.position.stop.line < b.position.start.line)
    (hagree : ∀ a ∈ blocks, ∀ b ∈ blocks, a.position.stop.offset = b.position.start.offset →
      a.position.stop.line = b.position.start.line) : OnOwnLines blocks := by
  refine ⟨hforward, hdisjoint, ?_, hapart⟩
  rw [List.isChain_iff_getElem] at hdisjoint hapart ⊢
  intro i hi
  have hnext := (hforward blocks[i + 1] (List.getElem_mem _)).1
  have hline := hapart i hi
  have hoffset := hagree blocks[i] (List.getElem_mem _) blocks[i + 1] (List.getElem_mem _)
  have hstop := hdisjoint i hi
  omega

theorem OnOwnLines.spread {blocks : List Block} (h : OnOwnLines blocks) :
    Spread 0 (lastEnd 0 (blocks.map Block.lines)) blocks := by
  refine ⟨⟨?_, ?_⟩, ?_, InOrder.within ⟨?_, ?_⟩, fun b hb => (h.forward b hb).2⟩
  · rw [List.forall_mem_map]
    exact fun b hb => (h.forward b hb).1
  · rw [List.isChain_map]
    exact h.disjoint
  · rw [← List.isChain_iff_pairwise, List.isChain_map]
    exact h.increasing
  · rw [List.forall_mem_map]
    exact fun b hb => Nat.le_succ_of_le (h.forward b hb).2
  · rw [List.isChain_map]
    exact h.apart

theorem Spread.sublist {lo hi lo' hi' : Nat} {blocks fewer : List Block}
    (h : Spread lo hi blocks) (hsub : fewer.Sublist blocks)
    (hlines : Within lo' hi' (fewer.map Block.lines)) : Spread lo' hi' fewer where
  ends := (h.ends.within.sublist (hsub.map _)).inOrder
  stops := h.stops.sublist (hsub.map _)
  lines := hlines
  forward := fun b hb => h.forward b (hsub.subset hb)

theorem Spread.fromHeading {lo hi : Nat} {blocks : List Block} (h : Spread lo hi blocks) :
    Spread lo hi (Fold.fromHeading blocks) :=
  have hsub := List.dropWhile_sublist _
  h.sublist hsub (h.lines.sublist (hsub.map _))

/-- Where ends come one after another, the point with the last offset has the last line. -/
theorem line_eq_lastEnd {first stop : Point} {blocks : List Block}
    (hmem : stop ∈ first :: blocks.map fun b => b.position.stop)
    (hstops : (first.offset :: blocks.map fun b => b.position.stop.offset).Pairwise (· < ·))
    (hoffset : stop.offset = lastEnd first.offset (blocks.map Block.ends)) :
    stop.line + 1 = lastEnd (first.line + 1) (blocks.map Block.lines) := by
  induction blocks generalizing first with
  | nil =>
    obtain rfl := List.mem_singleton.1 hmem
    rfl
  | cons b rest ih =>
    rw [List.map_cons, lastEnd_cons] at hoffset ⊢
    rw [List.map_cons, List.pairwise_cons] at hstops
    obtain ⟨hfirst, hstops⟩ := hstops
    rcases List.mem_cons.1 hmem with rfl | hmem
    · -- The last end comes after the first point, which is then not the one with its offset.
      have hlast : stop.offset < lastEnd b.ends.2 (rest.map Block.ends) := by
        refine lastEnd_induction (hfirst _ List.mem_cons_self) ?_
        rw [List.forall_mem_map]
        exact fun c hc => hfirst _ (List.mem_cons_of_mem _ (List.mem_map_of_mem hc))
      exact absurd hoffset hlast.ne
    · exact ih hmem hstops hoffset

namespace Fold

/-! ## Where a section stops -/

theorem cover_stop_mem (span other : Span) {stops : List Point} (hspan : span.stop ∈ stops)
    (hother : other.stop ∈ stops) : (span.cover other).stop ∈ stops := by
  unfold Span.cover
  dsimp only
  split
  · exact hother
  · exact hspan

theorem foldl_addBlock_stop_mem (s : Section) (blocks : List Block) :
    (blocks.foldl addBlock s).position.stop
      ∈ s.position.stop :: blocks.map fun b => b.position.stop := by
  induction blocks generalizing s with
  | nil => exact List.mem_cons_self
  | cons b rest ih =>
    have hgrown : (addBlock s b).position.stop
        ∈ [s.position.stop, b.position.stop] := by
      rw [addBlock_position]
      exact cover_stop_mem _ _ (by simp) (by simp)
    have hrest := ih (addBlock s b)
    simp only [List.foldl_cons, List.map_cons, List.mem_cons, List.not_mem_nil, or_false]
      at hgrown hrest ⊢
    rcases hrest with hsame | hlater
    · rw [hsame]
      tauto
    · exact Or.inr (Or.inr hlater)

theorem settle_stop_mem (source : List Char) (s : Section) :
    (settle source s).position.stop
      ∈ s.position.stop :: s.sections.map fun child => child.position.stop := by
  rw [settle_position]
  cases hlast : s.sections.getLast? with
  | none => exact List.mem_cons_self
  | some child =>
    refine cover_stop_mem _ _ List.mem_cons_self (List.mem_cons_of_mem _ ?_)
    exact List.mem_map_of_mem (List.mem_of_getLast? hlast)

/-- A section stops where its heading or a block in the scope of the heading stops, if the
    sections below it stop where blocks in the scope do. -/
theorem assemble_stop_mem (source : List Char) (seen : List String) (h : Heading)
    {blocks : List Block} {children : List Section}
    (hchildren : ∀ s ∈ children, s.position.stop ∈ blocks.map fun b => b.position.stop) :
    (assemble source seen h (own blocks) children).position.stop
      ∈ h.position.stop :: blocks.map fun b => b.position.stop := by
  have hown : (own blocks).map (fun b => b.position.stop)
      ⊆ blocks.map fun b => b.position.stop :=
    List.map_subset _ (List.takeWhile_sublist _).subset
  have hsettled := settle_stop_mem source
    { (own blocks).foldl addBlock (opened seen h) with sections := children }
  rcases List.mem_cons.1 hsettled with hsame | hbelow
  · have hgrown := foldl_addBlock_stop_mem (opened seen h) (own blocks)
    rw [assemble, hsame]
    exact List.cons_subset_cons _ hown hgrown
  · obtain ⟨child, hchild, hstop⟩ := List.mem_map.1 hbelow
    exact List.mem_cons_of_mem _ (hstop ▸ hchildren child hchild)

theorem stop_mem_of_mem_sectionsOf {source : List Char} {seen : List String}
    {blocks : List Block} :
    ∀ s ∈ sectionsOf source seen blocks,
      s.position.stop ∈ blocks.map fun b => b.position.stop := by
  induction blocks using scopeInduction generalizing seen with
  | nil => simp
  | block b rest hb ih =>
    rw [sectionsOf_cons_of_heading?_eq_none hb]
    exact fun s hs => List.mem_cons_of_mem _ (ih s hs)
  | heading h rest ihscope ihbeyond =>
    have hscope := List.map_subset (fun b : Block => b.position.stop)
      (List.takeWhile_sublist (fun b => !closes h.level b) (l := rest)).subset
    have hbeyond := List.map_subset (fun b : Block => b.position.stop)
      (List.dropWhile_sublist (fun b => !closes h.level b) (l := rest)).subset
    rw [sectionsOf_cons_heading, List.forall_mem_cons]
    constructor
    · exact List.cons_subset_cons _ hscope (assemble_stop_mem source seen h ihscope)
    · exact fun s hs => List.mem_cons_of_mem _ (hbeyond (ihbeyond s hs))

/-! ## The lines of sections -/

section
variable {lo hi : Nat} {h : Heading} {rest : List Block}
  (hall : Spread lo hi (.heading h :: rest))
include hall

/-- The section of a heading ends on the last line of the heading's scope. -/
theorem sectionAt_lines (source : List Char) (seen : List String) :
    (sectionAt source seen h rest).lines
      = (h.position.start.line,
          lastEnd (h.position.stop.line + 1) ((scope h.level rest).map Block.lines)) := by
  obtain ⟨-, hh, hrest⟩ := within_cons.1 hall.ends.within
  obtain ⟨hstart, hstop⟩ := sectionAt_extent source seen hh hrest
  have hmem : (sectionAt source seen h rest).position.stop
      ∈ h.position.stop :: (scope h.level rest).map fun b => b.position.stop :=
    assemble_stop_mem source seen h stop_mem_of_mem_sectionsOf
  have hstops := hall.stops.sublist
    (((List.takeWhile_sublist fun b => !closes h.level b).cons_cons (Block.heading h)).map _)
  rw [Section.lines, Span.lines, hstart, line_eq_lastEnd hmem hstops hstop]

/-- The lines of a heading, of its scope and of what lies beyond it follow one another. -/
theorem spread_cons_heading :
    lo ≤ h.position.start.line ∧ h.position.start.line ≤ h.position.stop.line ∧
      Spread (h.position.stop.line + 1)
        (lastEnd (h.position.stop.line + 1) ((scope h.level rest).map Block.lines))
        (scope h.level rest) ∧
      Spread (lastEnd (h.position.stop.line + 1) ((scope h.level rest).map Block.lines)) hi
        (beyond h.level rest) := by
  obtain ⟨hlo, -, hrest⟩ := within_cons.1 hall.lines
  rw [← scope_append_beyond h.level rest, List.map_append] at hrest
  refine ⟨hlo, hall.forward _ List.mem_cons_self, ?_, ?_⟩
  · exact hall.sublist ((List.takeWhile_sublist _).cons _) hrest.append_left.to_lastEnd
  · exact hall.sublist ((List.dropWhile_sublist _).cons _) hrest.append_right

end

/-- Sections of blocks on lines of their own stand on lines one after another, and each is
    laid out with its heading first. -/
theorem sectionsOf_lines (source : List Char) (seen : List String) {lo hi : Nat}
    {blocks : List Block} (hblocks : Spread lo hi (fromHeading blocks)) :
    Within lo hi ((sectionsOf source seen blocks).map Section.lines) ∧
      ∀ s ∈ sectionsOf source seen blocks, s.LaidOut := by
  induction blocks using scopeInduction generalizing seen lo hi with
  | nil =>
    rw [sectionsOf_nil]
    exact ⟨hblocks.lines, List.forall_mem_nil _⟩
  | block b rest hb ih =>
    rw [fromHeading_cons_of_heading?_eq_none hb] at hblocks
    rw [sectionsOf_cons_of_heading?_eq_none hb]
    exact ih seen hblocks
  | heading h rest ihscope ihbeyond =>
    rw [fromHeading_cons_heading] at hblocks
    obtain ⟨hlo, hh, hscope, hbeyond⟩ := spread_cons_heading hblocks
    have hlines := sectionAt_lines hblocks source seen
    -- The blocks of the section's own take lines as well, so that the sections below it
    -- start no earlier than these end.
    obtain ⟨hbelow, hchildren⟩ := ihscope (see seen (.heading h)) hscope.fromHeading
    rw [← fromHeading_beyond] at hbeyond
    obtain ⟨hafter, hothers⟩ :=
      ihbeyond ((scope h.level rest).foldl see (see seen (.heading h))) hbeyond
    have hstop : (sectionAt source seen h rest).position.stop.line + 1 = _ :=
      congrArg Prod.snd hlines
    rw [sectionsOf_cons_heading, ← sectionAt, List.map_cons, hlines, List.forall_mem_cons]
    refine ⟨⟨hlo, ?_, hafter⟩, ?_, hothers⟩
    · exact (Nat.le_succ_of_le hh).trans hscope.lines.le
    · refine .intro (sectionAt_heading source seen h rest) (congrArg Prod.fst hlines) hh ?_ ?_
      · rwa [sectionAt_sections, hstop]
      · rwa [sectionAt_sections]

/-- **The sections of an outline divide up the lines**, at every level. -/
theorem document_lines (source : String) {blocks : List Block} (hblocks : OnOwnLines blocks) :
    Within 0 (lastEnd 0 (blocks.map Block.lines))
        ((document source blocks).sections.map Section.lines) ∧
      ∀ s ∈ (document source blocks).sections, s.LaidOut := by
  rw [document_sections]
  exact sectionsOf_lines source.toList [] hblocks.spread.fromHeading

end Fold

end Rubric
