/-
  Rubric.Proofs.Outline.Sized

  How large the numbers of an outline get, and how deep its sections nest.

  Spans of sections and runs are put together from spans of blocks, so an outline of
  blocks whose numbers fit is sized itself. A section below another one has a heading
  of a greater level, so that there are no more levels of sections than there are
  levels of headings.
-/
import Rubric.Proofs.Outline.Carried
import Rubric.Proofs.Outline.ReadingOrder

namespace Rubric

/-- The numbers of a block fit: the coordinates, and the level of a heading. -/
def Block.IsSized : Block → Prop
  | .heading h => h.IsSized
  | .paragraph p => p.position.IsSized
  | .codeBlock c => c.position.IsSized
  | .list l => l.IsSized
  | .other span => span.IsSized

theorem Block.IsSized.position {block : Block} (h : block.IsSized) :
    block.position.IsSized := by
  cases block with
  | heading heading => exact Heading.IsSized.position h
  | list l => exact Listing.IsSized.position h
  | _ => exact h

/-- Each end of a cover is an end of one of the two spans. -/
theorem Span.IsSized.cover {span other : Span} (h : span.IsSized) (hother : other.IsSized) :
    (span.cover other).IsSized := by
  unfold Span.cover
  constructor
  · dsimp only
    split
    · exact hother.start
    · exact h.start
  · dsimp only
    split
    · exact hother.stop
    · exact h.stop

theorem Section.IsSized.position {s : Section} (h : s.IsSized) : s.position.IsSized := by
  obtain ⟨-, -, -, -, -, hposition, -⟩ := h
  exact hposition

namespace Fold

/-! ## Runs -/

theorem isSized_paragraphRun {p : Paragraph} (hp : p.position.IsSized) :
    ContentRun.IsSized { position := p.position, paragraphs := some [p] } :=
  { position := hp
    paragraphs := by simpa using hp
    codeBlocks := nofun
    lists := nofun }

theorem isSized_codeBlockRun {c : CodeBlock} (hc : c.position.IsSized) :
    ContentRun.IsSized { position := c.position, codeBlocks := some [c] } :=
  { position := hc
    paragraphs := nofun
    codeBlocks := by simpa using hc
    lists := nofun }

theorem isSized_listingRun {l : Listing} (hl : l.IsSized) :
    ContentRun.IsSized { position := l.position, lists := some [l] } :=
  { position := hl.position
    paragraphs := nofun
    codeBlocks := nofun
    lists := by simpa using hl }

section
variable {run : ContentRun} (hrun : run.IsSized)
include hrun

theorem growParagraph_isSized {p : Paragraph} (hp : p.position.IsSized) :
    ∀ r ∈ growParagraph p run, r.IsSized := by
  have ⟨hposition, hparagraphs, hcodeBlocks, hlists⟩ := hrun
  unfold growParagraph
  split
  next ps hps =>
    have hgrown : ∀ q ∈ ps ++ [p], q.position.IsSized :=
      List.forall_mem_append.2 ⟨hparagraphs ps hps, List.forall_mem_singleton.2 hp⟩
    refine List.forall_mem_singleton.2 ⟨hposition.cover hp, ?_, hcodeBlocks, hlists⟩
    rintro _ ⟨⟩
    exact hgrown
  next =>
    exact List.forall_mem_cons.2 ⟨hrun, List.forall_mem_singleton.2 (isSized_paragraphRun hp)⟩

theorem growCodeBlock_isSized {c : CodeBlock} (hc : c.position.IsSized) :
    ∀ r ∈ growCodeBlock c run, r.IsSized := by
  have ⟨hposition, hparagraphs, hcodeBlocks, hlists⟩ := hrun
  unfold growCodeBlock
  split
  next cs hcs =>
    have hgrown : ∀ d ∈ cs ++ [c], d.position.IsSized :=
      List.forall_mem_append.2 ⟨hcodeBlocks cs hcs, List.forall_mem_singleton.2 hc⟩
    refine List.forall_mem_singleton.2 ⟨hposition.cover hc, hparagraphs, ?_, hlists⟩
    rintro _ ⟨⟩
    exact hgrown
  next =>
    exact List.forall_mem_cons.2 ⟨hrun, List.forall_mem_singleton.2 (isSized_codeBlockRun hc)⟩

theorem growListing_isSized {l : Listing} (hl : l.IsSized) :
    ∀ r ∈ growListing l run, r.IsSized := by
  have ⟨hposition, hparagraphs, hcodeBlocks, hlists⟩ := hrun
  unfold growListing
  split
  next ls hls =>
    have hgrown : ∀ m ∈ ls ++ [l], m.IsSized :=
      List.forall_mem_append.2 ⟨hlists ls hls, List.forall_mem_singleton.2 hl⟩
    refine List.forall_mem_singleton.2
      ⟨hposition.cover hl.position, hparagraphs, hcodeBlocks, ?_⟩
    rintro _ ⟨⟩
    exact hgrown
  next =>
    exact List.forall_mem_cons.2 ⟨hrun, List.forall_mem_singleton.2 (isSized_listingRun hl)⟩

end

/-! ## Sections -/

theorem addBlock_isSized {s : Section} {block : Block} (hs : s.IsSized) (hblock : block.IsSized) :
    (addBlock s block).IsSized := by
  obtain ⟨hheading, hparagraphs, hcodeBlocks, hlists, hcontent, hposition, hsections⟩ := hs
  have hcover : (s.position.cover block.position).IsSized := hposition.cover hblock.position
  cases block with
  | heading h => exact ⟨hheading, hparagraphs, hcodeBlocks, hlists, hcontent, hcover, hsections⟩
  | other span => exact ⟨hheading, hparagraphs, hcodeBlocks, hlists, hcontent, hcover, hsections⟩
  | paragraph p =>
    have hruns : ∀ r ∈ addParagraph p s.content, r.IsSized := by
      rw [addParagraph_eq]
      exact forall_mem_extendLast (isSized_paragraphRun hblock)
        (fun run hrun => growParagraph_isSized hrun hblock) hcontent
    have hgrown : ∀ q ∈ s.paragraphs ++ [p], q.position.IsSized :=
      List.forall_mem_append.2 ⟨hparagraphs, List.forall_mem_singleton.2 hblock⟩
    exact ⟨hheading, hgrown, hcodeBlocks, hlists, hruns, hcover, hsections⟩
  | codeBlock c =>
    have hruns : ∀ r ∈ addCodeBlock c s.content, r.IsSized := by
      rw [addCodeBlock_eq]
      exact forall_mem_extendLast (isSized_codeBlockRun hblock)
        (fun run hrun => growCodeBlock_isSized hrun hblock) hcontent
    have hgrown : ∀ d ∈ s.codeBlocks ++ [c], d.position.IsSized :=
      List.forall_mem_append.2 ⟨hcodeBlocks, List.forall_mem_singleton.2 hblock⟩
    exact ⟨hheading, hparagraphs, hgrown, hlists, hruns, hcover, hsections⟩
  | list l =>
    have hruns : ∀ r ∈ addListing l s.content, r.IsSized := by
      rw [addListing_eq]
      exact forall_mem_extendLast (isSized_listingRun hblock)
        (fun run hrun => growListing_isSized hrun hblock) hcontent
    have hgrown : ∀ m ∈ s.lists ++ [l], m.IsSized :=
      List.forall_mem_append.2 ⟨hlists, List.forall_mem_singleton.2 hblock⟩
    exact ⟨hheading, hparagraphs, hcodeBlocks, hgrown, hruns, hcover, hsections⟩

theorem foldl_addBlock_isSized {s : Section} {blocks : List Block} (hs : s.IsSized)
    (hblocks : ∀ b ∈ blocks, b.IsSized) : (blocks.foldl addBlock s).IsSized := by
  induction blocks generalizing s with
  | nil => exact hs
  | cons b rest ih =>
    rw [List.forall_mem_cons] at hblocks
    exact ih (addBlock_isSized hs hblocks.1) hblocks.2

/-- Settling carries the end of a section to the end of one below it. -/
theorem settle_isSized (source : List Char) {s : Section} (hs : s.IsSized) :
    (settle source s).IsSized := by
  obtain ⟨hheading, hparagraphs, hcodeBlocks, hlists, hcontent, hposition, hsections⟩ := hs
  unfold settle
  split
  next child hlast =>
    have hchild : child.position.IsSized := (hsections child (List.mem_of_getLast? hlast)).position
    exact ⟨hheading, hparagraphs, hcodeBlocks, hlists, hcontent, hposition.cover hchild,
      hsections⟩
  next => exact ⟨hheading, hparagraphs, hcodeBlocks, hlists, hcontent, hposition, hsections⟩

theorem assemble_isSized (source : List Char) (seen : List String) {h : Heading}
    {blocks : List Block} {children : List Section} (hh : h.IsSized)
    (hblocks : ∀ b ∈ blocks, b.IsSized) (hchildren : ∀ child ∈ children, child.IsSized) :
    (assemble source seen h blocks children).IsSized := by
  have hheading : ∀ g ∈ (opened seen h).heading, g.IsSized := by
    rintro _ ⟨⟩
    exact hh
  have hopened : (opened seen h).IsSized :=
    .intro hheading nofun nofun nofun nofun hh.position nofun
  obtain ⟨hheading, hparagraphs, hcodeBlocks, hlists, hcontent, hposition, -⟩ :=
    foldl_addBlock_isSized hopened hblocks
  exact settle_isSized source
    ⟨hheading, hparagraphs, hcodeBlocks, hlists, hcontent, hposition, hchildren⟩

/-! ## Outlines -/

theorem sectionsOf_isSized (source : List Char) (seen : List String) {blocks : List Block}
    (hblocks : ∀ b ∈ blocks, b.IsSized) : ∀ s ∈ sectionsOf source seen blocks, s.IsSized := by
  induction blocks using scopeInduction generalizing seen with
  | nil => simp
  | block b rest hb ih =>
    rw [List.forall_mem_cons] at hblocks
    rw [sectionsOf_cons_of_heading?_eq_none hb]
    exact ih seen hblocks.2
  | heading h rest ihscope ihbeyond =>
    rw [List.forall_mem_cons] at hblocks
    have hscope : ∀ b ∈ scope h.level rest, b.IsSized :=
      fun b hb => hblocks.2 b ((List.takeWhile_prefix _).subset hb)
    have hown : ∀ b ∈ own (scope h.level rest), b.IsSized :=
      fun b hb => hscope b ((List.takeWhile_prefix _).subset hb)
    have hbeyond : ∀ b ∈ beyond h.level rest, b.IsSized :=
      fun b hb => hblocks.2 b ((List.dropWhile_suffix _).subset hb)
    rw [sectionsOf_cons_heading, List.forall_mem_cons]
    constructor
    · exact assemble_isSized source seen hblocks.1 hown (ihscope _ hscope)
    · exact ihbeyond _ hbeyond

/-- The outline of sized blocks is sized. -/
theorem document_isSized (source : String) {blocks : List Block}
    (hblocks : ∀ b ∈ blocks, b.IsSized) : (document source blocks).IsSized := by
  unfold Document.IsSized
  rw [document_sections]
  exact sectionsOf_isSized source.toList [] hblocks

/-- Every level of sections takes up a level of headings. -/
theorem levelsOf_sectionsOf_le (source : List Char) (seen : List String) {blocks : List Block}
    {lo hi : Nat} (hlevels : ∀ h ∈ headingsOf blocks, lo < h.level ∧ h.level ≤ hi) :
    levelsOf (sectionsOf source seen blocks) ≤ hi - lo := by
  induction blocks using scopeInduction generalizing seen lo with
  | nil =>
    rw [sectionsOf_nil]
    exact Nat.zero_le _
  | block b rest hb ih =>
    rw [headingsOf_cons_of_heading?_eq_none hb] at hlevels
    rw [sectionsOf_cons_of_heading?_eq_none hb]
    exact ih seen hlevels
  | heading h rest ihscope ihbeyond =>
    rw [headingsOf_cons_heading, List.forall_mem_cons,
      headingsOf_scope_append_beyond h.level rest, List.forall_mem_append] at hlevels
    obtain ⟨⟨hlo, hhi⟩, hscope, hbeyond⟩ := hlevels
    -- The headings in the scope are deeper than `h`, which takes up a level of its own.
    have hbelow : levelsOf (sectionsOf source (see seen (.heading h)) (scope h.level rest))
        ≤ hi - h.level :=
      ihscope _ fun g hg => ⟨lt_level_of_mem_scope hg, (hscope g hg).2⟩
    rw [sectionsOf_cons_heading, levelsOf_cons_le_iff, assemble_sections]
    constructor
    · omega
    · exact ihbeyond _ hbeyond

/-- **An outline has no more levels than its headings.** -/
theorem levelsOf_document_le (source : String) {blocks : List Block} {n : Nat}
    (hlevels : ∀ h ∈ headingsOf blocks, 0 < h.level ∧ h.level ≤ n) :
    levelsOf (document source blocks).sections ≤ n := by
  have hsections := levelsOf_sectionsOf_le source.toList [] hlevels
  rwa [Nat.sub_zero, ← document_sections] at hsections

end Fold

end Rubric
