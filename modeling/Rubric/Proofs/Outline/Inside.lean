/-
  Rubric.Proofs.Outline.Inside

  What a section says about itself lies inside of it.

  A section of ordered blocks reaches over its heading, its paragraphs and its
  content runs. All these spans are put together from the spans of blocks: where
  the blocks start and end at characters of the source, so do they.
-/
import Rubric.Proofs.Conformance.Located
import Rubric.Proofs.Markdown.Trimmed

namespace Rubric

/-! ## Spans between two offsets -/

/-- The span runs forward between two offsets, and its ends are places of the source. -/
structure Span.Inside (source : List Char) (lo hi : Nat) (span : Span) : Prop where
  isAt : span.IsAt source
  lo_le : lo ≤ span.start.offset
  forward : span.start.offset ≤ span.stop.offset
  le_hi : span.stop.offset ≤ hi

section
variable {source : List Char} {lo hi : Nat} {span other : Span}

theorem Span.Inside.mono (h : span.Inside source lo hi) {lo' hi' : Nat} (hlo : lo' ≤ lo)
    (hhi : hi ≤ hi') : span.Inside source lo' hi' :=
  ⟨h.isAt, hlo.trans h.lo_le, h.forward, h.le_hi.trans hhi⟩

theorem Span.Inside.cover (h : span.Inside source lo hi) (hother : other.Inside source lo hi) :
    (span.cover other).Inside source lo hi := by
  have hends : (span.cover other).IsAt source := by
    -- Each end of the cover is an end of one of the two.
    unfold Span.cover Span.IsAt
    dsimp only
    constructor
    · split
      · exact hother.isAt.1
      · exact h.isAt.1
    · split
      · exact hother.isAt.2
      · exact h.isAt.2
  obtain ⟨-, hlo, hforward, hhi⟩ := h
  obtain ⟨-, hlo', hforward', hhi'⟩ := hother
  refine ⟨hends, ?_, ?_, ?_⟩
  · rw [Span.cover_start_offset]
    omega
  · rw [Span.cover_start_offset, Span.cover_stop_offset]
    omega
  · rw [Span.cover_stop_offset]
    omega

end

/-- The section, its heading, its paragraphs and its runs lie between two offsets. -/
structure Section.Holds (source : List Char) (lo hi : Nat) (s : Section) : Prop where
  position : s.position.Inside source lo hi
  heading : ∀ h, s.heading = some h → h.position.Inside source lo hi
  paragraphs : ∀ p ∈ s.paragraphs, p.position.Inside source lo hi
  runs : ∀ run ∈ s.content, ∀ span ∈ run.spans, span.Inside source lo hi

theorem Section.Holds.of_mem_spans {source : List Char} {lo hi : Nat} {s : Section}
    (h : s.Holds source lo hi) {span : Span} (hspan : span ∈ s.spans) :
    span.Inside source lo hi := by
  simp only [Section.spans, List.mem_cons, List.mem_append, List.mem_map, List.mem_flatMap,
    Option.mem_toList] at hspan
  rcases hspan with rfl | (⟨heading, hheading, rfl⟩ | ⟨p, hp, rfl⟩) | ⟨run, hrun, hmem⟩
  · exact h.position
  · exact h.heading heading hheading
  · exact h.paragraphs p hp
  · exact h.runs run hrun span hmem

namespace Fold

variable {source : List Char} {lo hi : Nat}

/-! ## Growing -/

section
variable {run : ContentRun} (hrun : ∀ span ∈ run.spans, span.Inside source lo hi)
include hrun

theorem growParagraph_inside {p : Paragraph} (hp : p.position.Inside source lo hi) :
    ∀ r ∈ growParagraph p run, ∀ span ∈ r.spans, span.Inside source lo hi := by
  unfold growParagraph
  split
  next ps hps =>
    rw [ContentRun.spans, hps, List.forall_mem_cons, List.forall_mem_map] at hrun
    obtain ⟨hposition, hparagraphs⟩ := hrun
    simp only [List.forall_mem_singleton, ContentRun.spans, List.forall_mem_cons,
      Option.getD_some, List.map_append, List.forall_mem_append, List.map_cons, List.map_nil]
    exact ⟨hposition.cover hp, List.forall_mem_map.2 hparagraphs, hp⟩
  next =>
    refine List.forall_mem_cons.2 ⟨hrun, ?_⟩
    simp only [List.forall_mem_singleton, ContentRun.spans, List.forall_mem_cons,
      Option.getD_some, List.map_cons, List.map_nil]
    exact ⟨hp, hp⟩

theorem growCodeBlock_inside {c : CodeBlock} (hc : c.position.Inside source lo hi) :
    ∀ r ∈ growCodeBlock c run, ∀ span ∈ r.spans, span.Inside source lo hi := by
  obtain ⟨hposition, hparagraphs⟩ := List.forall_mem_cons.1 hrun
  unfold growCodeBlock
  split
  · exact List.forall_mem_singleton.2
      (List.forall_mem_cons.2 ⟨hposition.cover hc, hparagraphs⟩)
  · refine List.forall_mem_cons.2 ⟨hrun, List.forall_mem_singleton.2 ?_⟩
    exact List.forall_mem_singleton.2 hc

theorem growListing_inside {l : Listing} (hl : l.position.Inside source lo hi) :
    ∀ r ∈ growListing l run, ∀ span ∈ r.spans, span.Inside source lo hi := by
  obtain ⟨hposition, hparagraphs⟩ := List.forall_mem_cons.1 hrun
  unfold growListing
  split
  · exact List.forall_mem_singleton.2
      (List.forall_mem_cons.2 ⟨hposition.cover hl, hparagraphs⟩)
  · refine List.forall_mem_cons.2 ⟨hrun, List.forall_mem_singleton.2 ?_⟩
    exact List.forall_mem_singleton.2 hl

end

/-- A block between the two offsets leaves everything between them. -/
theorem addBlock_holds {s : Section} {block : Block} (hs : s.Holds source lo hi)
    (hblock : block.position.Inside source lo hi) : (addBlock s block).Holds source lo hi := by
  have hposition : (addBlock s block).position.Inside source lo hi := by
    rw [addBlock_position]
    exact hs.position.cover hblock
  cases block with
  | heading h => exact ⟨hposition, hs.heading, hs.paragraphs, hs.runs⟩
  | other span => exact ⟨hposition, hs.heading, hs.paragraphs, hs.runs⟩
  | paragraph p =>
    have hfresh : ∀ span ∈ ContentRun.spans { position := p.position, paragraphs := some [p] },
        span.Inside source lo hi :=
      List.forall_mem_cons.2 ⟨hblock, List.forall_mem_singleton.2 hblock⟩
    refine ⟨hposition, hs.heading, ?_, ?_⟩
    · exact List.forall_mem_append.2 ⟨hs.paragraphs, List.forall_mem_singleton.2 hblock⟩
    · show ∀ run ∈ addParagraph p s.content, _
      rw [addParagraph_eq]
      exact forall_mem_extendLast hfresh (fun run hrun => growParagraph_inside hrun hblock)
        hs.runs
  | codeBlock c =>
    have hfresh : ∀ span ∈ ContentRun.spans { position := c.position, codeBlocks := some [c] },
        span.Inside source lo hi := List.forall_mem_singleton.2 hblock
    refine ⟨hposition, hs.heading, hs.paragraphs, ?_⟩
    show ∀ run ∈ addCodeBlock c s.content, _
    rw [addCodeBlock_eq]
    exact forall_mem_extendLast hfresh (fun run hrun => growCodeBlock_inside hrun hblock) hs.runs
  | list l =>
    have hfresh : ∀ span ∈ ContentRun.spans { position := l.position, lists := some [l] },
        span.Inside source lo hi := List.forall_mem_singleton.2 hblock
    refine ⟨hposition, hs.heading, hs.paragraphs, ?_⟩
    show ∀ run ∈ addListing l s.content, _
    rw [addListing_eq]
    exact forall_mem_extendLast hfresh (fun run hrun => growListing_inside hrun hblock) hs.runs

theorem foldl_addBlock_holds {s : Section} {blocks : List Block} (hs : s.Holds source lo hi)
    (hblocks : ∀ b ∈ blocks, b.position.Inside source lo hi) :
    (blocks.foldl addBlock s).Holds source lo hi := by
  induction blocks generalizing s with
  | nil => exact hs
  | cons b rest ih =>
    rw [List.forall_mem_cons] at hblocks
    exact ih (addBlock_holds hs hblocks.1) hblocks.2

/-! ## Whole sections -/

theorem settle_paragraphs (source : List Char) (s : Section) :
    (settle source s).paragraphs = s.paragraphs := by
  rw [settle_eq]

/-- Settling carries the end of a section to the end of one below it. -/
theorem settle_holds {s : Section} (hs : s.Holds source lo hi)
    (hsections : ∀ child ∈ s.sections, child.position.Inside source lo hi) :
    (settle source s).Holds source lo hi := by
  obtain ⟨hposition, hheading, hparagraphs, hruns⟩ := hs
  rw [← settle_heading source] at hheading
  rw [← settle_paragraphs source] at hparagraphs
  rw [← settle_content source] at hruns
  refine ⟨?_, hheading, hparagraphs, hruns⟩
  rw [settle_position]
  split
  next child hlast => exact hposition.cover (hsections child (List.mem_of_getLast? hlast))
  next => exact hposition

/-- A complete section lies between two offsets with all that it says about itself, if its
    heading, its own blocks and the sections below it do. -/
theorem assemble_holds (seen : List String) {h : Heading} {blocks : List Block}
    {children : List Section} (hh : h.position.Inside source lo hi)
    (hblocks : ∀ b ∈ blocks, b.position.Inside source lo hi)
    (hchildren : ∀ child ∈ children, child.position.Inside source lo hi) :
    (assemble source seen h blocks children).Holds source lo hi := by
  have hopened : (opened seen h).Holds source lo hi := by
    refine ⟨hh, ?_, by simp [opened], by simp [opened]⟩
    intro heading hheading
    obtain rfl := Option.some.inj hheading
    exact hh
  obtain ⟨hposition, hheading, hparagraphs, hruns⟩ := foldl_addBlock_holds hopened hblocks
  apply settle_holds
  · exact ⟨hposition, hheading, hparagraphs, hruns⟩
  · exact hchildren

theorem inside_of_within {blocks : List Block} (h : Within lo hi (blocks.map Block.ends))
    (hplaces : ∀ b ∈ blocks, b.position.IsAt source) :
    ∀ b ∈ blocks, b.position.Inside source lo hi := by
  intro b hb
  obtain ⟨hlo, hforward, hhi⟩ := h.of_mem (List.mem_map_of_mem hb)
  exact ⟨hplaces b hb, hlo, hforward, hhi⟩

/-- The section has a heading, and its span holds all that it says about itself. -/
def IsWhole (source : List Char) (s : Section) : Prop :=
  s.heading.isSome ∧ s.Holds source s.position.start.offset s.position.stop.offset

/-- The section of a heading holds all of its scope that it says something about. -/
theorem assemble_scope_isWhole (seen : List String) {h : Heading} {blocks : List Block}
    {children : List Section} (hplace : h.position.IsAt source)
    (hh : h.position.start.offset ≤ h.position.stop.offset)
    (hplaces : ∀ b ∈ blocks, b.position.IsAt source)
    (hblocks : Within h.position.stop.offset hi (blocks.map Block.ends))
    (hbelow : ∀ child ∈ children, child.position.IsAt source)
    (hchildren : TakePlace children blocks) :
    IsWhole source (assemble source seen h (own blocks) children) := by
  obtain ⟨hstart, hstop⟩ := assemble_scope_extent source seen hchildren hh hblocks
  have hscope := hblocks.to_lastEnd
  generalize hlast : lastEnd h.position.stop.offset (blocks.map Block.ends) = last
    at hstop hscope
  -- All of it lies between the start of the heading and the end of the scope.
  have hheading : h.position.Inside source h.position.start.offset last :=
    ⟨hplace, Nat.le_refl _, hh, hscope.le⟩
  have hown : ∀ b ∈ own blocks, b.position.Inside source h.position.start.offset last := by
    intro b hb
    have hmem : b ∈ blocks := (List.takeWhile_prefix _).subset hb
    exact (inside_of_within hscope hplaces b hmem).mono hh (Nat.le_refl _)
  have hsections : ∀ child ∈ children,
      child.position.Inside source h.position.start.offset last := by
    intro child hchild
    have hmem := List.mem_append_right ((own blocks).map Block.ends)
      (List.mem_map_of_mem (f := Section.ends) hchild)
    obtain ⟨hlo, hforward, hhi⟩ := (within_own_append hchildren hscope).of_mem hmem
    exact ⟨hbelow child hchild, hh.trans hlo, hforward, hhi⟩
  have hholds := assemble_holds seen hheading hown hsections
  refine ⟨by rw [assemble_heading]; rfl, ?_⟩
  rw [hstart, hstop]
  exact hholds

/-- Among the sections of ordered blocks every section is whole. -/
theorem isWhole_of_among_sectionsOf {seen : List String} {blocks : List Block}
    (hplaces : ∀ b ∈ blocks, b.position.IsAt source)
    (hblocks : Within lo hi ((fromHeading blocks).map Block.ends)) {s : Section}
    (hs : s.Among (sectionsOf source seen blocks)) : IsWhole source s := by
  induction blocks using scopeInduction generalizing seen lo hi s with
  | nil =>
    rw [sectionsOf_nil] at hs
    obtain hmem | ⟨hmem, -⟩ := hs
    · simp at hmem
    · simp at hmem
  | block b rest hb ih =>
    rw [fromHeading_cons_of_heading?_eq_none hb] at hblocks
    rw [sectionsOf_cons_of_heading?_eq_none hb] at hs
    exact ih (fun b hb => hplaces b (List.mem_cons_of_mem _ hb)) hblocks hs
  | heading h rest ihscope ihbeyond =>
    rw [fromHeading_cons_heading] at hblocks
    obtain ⟨-, hh, hscope, hrest⟩ := within_cons_heading hblocks
    rw [← fromHeading_beyond] at hrest
    rw [List.forall_mem_cons] at hplaces
    have hinside : ∀ b ∈ scope h.level rest, b.position.IsAt source :=
      fun b hb => hplaces.2 b ((List.takeWhile_prefix _).subset hb)
    have hafter : ∀ b ∈ beyond h.level rest, b.position.IsAt source :=
      fun b hb => hplaces.2 b ((List.dropWhile_suffix _).subset hb)
    have hchildren : ∀ s, s.Among (sectionsOf source (see seen (.heading h))
        (scope h.level rest)) → IsWhole source s :=
      fun s hs => ihscope hinside (within_fromHeading hscope) hs
    have hwhole := assemble_scope_isWhole seen hplaces.1 hh hinside hscope
      (fun child hchild => (hchildren child (.top hchild)).2.position.isAt)
      (sectionsOf_takePlace source (see seen (.heading h)) _)
    rw [sectionsOf_cons_heading] at hs
    -- The section is the one of `h`, or below it, or beyond it.
    obtain hmem | ⟨hmem, hbelow⟩ := hs
    · rcases List.mem_cons.1 hmem with rfl | hmem
      · exact hwhole
      · exact ihbeyond hafter hrest (.top hmem)
    · rcases List.mem_cons.1 hmem with rfl | hmem
      · rw [assemble_sections] at hbelow
        exact hchildren s hbelow
      · exact ihbeyond hafter hrest (.nested hmem hbelow)

/-- **In an outline of ordered blocks every section is whole.** -/
theorem isWhole_of_among_document (source : String) {blocks : List Block}
    (hblocks : InOrder (blocks.map Block.ends))
    (hplaces : ∀ b ∈ blocks, b.position.IsAt source.toList) {s : Section}
    (hs : s.Among (document source blocks).sections) : IsWhole source.toList s := by
  rw [document_sections] at hs
  exact isWhole_of_among_sectionsOf hplaces (within_fromHeading hblocks.within) hs

end Fold

end Rubric
