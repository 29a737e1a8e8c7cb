/-
  Rubric.Proofs.Outline.Extent

  Where the sections of an outline start and end.

  Folding blocks that are in order makes sections that are in order and nest: a
  section starts where its heading starts and ends where the last block in the
  scope of the heading ends. No section is then misplaced, and a check does not
  refuse the document.
-/
import Rubric.Outline.Misplaced
import Rubric.Proofs.Outline.Assembled
import Rubric.Proofs.Text.Range

namespace Rubric

/-- The offsets where a span starts and ends. -/
def Span.ends (span : Span) : Nat × Nat :=
  (span.start.offset, span.stop.offset)

/-- The offsets where a block starts and ends. -/
def Block.ends (b : Block) : Nat × Nat :=
  b.position.ends

/-- The offsets where a section starts and ends. -/
def Section.ends (s : Section) : Nat × Nat :=
  s.position.ends

theorem Span.cover_start_of_le {span other : Span}
    (h : span.start.offset ≤ other.start.offset) : (span.cover other).start = span.start :=
  if_neg (by omega)

/-! ## Sections in order are not misplaced -/

theorem Section.misplaced?_eq (s : Section) :
    s.misplaced? = misplacedChild? s.position none s.sections := by
  cases s
  rw [Section.misplaced?]

theorem Section.startsBefore_eq_false {s : Section} {previousEnd : Option Nat} {lo : Nat}
    (hprevious : ∀ stop ∈ previousEnd, stop ≤ lo) (hs : lo ≤ s.position.start.offset) :
    s.startsBefore previousEnd = false := by
  cases previousEnd with
  | none => rfl
  | some stop =>
    have hstop := hprevious stop rfl
    exact decide_eq_false (by omega)

/-- Children in order between the ends of their parent are not misplaced, nor is anything
    below them if that holds of each. -/
theorem misplacedChild?_eq_none {parent : Span} {previousEnd : Option Nat} {lo hi : Nat}
    {sections : List Section} (hstart : parent.start.offset ≤ lo)
    (hstop : hi ≤ parent.stop.offset) (hprevious : ∀ stop ∈ previousEnd, stop ≤ lo)
    (h : Within lo hi (sections.map Section.ends))
    (hbelow : ∀ s ∈ sections, s.misplaced? = none) :
    misplacedChild? parent previousEnd sections = none := by
  induction sections generalizing previousEnd lo with
  | nil => rw [misplacedChild?]
  | cons child rest ih =>
    rw [List.map_cons, within_cons] at h
    rw [List.forall_mem_cons] at hbelow
    obtain ⟨hlo, hchild, hrest⟩ := h
    have hinside : parent.contains child.position = true := by
      have hhi := hrest.le
      simp only [Span.contains, Section.ends, Span.ends, Bool.and_eq_true,
        decide_eq_true_eq] at *
      omega
    have hafter : parent.start.offset ≤ child.ends.2 := (hstart.trans hlo).trans hchild
    have hnext : ∀ stop ∈ some child.position.stop.offset, stop ≤ child.ends.2 :=
      fun stop hmem => Nat.le_of_eq (Option.some.inj hmem).symm
    have hrestnone := ih hafter hnext hrest hbelow.2
    rw [misplacedChild?, hinside, Section.startsBefore_eq_false hprevious hlo, hbelow.1, hrestnone]
    rfl

theorem misplacedTop?_eq_none {previousEnd : Option Nat} {lo hi : Nat}
    {sections : List Section} (hprevious : ∀ stop ∈ previousEnd, stop ≤ lo)
    (h : Within lo hi (sections.map Section.ends))
    (hbelow : ∀ s ∈ sections, s.misplaced? = none) :
    misplacedTop? previousEnd sections = none := by
  induction sections generalizing previousEnd lo with
  | nil => rw [misplacedTop?]
  | cons s rest ih =>
    rw [List.map_cons, within_cons] at h
    rw [List.forall_mem_cons] at hbelow
    obtain ⟨hlo, hs, hrest⟩ := h
    have hnext : ∀ stop ∈ some s.position.stop.offset, stop ≤ s.ends.2 :=
      fun stop hmem => Nat.le_of_eq (Option.some.inj hmem).symm
    have hrestnone := ih hnext hrest hbelow.2
    rw [misplacedTop?, Section.startsBefore_eq_false hprevious hlo, hbelow.1, hrestnone]
    rfl

namespace Fold

/-! ## Growing and settling -/

theorem addBlock_position (s : Section) (block : Block) :
    (addBlock s block).position = s.position.cover block.position := by
  cases block <;> rfl

/-- Blocks that come after a section one by one carry its end along. -/
theorem foldl_addBlock_extent {s : Section} {hi : Nat} {blocks : List Block}
    (hs : s.position.start.offset ≤ s.position.stop.offset)
    (h : Within s.position.stop.offset hi (blocks.map Block.ends)) :
    (blocks.foldl addBlock s).position.start = s.position.start ∧
      (blocks.foldl addBlock s).position.stop.offset
        = lastEnd s.position.stop.offset (blocks.map Block.ends) := by
  induction blocks generalizing s with
  | nil => exact ⟨rfl, rfl⟩
  | cons b rest ih =>
    rw [List.map_cons, within_cons] at h
    obtain ⟨hlo, hb, hrest⟩ := h
    simp only [Block.ends, Span.ends] at hlo hb
    have hafter : s.position.start.offset ≤ b.position.start.offset := by omega
    have hlater : s.position.stop.offset ≤ b.position.stop.offset := by omega
    have hstart : (addBlock s b).position.start = s.position.start := by
      rw [addBlock_position]
      exact Span.cover_start_of_le hafter
    have hstop : (addBlock s b).position.stop.offset = b.ends.2 := by
      rw [addBlock_position, Span.cover_stop_offset]
      exact max_eq_right hlater
    have hforward : (addBlock s b).position.start.offset
        ≤ (addBlock s b).position.stop.offset := by
      rw [hstart, hstop]
      exact hs.trans hlater
    rw [← hstop] at hrest
    obtain ⟨hfirst, hlast⟩ := ih hforward hrest
    rw [List.foldl_cons, hfirst, hlast, hstart, hstop, List.map_cons, lastEnd_cons]
    exact ⟨rfl, rfl⟩

/-- Settling carries the end of a section to the end of the sections below it. -/
theorem settle_extent (source : List Char) {s : Section} {hi : Nat}
    (hs : s.position.start.offset ≤ s.position.stop.offset)
    (h : Within s.position.stop.offset hi (s.sections.map Section.ends)) :
    (settle source s).position.start = s.position.start ∧
      (settle source s).position.stop.offset
        = lastEnd s.position.stop.offset (s.sections.map Section.ends) := by
  rw [settle_position, lastEnd, List.getLast?_map]
  cases hlast : s.sections.getLast? with
  | none => exact ⟨rfl, rfl⟩
  | some child =>
    -- Only the last child is looked at; the others end before it starts.
    obtain ⟨hlo, hchild, -⟩ := h.of_mem (List.mem_map_of_mem (List.mem_of_getLast? hlast))
    simp only [Section.ends, Span.ends] at hlo hchild
    have hafter : s.position.start.offset ≤ child.position.start.offset := by omega
    have hlater : s.position.stop.offset ≤ child.position.stop.offset := by omega
    refine ⟨Span.cover_start_of_le hafter, ?_⟩
    rw [Span.cover_stop_offset]
    exact max_eq_right hlater

/-- A complete section starts with its heading and ends with the last of its own blocks
    and of the sections below it. -/
theorem assemble_extent (source : List Char) (seen : List String) {h : Heading} {hi : Nat}
    {blocks : List Block} {children : List Section}
    (hh : h.position.start.offset ≤ h.position.stop.offset)
    (hall : Within h.position.stop.offset hi
      (blocks.map Block.ends ++ children.map Section.ends)) :
    (assemble source seen h blocks children).position.start = h.position.start ∧
      (assemble source seen h blocks children).position.stop.offset
        = lastEnd h.position.stop.offset
            (blocks.map Block.ends ++ children.map Section.ends) := by
  let grown : Section := { blocks.foldl addBlock (opened seen h) with sections := children }
  obtain ⟨hstart, hstop⟩ : grown.position.start = h.position.start ∧
      grown.position.stop.offset = lastEnd h.position.stop.offset (blocks.map Block.ends) :=
    foldl_addBlock_extent (s := opened seen h) hh hall.append_left
  have hforward : grown.position.start.offset ≤ grown.position.stop.offset := by
    rw [hstart, hstop]
    exact hh.trans hall.append_left.le_lastEnd
  have hchildren : Within grown.position.stop.offset hi (grown.sections.map Section.ends) := by
    rw [hstop]
    exact hall.append_right
  obtain ⟨hsettled, hlast⟩ := settle_extent source hforward hchildren
  rw [lastEnd_append, ← hstop]
  exact ⟨hsettled.trans hstart, hlast⟩

/-! ## Sections of ordered blocks -/

theorem fromHeading_cons_heading (h : Heading) (rest : List Block) :
    fromHeading (.heading h :: rest) = .heading h :: rest := rfl

theorem fromHeading_cons_of_heading?_eq_none {b : Block} (hb : b.heading? = none)
    (rest : List Block) : fromHeading (b :: rest) = fromHeading rest := by
  simp [fromHeading, hb]

theorem within_fromHeading {lo hi : Nat} {blocks : List Block}
    (h : Within lo hi (blocks.map Block.ends)) :
    Within (lastEnd lo ((own blocks).map Block.ends)) hi
      ((fromHeading blocks).map Block.ends) := by
  rw [← own_append_fromHeading blocks, List.map_append] at h
  exact h.append_right

/-- Sections take the place of some blocks: wherever the blocks from the first heading on
    are in order, so are the sections, and they end where those end. -/
def TakePlace (sections : List Section) (blocks : List Block) : Prop :=
  ∀ lo hi, Within lo hi ((fromHeading blocks).map Block.ends) →
    Within lo hi (sections.map Section.ends) ∧
    ∀ x, lastEnd x (sections.map Section.ends)
      = lastEnd x ((fromHeading blocks).map Block.ends)

section
variable (source : List Char) (seen : List String) {h : Heading} {hi : Nat}
  {blocks : List Block} {children : List Section} (hchildren : TakePlace children blocks)
include hchildren

/-- The section's own blocks and the sections below it lie in the scope of its heading. -/
theorem within_own_append {lo : Nat} (hblocks : Within lo hi (blocks.map Block.ends)) :
    Within lo hi ((own blocks).map Block.ends ++ children.map Section.ends) := by
  have hbelow := (hchildren _ _ (within_fromHeading hblocks)).1
  rw [← own_append_fromHeading blocks, List.map_append] at hblocks
  exact hblocks.append_left.append hbelow

theorem lastEnd_own_append {lo : Nat} (hblocks : Within lo hi (blocks.map Block.ends)) :
    lastEnd lo ((own blocks).map Block.ends ++ children.map Section.ends)
      = lastEnd lo (blocks.map Block.ends) := by
  rw [lastEnd_append, (hchildren _ _ (within_fromHeading hblocks)).2, ← lastEnd_append,
    ← List.map_append, own_append_fromHeading]

variable (hh : h.position.start.offset ≤ h.position.stop.offset)
  (hblocks : Within h.position.stop.offset hi (blocks.map Block.ends))
include hh hblocks

/-- The section of a heading reaches from the start of the heading to the end of its
    scope. -/
theorem assemble_scope_extent :
    (assemble source seen h (own blocks) children).position.start = h.position.start ∧
      (assemble source seen h (own blocks) children).position.stop.offset
        = lastEnd h.position.stop.offset (blocks.map Block.ends) := by
  have hextent := assemble_extent source seen hh (within_own_append hchildren hblocks)
  rwa [lastEnd_own_append hchildren hblocks] at hextent

theorem assemble_scope_misplaced? (hbelow : ∀ s ∈ children, s.misplaced? = none) :
    (assemble source seen h (own blocks) children).misplaced? = none := by
  obtain ⟨hstart, hstop⟩ := assemble_scope_extent source seen hchildren hh hblocks
  -- The children lie between the last of the section's own blocks and the section's end.
  have hall := (within_own_append hchildren hblocks).to_lastEnd
  rw [lastEnd_own_append hchildren hblocks, ← hstop] at hall
  have hafter : (assemble source seen h (own blocks) children).position.start.offset
      ≤ lastEnd h.position.stop.offset ((own blocks).map Block.ends) := by
    rw [hstart]
    exact hh.trans hall.append_left.le_lastEnd
  rw [Section.misplaced?_eq, assemble_sections]
  exact misplacedChild?_eq_none hafter (Nat.le_refl _) (by simp) hall.append_right hbelow

end

/-- A heading, its scope and what lies beyond it follow one another. -/
theorem within_cons_heading {lo hi : Nat} {h : Heading} {rest : List Block}
    (hall : Within lo hi ((Block.heading h :: rest).map Block.ends)) :
    lo ≤ h.position.start.offset ∧ h.position.start.offset ≤ h.position.stop.offset ∧
      Within h.position.stop.offset hi ((scope h.level rest).map Block.ends) ∧
      Within (lastEnd h.position.stop.offset ((scope h.level rest).map Block.ends)) hi
        ((beyond h.level rest).map Block.ends) := by
  rw [← scope_append_beyond h.level rest, List.map_cons, List.map_append, within_cons] at hall
  obtain ⟨hlo, hh, hrest⟩ := hall
  exact ⟨hlo, hh, hrest.append_left, hrest.append_right⟩

theorem sectionsOf_takePlace (source : List Char) (seen : List String) (blocks : List Block) :
    TakePlace (sectionsOf source seen blocks) blocks := by
  induction blocks using scopeInduction generalizing seen with
  | nil =>
    rw [sectionsOf_nil]
    exact fun _ _ h => ⟨h, fun _ => rfl⟩
  | block b rest hb ih =>
    rw [TakePlace, fromHeading_cons_of_heading?_eq_none hb,
      sectionsOf_cons_of_heading?_eq_none hb]
    exact ih seen
  | heading h rest ihscope ihbeyond =>
    -- The scope becomes the section of `h`, and what lies beyond it the sections after.
    intro lo hi hall
    rw [fromHeading_cons_heading] at hall ⊢
    obtain ⟨hlo, hh, hscope, hrest⟩ := within_cons_heading hall
    obtain ⟨hstart, hstop⟩ := assemble_scope_extent source seen
      (ihscope (see seen (.heading h))) hh hscope
    rw [← fromHeading_beyond] at hrest
    obtain ⟨hbeyond, hlast⟩ := ihbeyond ((scope h.level rest).foldl see (see seen (.heading h)))
      _ _ hrest
    have hforward := hh.trans hscope.le_lastEnd
    rw [sectionsOf_cons_heading, List.map_cons, Section.ends, Span.ends, hstart, hstop]
    refine ⟨⟨hlo, hforward, hbeyond⟩, fun x => ?_⟩
    rw [lastEnd_cons, hlast, fromHeading_beyond, ← lastEnd_append, ← List.map_append,
      scope_append_beyond, List.map_cons, lastEnd_cons]
    rfl

/-- Nothing is misplaced below the sections of ordered blocks. -/
theorem misplaced?_of_mem_sectionsOf {source : List Char} {seen : List String} {lo hi : Nat}
    {blocks : List Block} (hblocks : Within lo hi ((fromHeading blocks).map Block.ends)) :
    ∀ s ∈ sectionsOf source seen blocks, s.misplaced? = none := by
  induction blocks using scopeInduction generalizing seen lo hi with
  | nil => simp
  | block b rest hb ih =>
    rw [fromHeading_cons_of_heading?_eq_none hb] at hblocks
    rw [sectionsOf_cons_of_heading?_eq_none hb]
    exact ih hblocks
  | heading h rest ihscope ihbeyond =>
    rw [fromHeading_cons_heading] at hblocks
    obtain ⟨-, hh, hscope, hrest⟩ := within_cons_heading hblocks
    rw [← fromHeading_beyond] at hrest
    rw [sectionsOf_cons_heading, List.forall_mem_cons]
    refine ⟨?_, ihbeyond hrest⟩
    exact assemble_scope_misplaced? source seen (sectionsOf_takePlace source _ _) hh hscope
      (ihscope (within_fromHeading hscope))

/-- **No section is misplaced in an outline of ordered blocks.** -/
theorem document_misplaced? (source : String) {blocks : List Block}
    (hblocks : InOrder (blocks.map Block.ends)) :
    (document source blocks).misplaced? = none := by
  have hfrom := within_fromHeading hblocks.within
  have hsections := (sectionsOf_takePlace source.toList [] blocks _ _ hfrom).1
  rw [Document.misplaced?, document_sections]
  exact misplacedTop?_eq_none (by simp) hsections (misplaced?_of_mem_sectionsOf hfrom)

/-! ## Every section and its scope -/

/-- What stands behind a heading among ordered blocks. -/
theorem within_after_heading {lo hi : Nat} {before rest : List Block} {h : Heading}
    (hall : Within lo hi ((before ++ .heading h :: rest).map Block.ends)) :
    h.position.start.offset ≤ h.position.stop.offset ∧
      Within h.position.stop.offset hi (rest.map Block.ends) := by
  rw [List.map_append, List.map_cons] at hall
  exact ⟨hall.append_right.2.1, hall.append_right.2.2⟩

/-- A section reaches from the start of its heading to the end of the heading's scope. -/
theorem sectionAt_extent (source : List Char) (seen : List String) {h : Heading} {hi : Nat}
    {rest : List Block} (hh : h.position.start.offset ≤ h.position.stop.offset)
    (hrest : Within h.position.stop.offset hi (rest.map Block.ends)) :
    (sectionAt source seen h rest).position.start = h.position.start ∧
      (sectionAt source seen h rest).position.stop.offset
        = lastEnd h.position.stop.offset ((scope h.level rest).map Block.ends) := by
  have hchildren := sectionsOf_takePlace source (see seen (.heading h)) (scope h.level rest)
  rw [← scope_append_beyond h.level rest, List.map_append] at hrest
  exact assemble_scope_extent source seen hchildren hh hrest.append_left

/-- **Every section of an outline of ordered blocks starts where its heading starts and
    ends where the last block in the scope of its heading ends**, or with the heading if
    there is none. -/
theorem document_extents (source : String) {blocks : List Block}
    (hblocks : InOrder (blocks.map Block.ends)) {k : Nat} {parent? : Option Nat} {s : Section}
    (hs : (walkAll none 0 (document source blocks).sections)[k]? = some (parent?, s)) :
    ∃ before h rest, blocks = before ++ .heading h :: rest ∧
      (headingsOf before).length = k ∧ s.heading = some h ∧
      s.position.start = h.position.start ∧
      s.position.stop.offset
        = lastEnd h.position.stop.offset ((scope h.level rest).map Block.ends) := by
  obtain ⟨before, h, rest, rfl, hlength, rfl⟩ := exists_sectionAt_of_getElem?_walkAll hs
  obtain ⟨hh, hrest⟩ := within_after_heading hblocks.within
  obtain ⟨hstart, hstop⟩ := sectionAt_extent source.toList (before.foldl see []) hh hrest
  exact ⟨before, h, rest, rfl, hlength, sectionAt_heading _ _ h rest, hstart, hstop⟩

end Fold

end Rubric
