/-
  Rubric.Proofs.Outline.Runs

  The content runs of a section.

  A section keeps its blocks twice: by kind, and in runs. A block goes into the last
  run if that is of its kind, and begins a run of its own if not. The runs are so
  the longest stretches of one kind in the section's own blocks, once the blocks
  that are not counted are left out; and the lists by kind are what the runs hold.
-/
import Mathlib.Data.List.SplitBy
import Mathlib.Data.Set.List
import Rubric.Conformance.Content
import Rubric.Markdown.Blocks
import Rubric.Proofs.Outline.Assembled

namespace Rubric

/-! ## Blocks by kind -/

/-- The kind that a block is counted as. -/
def Block.kind? : Block → Option ContentKind
  | .paragraph _ => some .paragraphs
  | .codeBlock _ => some .codeBlocks
  | .list _ => some .lists
  | .heading _ | .other _ => none

/-- Whether two blocks are counted as the same kind. -/
def Block.sameKind (a b : Block) : Bool :=
  a.kind? == b.kind?

/-- The paragraph that a block is. -/
def Block.paragraph? : Block → Option Paragraph
  | .paragraph p => some p
  | _ => none

/-- The code block that a block is. -/
def Block.codeBlock? : Block → Option CodeBlock
  | .codeBlock c => some c
  | _ => none

/-- The list that a block is. -/
def Block.list? : Block → Option Listing
  | .list l => some l
  | _ => none

/-! ## Runs -/

namespace ContentRun

theorem filterMap_paragraph?_blocks (run : ContentRun) :
    run.blocks.filterMap Block.paragraph? = run.paragraphs.getD [] := by
  simp [blocks, List.filterMap_map, Function.comp_def, Block.paragraph?]

theorem filterMap_codeBlock?_blocks (run : ContentRun) :
    run.blocks.filterMap Block.codeBlock? = run.codeBlocks.getD [] := by
  simp [blocks, List.filterMap_map, Function.comp_def, Block.codeBlock?]

theorem filterMap_list?_blocks (run : ContentRun) :
    run.blocks.filterMap Block.list? = run.lists.getD [] := by
  simp [blocks, List.filterMap_map, Function.comp_def, Block.list?]

/-- A run of one payload has the kind of each of its blocks. -/
theorem kind?_of_mem_blocks {run : ContentRun} (hsingle : run.IsSingle) {b : Block}
    (hb : b ∈ run.blocks) : b.kind? = run.kind? := by
  obtain ⟨position, paragraphs, codeBlocks, lists⟩ := run
  rcases hsingle with ⟨hp, rfl, rfl⟩ | ⟨rfl, hc, rfl⟩ | ⟨rfl, rfl, hl⟩
  · obtain ⟨ps, rfl⟩ := Option.isSome_iff_exists.1 hp
    obtain ⟨p, -, rfl⟩ : ∃ p ∈ ps, .paragraph p = b := by simpa [blocks] using hb
    rfl
  · obtain ⟨cs, rfl⟩ := Option.isSome_iff_exists.1 hc
    obtain ⟨c, -, rfl⟩ : ∃ c ∈ cs, .codeBlock c = b := by simpa [blocks] using hb
    rfl
  · obtain ⟨ls, rfl⟩ := Option.isSome_iff_exists.1 hl
    obtain ⟨l, -, rfl⟩ : ∃ l ∈ ls, .list l = b := by simpa [blocks] using hb
    rfl

theorem IsSingle.kind?_isSome {run : ContentRun} (hsingle : run.IsSingle) :
    run.kind?.isSome := by
  rcases hsingle with ⟨hp, -, -⟩ | ⟨hp, hc, -⟩ | ⟨hp, hc, hl⟩
  · simp [kind?, hp]
  · simp [kind?, hp, hc]
  · simp [kind?, hp, hc, hl]

/-- A run holds one payload that is not empty, and its span is the smallest around its
    blocks. -/
structure IsGroup (run : ContentRun) : Prop where
  single : run.IsSingle
  filled : run.blocks ≠ []
  covers : ∀ b ∈ run.blocks, run.position.contains b.position = true
  least : ∀ span : Span, (∀ b ∈ run.blocks, span.contains b.position = true) →
    span.contains run.position = true

/-- A run of one block with the span of the block. -/
theorem IsGroup.of_blocks_eq_singleton {run : ContentRun} {b : Block}
    (hsingle : run.IsSingle) (hblocks : run.blocks = [b]) (hposition : run.position = b.position) :
    run.IsGroup := by
  refine ⟨hsingle, by simp [hblocks], ?_, ?_⟩
  · rw [hblocks, hposition]
    exact List.forall_mem_singleton.2 (Span.contains_refl _)
  · intro span hspan
    rw [hblocks] at hspan
    rw [hposition]
    exact hspan b List.mem_cons_self

/-- A run stays a group with one more block, if its span is carried to the block. -/
theorem IsGroup.cover {run wider : ContentRun} {b : Block} (h : run.IsGroup)
    (hsingle : wider.IsSingle) (hblocks : wider.blocks = run.blocks ++ [b])
    (hposition : wider.position = run.position.cover b.position) : wider.IsGroup := by
  obtain ⟨hrun, hb⟩ := Span.contains_cover_iff.1
    (Span.contains_refl (run.position.cover b.position))
  refine ⟨hsingle, by simp [hblocks], ?_, ?_⟩
  · rw [hblocks, hposition]
    refine List.forall_mem_append.2 ⟨?_, List.forall_mem_singleton.2 hb⟩
    exact fun other hother => Span.contains_trans hrun (h.covers other hother)
  · intro span hspan
    rw [hblocks, List.forall_mem_append] at hspan
    rw [hposition, Span.contains_cover_iff]
    exact ⟨h.least span hspan.1, hspan.2 b List.mem_cons_self⟩

end ContentRun

namespace Fold

/-! ## One more block -/

/-- Runs are groups, and no two neighbours are of one kind. -/
structure Grouped (runs : List ContentRun) : Prop where
  groups : ∀ run ∈ runs, run.IsGroup
  apart : runs.IsChain fun a b => a.kind? ≠ b.kind?

/-- Of a last run with one more block behind it: it takes the block in and keeps its kind, or
    it is of another kind than the block, which gets the run `fresh` after it. -/
def TakesInOrNot (fresh : ContentRun) (b : Block) (run : ContentRun) (grown : List ContentRun) :
    Prop :=
  (∃ wider, grown = [wider] ∧ wider.kind? = run.kind? ∧
    wider.position = run.position.cover b.position) ∨
  (grown = [run, fresh] ∧ run.kind? ≠ fresh.kind?)

theorem growParagraph_takesInOrNot (p : Paragraph) {run : ContentRun} (hsingle : run.IsSingle) :
    TakesInOrNot { position := p.position, paragraphs := some [p] } (.paragraph p) run
      (growParagraph p run) := by
  unfold growParagraph
  rcases hsingle with ⟨hp, hc, hl⟩ | ⟨hp, hc, hl⟩ | ⟨hp, hc, hl⟩
  · obtain ⟨ps, hps⟩ := Option.isSome_iff_exists.1 hp
    simp only [hps]
    exact Or.inl ⟨_, rfl, by simp [ContentRun.kind?, hps], rfl⟩
  · simp only [hp]
    exact Or.inr ⟨rfl, by simp [ContentRun.kind?, hp, hc]⟩
  · simp only [hp]
    exact Or.inr ⟨rfl, by simp [ContentRun.kind?, hp, hc, hl]⟩

theorem growCodeBlock_takesInOrNot (c : CodeBlock) {run : ContentRun} (hsingle : run.IsSingle) :
    TakesInOrNot { position := c.position, codeBlocks := some [c] } (.codeBlock c) run
      (growCodeBlock c run) := by
  unfold growCodeBlock
  rcases hsingle with ⟨hp, hc, hl⟩ | ⟨hp, hc, hl⟩ | ⟨hp, hc, hl⟩
  · simp only [hc]
    exact Or.inr ⟨rfl, by simp [ContentRun.kind?, hp]⟩
  · obtain ⟨cs, hcs⟩ := Option.isSome_iff_exists.1 hc
    simp only [hcs]
    exact Or.inl ⟨_, rfl, by simp [ContentRun.kind?, hp, hcs], rfl⟩
  · simp only [hc]
    exact Or.inr ⟨rfl, by simp [ContentRun.kind?, hp, hc, hl]⟩

theorem growListing_takesInOrNot (l : Listing) {run : ContentRun} (hsingle : run.IsSingle) :
    TakesInOrNot { position := l.position, lists := some [l] } (.list l) run
      (growListing l run) := by
  unfold growListing
  rcases hsingle with ⟨hp, hc, hl⟩ | ⟨hp, hc, hl⟩ | ⟨hp, hc, hl⟩
  · simp only [hl]
    exact Or.inr ⟨rfl, by simp [ContentRun.kind?, hp]⟩
  · simp only [hl]
    exact Or.inr ⟨rfl, by simp [ContentRun.kind?, hp, hc]⟩
  · obtain ⟨ls, hls⟩ := Option.isSome_iff_exists.1 hl
    simp only [hls]
    exact Or.inl ⟨_, rfl, by simp [ContentRun.kind?, hp, hc, hls], rfl⟩

theorem extendLast_concat (grow : ContentRun → List ContentRun) (fresh run : ContentRun)
    (runs : List ContentRun) :
    extendLast grow fresh (runs ++ [run]) = runs ++ grow run := by
  induction runs with
  | nil => rfl
  | cons first runs ih =>
    rw [List.cons_append, extendLast]
    · rw [ih, List.cons_append]
    · simp

/-- Runs stay grouped if the last one takes in a block, or a run of another kind follows. -/
theorem extendLast_grouped {grow : ContentRun → List ContentRun} {fresh : ContentRun} {b : Block}
    (hfresh : fresh.IsGroup)
    (hholds : ∀ run : ContentRun, run.IsSingle → HoldBlocks (grow run) (run.blocks ++ [b]))
    (htakes : ∀ run : ContentRun, run.IsSingle → TakesInOrNot fresh b run (grow run))
    {content : List ContentRun} (hcontent : Grouped content) :
    Grouped (extendLast grow fresh content) := by
  rcases List.eq_nil_or_concat' content with rfl | ⟨runs, run, rfl⟩
  · exact ⟨List.forall_mem_singleton.2 hfresh, List.isChain_singleton fresh⟩
  · obtain ⟨hgroups, hapart⟩ := hcontent
    rw [List.forall_mem_append, List.forall_mem_singleton] at hgroups
    obtain ⟨hbefore, hrun⟩ := hgroups
    rw [extendLast_concat]
    rcases htakes run hrun.single with ⟨wider, hgrown, hkind, hposition⟩ | ⟨hgrown, hother⟩
    · -- The wider run has the kind of the run in whose place it is.
      obtain ⟨hsingle, hblocks⟩ := hholds run hrun.single
      rw [hgrown] at hsingle hblocks ⊢
      have hwider : wider.IsGroup := hrun.cover (hsingle wider List.mem_cons_self)
        (by simpa using hblocks) hposition
      refine ⟨List.forall_mem_append.2 ⟨hbefore, List.forall_mem_singleton.2 hwider⟩, ?_⟩
      rw [List.isChain_append] at hapart ⊢
      refine ⟨hapart.1, List.isChain_singleton wider, ?_⟩
      intro last hlast next hnext
      obtain rfl : wider = next := by simpa using hnext
      rw [hkind]
      exact hapart.2.2 last hlast run rfl
    · rw [hgrown]
      refine ⟨?_, List.isChain_append_cons_cons.2 ⟨hapart, hother, List.isChain_singleton fresh⟩⟩
      exact List.forall_mem_append.2
        ⟨hbefore, List.forall_mem_cons.2 ⟨hrun, List.forall_mem_singleton.2 hfresh⟩⟩

theorem addBlock_grouped {s : Section} (block : Block) (hs : Grouped s.content) :
    Grouped (addBlock s block).content := by
  cases block with
  | heading h => exact hs
  | other span => exact hs
  | paragraph p =>
    show Grouped (addParagraph p s.content)
    rw [addParagraph_eq]
    exact extendLast_grouped
      (.of_blocks_eq_singleton (b := .paragraph p) (Or.inl ⟨rfl, rfl, rfl⟩) rfl rfl)
      (growParagraph_holdBlocks p) (fun _ => growParagraph_takesInOrNot p) hs
  | codeBlock c =>
    show Grouped (addCodeBlock c s.content)
    rw [addCodeBlock_eq]
    exact extendLast_grouped
      (.of_blocks_eq_singleton (b := .codeBlock c) (Or.inr (Or.inl ⟨rfl, rfl, rfl⟩)) rfl rfl)
      (growCodeBlock_holdBlocks c) (fun _ => growCodeBlock_takesInOrNot c) hs
  | list l =>
    show Grouped (addListing l s.content)
    rw [addListing_eq]
    exact extendLast_grouped
      (.of_blocks_eq_singleton (b := .list l) (Or.inr (Or.inr ⟨rfl, rfl, rfl⟩)) rfl rfl)
      (growListing_holdBlocks l) (fun _ => growListing_takesInOrNot l) hs

theorem foldl_addBlock_grouped {s : Section} (blocks : List Block) (hs : Grouped s.content) :
    Grouped (blocks.foldl addBlock s).content := by
  induction blocks generalizing s with
  | nil => exact hs
  | cons b rest ih => exact ih (addBlock_grouped b hs)

/-- Grouped runs are what the blocks in them split into by kind. -/
theorem Grouped.map_blocks {runs : List ContentRun} (h : Grouped runs) :
    runs.map ContentRun.blocks = (runs.flatMap ContentRun.blocks).splitBy Block.sameKind := by
  symm
  rw [List.splitBy_eq_iff]
  refine ⟨List.flatMap_def, ?_, ?_, ?_⟩
  · intro hempty
    obtain ⟨run, hrun, hblocks⟩ := List.mem_map.1 hempty
    exact (h.groups run hrun).filled hblocks
  · intro stretch hstretch
    obtain ⟨run, hrun, rfl⟩ := List.mem_map.1 hstretch
    have hsingle := (h.groups run hrun).single
    apply List.Pairwise.isChain
    rw [List.pairwise_iff_forall_sublist]
    intro a b hab
    have ha : a ∈ run.blocks := hab.subset (by simp)
    have hb : b ∈ run.blocks := hab.subset (by simp)
    simp [Block.sameKind, ContentRun.kind?_of_mem_blocks hsingle ha,
      ContentRun.kind?_of_mem_blocks hsingle hb]
  · rw [List.isChain_map]
    -- The blocks on either side of a cut are of the kinds of their runs.
    refine h.apart.imp_of_mem_imp fun a b ha hb hkinds => ?_
    refine ⟨(h.groups a ha).filled, (h.groups b hb).filled, ?_⟩
    simpa [Block.sameKind, ContentRun.kind?_of_mem_blocks (h.groups a ha).single (List.getLast_mem _),
      ContentRun.kind?_of_mem_blocks (h.groups b hb).single (List.head_mem _)] using hkinds

/-! ## Lists by kind -/

/-- The lists by kind of a section list some blocks in order. -/
structure ListsByKind (s : Section) (blocks : List Block) : Prop where
  paragraphs : s.paragraphs = blocks.filterMap Block.paragraph?
  codeBlocks : s.codeBlocks = blocks.filterMap Block.codeBlock?
  lists : s.lists = blocks.filterMap Block.list?

theorem addBlock_listsByKind {s : Section} {blocks : List Block} (block : Block)
    (hs : ListsByKind s blocks) : ListsByKind (addBlock s block) (blocks ++ [block]) := by
  obtain ⟨hparagraphs, hcodeBlocks, hlists⟩ := hs
  -- A block is appended to the list of its kind; the other lists do not see it.
  cases block <;> constructor <;>
    simp [addBlock, Block.paragraph?, Block.codeBlock?, Block.list?, hparagraphs, hcodeBlocks,
      hlists]

theorem foldl_addBlock_listsByKind {s : Section} {before : List Block} (blocks : List Block)
    (hs : ListsByKind s before) : ListsByKind (blocks.foldl addBlock s) (before ++ blocks) := by
  induction blocks generalizing s before with
  | nil => simpa using hs
  | cons b rest ih =>
    have hrest := ih (addBlock_listsByKind b hs)
    rwa [List.append_assoc] at hrest

theorem settle_listsByKind (source : List Char) {s : Section} {blocks : List Block}
    (hs : ListsByKind s blocks) : ListsByKind (settle source s) blocks := by
  rw [settle_eq]
  exact ⟨hs.paragraphs, hs.codeBlocks, hs.lists⟩

theorem assemble_listsByKind (source : List Char) (seen : List String) (h : Heading)
    (blocks : List Block) (children : List Section) :
    ListsByKind (assemble source seen h blocks children) blocks := by
  have hopened : ListsByKind (opened seen h) [] := ⟨rfl, rfl, rfl⟩
  obtain ⟨hparagraphs, hcodeBlocks, hlists⟩ := foldl_addBlock_listsByKind blocks hopened
  exact settle_listsByKind source ⟨hparagraphs, hcodeBlocks, hlists⟩

/-- What runs hold of one kind is what is of this kind among their blocks. -/
theorem flatMap_payload {α : Type} {pick : Block → Option α} {payload : ContentRun → List α}
    (hpayload : ∀ run, run.blocks.filterMap pick = payload run)
    (hkept : ∀ block, block.isKept = false → pick block = none)
    {runs : List ContentRun} {blocks : List Block}
    (hruns : runs.flatMap ContentRun.blocks = blocks.filter Block.isKept) :
    runs.flatMap payload = blocks.filterMap pick := by
  have hpick : ∀ block : Block, (if block.isKept then pick block else none) = pick block := by
    intro block
    cases hblock : block.isKept with
    | true => rfl
    | false => exact (hkept block hblock).symm
  calc runs.flatMap payload
      = (runs.flatMap ContentRun.blocks).filterMap pick := by
        rw [List.filterMap_flatMap, funext hpayload]
    _ = (blocks.filter Block.isKept).filterMap pick := by rw [hruns]
    _ = blocks.filterMap pick := by rw [List.filterMap_filter, funext hpick]

/-! ## Whole sections -/

/-- The content of a section is made of some blocks: its runs group the blocks that are
    counted, and its lists by kind hold what the runs hold. -/
structure MadeOf (s : Section) (blocks : List Block) : Prop where
  grouped : Grouped s.content
  ordered : s.content.flatMap ContentRun.blocks = blocks.filter Block.isKept
  maximal : s.content.map ContentRun.blocks
    = (blocks.filter Block.isKept).splitBy Block.sameKind
  paragraphs : s.content.flatMap (fun run => run.paragraphs.getD []) = s.paragraphs
  codeBlocks : s.content.flatMap (fun run => run.codeBlocks.getD []) = s.codeBlocks
  lists : s.content.flatMap (fun run => run.lists.getD []) = s.lists

theorem assemble_madeOf (source : List Char) (seen : List String) (h : Heading)
    (blocks : List Block) (children : List Section) :
    MadeOf (assemble source seen h (own blocks) children) (own blocks) := by
  have hgrouped : Grouped (assemble source seen h (own blocks) children).content := by
    rw [assemble_content]
    exact foldl_addBlock_grouped (s := opened seen h) _ ⟨by simp [opened], List.isChain_nil⟩
  have hordered := (assemble_holdBlocks source seen h blocks children).2
  have hlists := assemble_listsByKind source seen h (own blocks) children
  refine ⟨hgrouped, hordered, ?_, ?_, ?_, ?_⟩
  · rw [hgrouped.map_blocks, hordered]
  · rw [hlists.paragraphs]
    exact flatMap_payload ContentRun.filterMap_paragraph?_blocks
      (fun block hblock => by cases block <;> simp_all [Block.isKept, Block.paragraph?]) hordered
  · rw [hlists.codeBlocks]
    exact flatMap_payload ContentRun.filterMap_codeBlock?_blocks
      (fun block hblock => by cases block <;> simp_all [Block.isKept, Block.codeBlock?]) hordered
  · rw [hlists.lists]
    exact flatMap_payload ContentRun.filterMap_list?_blocks
      (fun block hblock => by cases block <;> simp_all [Block.isKept, Block.list?]) hordered

/-- The content of a section in an outline is made of the blocks from its heading to the next
    one. -/
theorem madeOf_of_getElem?_walkAll {source : String} {blocks : List Block} {k : Nat}
    {parent? : Option Nat} {s : Section}
    (hs : (walkAll none 0 (document source blocks).sections)[k]? = some (parent?, s)) :
    ∃ before h rest, blocks = before ++ .heading h :: rest ∧
      (headingsOf before).length = k ∧ s.heading = some h ∧ MadeOf s (own rest) := by
  obtain ⟨before, h, rest, hsplit, hlength, rfl⟩ := exists_sectionAt_of_getElem?_walkAll hs
  refine ⟨before, h, rest, hsplit, hlength, sectionAt_heading _ _ h rest, ?_⟩
  rw [← own_scope h.level rest]
  exact assemble_madeOf source.toList _ h (scope h.level rest) _

/-! ## Sequence checks -/

/-- Grouped runs have a kind each. -/
theorem Grouped.exists_kinds {runs : List ContentRun} (h : Grouped runs) :
    ∃ kinds : List ContentKind, runs.map ContentRun.kind? = kinds.map some := by
  have hrange : runs.map ContentRun.kind? ∈ Set.range (List.map some) := by
    rw [Set.range_list_map]
    intro kind? hkind
    obtain ⟨run, hrun, rfl⟩ := List.mem_map.1 hkind
    obtain ⟨kind, hkind⟩ := Option.isSome_iff_exists.1 (h.groups run hrun).single.kind?_isSome
    exact ⟨kind, hkind.symm⟩
  obtain ⟨kinds, hkinds⟩ := hrange
  exact ⟨kinds, hkinds.symm⟩

/-- Where every run has a kind, a sequence check compares kinds with kinds. -/
theorem sequenceViolations_of_kinds {s : Section} {kinds : List ContentKind}
    (hkinds : s.content.map ContentRun.kind? = kinds.map some) (slots : List Slot) :
    sequenceViolations slots s
      = if slots.length ≠ kinds.length then
          violationsAt s.label? s.position [.sequenceLength slots.length kinds.length]
        else if slots.map Slot.kind ≠ kinds then
          violationsAt s.label? s.position
            [.sequenceOrder ((slots.map Slot.kind).map some) (kinds.map some)]
        else (slots.zip s.content).flatMap fun entry => entry.1.violations s.label? entry.2 := by
  have hlength : s.content.length = kinds.length := by
    simpa using congrArg List.length hkinds
  have hsame : (slots.map fun slot => some slot.kind) = (slots.map Slot.kind).map some := by
    rw [List.map_map]
    rfl
  have hinjective : (slots.map Slot.kind).map some ≠ kinds.map some ↔
      slots.map Slot.kind ≠ kinds :=
    not_congr (List.map_inj_right fun _ _ => Option.some.inj)
  unfold sequenceViolations
  simp only [hkinds, hlength, hsame, hinjective]

/-- **The content runs of a section are its counted blocks, grouped by kind.** The section at
    a place belongs to the heading with so many headings before. Of the blocks up to the next
    heading, its runs are the longest stretches of one kind once the others are left out; each
    run holds one payload that is not empty, and its span is the smallest around it; and put
    together the runs are the lists by kind. So on a Markdown document a sequence check
    compares kinds with kinds, and meets no run without one. -/
theorem runs_group_own_blocks :
    (∀ source blocks k parent? s,
      (walkAll none 0 (document source blocks).sections)[k]? = some (parent?, s) →
        ∃ before h rest, blocks = before ++ .heading h :: rest ∧
          (headingsOf before).length = k ∧ s.heading = some h ∧ MadeOf s (own rest)) ∧
    (∀ text, ∀ entry ∈ walkAll none 0 (Markdown.outline text).sections,
      ∃ kinds : List ContentKind, entry.2.content.map ContentRun.kind? = kinds.map some ∧
        ∀ slots, sequenceViolations slots entry.2
          = if slots.length ≠ kinds.length then
              violationsAt entry.2.label? entry.2.position
                [.sequenceLength slots.length kinds.length]
            else if slots.map Slot.kind ≠ kinds then
              violationsAt entry.2.label? entry.2.position
                [.sequenceOrder ((slots.map Slot.kind).map some) (kinds.map some)]
            else (slots.zip entry.2.content).flatMap fun pair =>
              pair.1.violations entry.2.label? pair.2) := by
  constructor
  · intro source blocks k parent? s hs
    exact madeOf_of_getElem?_walkAll hs
  · intro text entry hentry
    obtain ⟨k, hk⟩ := List.mem_iff_getElem?.1 hentry
    obtain ⟨_, _, rest, -, -, -, hmade⟩ := madeOf_of_getElem?_walkAll hk
    obtain ⟨kinds, hkinds⟩ := hmade.grouped.exists_kinds
    exact ⟨kinds, hkinds, sequenceViolations_of_kinds hkinds⟩

/-- A quote between two paragraphs does not split their run; a code block begins another. -/
theorem quote_does_not_split_run :
    let text := "# A\n\nOne.\n\n> Quoted.\n\nTwo.\n\n    code\n"
    ∃ s, (walkAll none 0 (Markdown.outline text).sections)[0]? = some (none, s) ∧
      s.content.map ContentRun.kind? = [some .paragraphs, some .codeBlocks] ∧
      s.paragraphs.length = 2 ∧
      (∃ rest, MadeOf s (own rest)) ∧
      sequenceViolations [.lists {}, .paragraphs {}] s
        = violationsAt s.label? s.position
            [.sequenceOrder [some .lists, some .paragraphs]
              [some .paragraphs, some .codeBlocks]] := by
  intro text
  have hfacts : (walkAll none 0 (Markdown.outline text).sections)[0]?.map (fun entry =>
      (entry.1, entry.2.content.map ContentRun.kind?, entry.2.paragraphs.length))
      = some (none, [some .paragraphs, some .codeBlocks], 2) := by decide +kernel
  obtain ⟨⟨parent?, s⟩, hs, hentry⟩ := Option.map_eq_some_iff.1 hfacts
  simp only [Prod.mk.injEq] at hentry
  obtain ⟨rfl, hkinds, hlength⟩ := hentry
  obtain ⟨hruns, hchecks⟩ := runs_group_own_blocks
  obtain ⟨_, _, rest, -, -, -, hmade⟩ := hruns text (Markdown.blocks text) 0 none s hs
  obtain ⟨kinds, hsame, hcheck⟩ := hchecks text (none, s) (List.mem_of_getElem? hs)
  have hlist : kinds = [.paragraphs, .codeBlocks] := by
    apply (List.map_inj_right fun _ _ => Option.some.inj).1
    exact hsame.symm.trans hkinds
  refine ⟨s, hs, hkinds, hlength, ⟨rest, hmade⟩, ?_⟩
  rw [hcheck, hlist]
  rfl

end Fold

end Rubric
