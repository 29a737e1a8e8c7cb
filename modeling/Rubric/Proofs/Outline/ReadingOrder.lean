/-
  Rubric.Proofs.Outline.ReadingOrder

  The order of an outline, and its nesting.

  Reading an outline from front to back gives the blocks it was folded from: none
  is lost, none is made up, none changes its place. Each section lies below the
  section of the nearest heading before its own that is of a smaller level.
-/
import Mathlib.Data.List.Induction
import Rubric.Proofs.Outline.Scope

namespace Rubric

/-! ## Reading an outline -/

/-- Whether a block is of a kind that outlines keep. -/
def Block.isKept : Block → Bool
  | .other _ => false
  | _ => true

/-- The blocks of a content run. -/
def ContentRun.blocks (run : ContentRun) : List Block :=
  (run.paragraphs.getD []).map .paragraph ++ (run.codeBlocks.getD []).map .codeBlock
    ++ (run.lists.getD []).map .list

mutual

/-- The blocks of a section in reading order: its heading, its content runs, and the
    sections below it. -/
def Section.blocks : Section → List Block
  | ⟨_, heading, _, _, _, content, sections, _, _⟩ =>
    heading.toList.map .heading ++ content.flatMap ContentRun.blocks ++ blocksOfAll sections

/-- The blocks of some sections in reading order. -/
def blocksOfAll : List Section → List Block
  | [] => []
  | s :: rest => s.blocks ++ blocksOfAll rest

end

mutual

/-- A section and those below it in reading order, each with the place of its parent.
    The section itself has place `place`, and its parent has place `parent?`. -/
def Section.walk (parent? : Option Nat) (place : Nat) : Section → List (Option Nat × Section)
  | ⟨id, heading, paragraphs, codeBlocks, lists, content, sections, position, rawContent⟩ =>
    (parent?,
      ⟨id, heading, paragraphs, codeBlocks, lists, content, sections, position, rawContent⟩)
      :: walkAll (some place) (place + 1) sections

/-- Some sections and those below them in reading order. -/
def walkAll (parent? : Option Nat) (place : Nat) : List Section → List (Option Nat × Section)
  | [] => []
  | s :: rest =>
    s.walk parent? place ++ walkAll parent? (place + (s.walk parent? place).length) rest

end

theorem Section.blocks_eq (s : Section) :
    s.blocks = s.heading.toList.map .heading ++ s.content.flatMap ContentRun.blocks
      ++ blocksOfAll s.sections := by
  cases s
  rw [Section.blocks]

theorem Section.walk_eq (parent? : Option Nat) (place : Nat) (s : Section) :
    s.walk parent? place = (parent?, s) :: walkAll (some place) (place + 1) s.sections := by
  cases s
  rw [Section.walk]

/-- The section of a heading at place `k` lies below the nearest section before it of a
    smaller level; `levels` are the levels in reading order. It lies at the top if there
    is no such section. -/
def NearestAbove (levels : List Nat) (k level : Nat) : (parent? : Option Nat) → Prop
  | none => ∀ other ∈ levels.take k, level ≤ other
  | some j => (∃ above, (levels.take k)[j]? = some above ∧ above < level) ∧
      ∀ other ∈ (levels.take k).drop (j + 1), level ≤ other

/-- Exactly one payload is there. -/
def ContentRun.IsSingle (run : ContentRun) : Prop :=
  (run.paragraphs.isSome ∧ run.codeBlocks = none ∧ run.lists = none) ∨
  (run.paragraphs = none ∧ run.codeBlocks.isSome ∧ run.lists = none) ∨
  (run.paragraphs = none ∧ run.codeBlocks = none ∧ run.lists.isSome)

namespace Fold

/-! ## Content runs -/

/-- Changes the last run by `grow`, which may put another one after it, or begins with
    the run `fresh`. -/
def extendLast (grow : ContentRun → List ContentRun) (fresh : ContentRun) :
    List ContentRun → List ContentRun
  | [] => [fresh]
  | [run] => grow run
  | run :: runs => run :: extendLast grow fresh runs

/-- What holds of a fresh run and is kept by growing the last run holds of all runs. -/
theorem forall_mem_extendLast {p : ContentRun → Prop} {grow : ContentRun → List ContentRun}
    {fresh : ContentRun} (hfresh : p fresh) (hgrow : ∀ run, p run → ∀ r ∈ grow run, p r)
    {content : List ContentRun} (hcontent : ∀ run ∈ content, p run) :
    ∀ run ∈ extendLast grow fresh content, p run := by
  induction content with
  | nil => exact List.forall_mem_singleton.2 hfresh
  | cons run runs ih =>
    rw [List.forall_mem_cons] at hcontent
    cases runs with
    | nil => exact hgrow run hcontent.1
    | cons next runs =>
      rw [extendLast]
      · exact List.forall_mem_cons.2 ⟨hcontent.1, ih hcontent.2⟩
      · simp

/-- The last run with one more paragraph, or with a run for it after it. -/
def growParagraph (p : Paragraph) (run : ContentRun) : List ContentRun :=
  match run.paragraphs with
  | some ps =>
    [{ run with paragraphs := some (ps ++ [p]), position := run.position.cover p.position }]
  | none => [run, { position := p.position, paragraphs := some [p] }]

/-- The last run with one more code block, or with a run for it after it. -/
def growCodeBlock (c : CodeBlock) (run : ContentRun) : List ContentRun :=
  match run.codeBlocks with
  | some cs =>
    [{ run with codeBlocks := some (cs ++ [c]), position := run.position.cover c.position }]
  | none => [run, { position := c.position, codeBlocks := some [c] }]

/-- The last run with one more list, or with a run for it after it. -/
def growListing (l : Listing) (run : ContentRun) : List ContentRun :=
  match run.lists with
  | some ls => [{ run with lists := some (ls ++ [l]), position := run.position.cover l.position }]
  | none => [run, { position := l.position, lists := some [l] }]

/-- What passes over all runs but the last one changes that one only. -/
theorem eq_extendLast (add : List ContentRun → List ContentRun)
    {grow : ContentRun → List ContentRun} {fresh : ContentRun} (hnone : add [] = [fresh])
    (hlast : ∀ run, add [run] = grow run)
    (hpass : ∀ run next runs, add (run :: next :: runs) = run :: add (next :: runs))
    (content : List ContentRun) : add content = extendLast grow fresh content := by
  induction content with
  | nil => exact hnone
  | cons run runs ih =>
    cases runs with
    | nil => exact hlast run
    | cons next runs =>
      rw [hpass, ih]
      rfl

theorem addParagraph_eq (p : Paragraph) (content : List ContentRun) :
    addParagraph p content
      = extendLast (growParagraph p) { position := p.position, paragraphs := some [p] }
          content := by
  apply eq_extendLast (addParagraph p)
  · rfl
  · exact fun run => rfl
  · exact fun run next runs => rfl

theorem addCodeBlock_eq (c : CodeBlock) (content : List ContentRun) :
    addCodeBlock c content
      = extendLast (growCodeBlock c) { position := c.position, codeBlocks := some [c] }
          content := by
  apply eq_extendLast (addCodeBlock c)
  · rfl
  · exact fun run => rfl
  · exact fun run next runs => rfl

theorem addListing_eq (l : Listing) (content : List ContentRun) :
    addListing l content
      = extendLast (growListing l) { position := l.position, lists := some [l] } content := by
  apply eq_extendLast (addListing l)
  · rfl
  · exact fun run => rfl
  · exact fun run next runs => rfl

/-- Runs of one payload each that hold some blocks in order. -/
def HoldBlocks (runs : List ContentRun) (blocks : List Block) : Prop :=
  (∀ run ∈ runs, run.IsSingle) ∧ runs.flatMap ContentRun.blocks = blocks

/-- If the last run takes in a block behind its own, so do all runs together. -/
theorem extendLast_holdBlocks {grow : ContentRun → List ContentRun} {fresh : ContentRun}
    {b : Block} (hfresh : HoldBlocks [fresh] [b])
    (hgrow : ∀ run : ContentRun, run.IsSingle → HoldBlocks (grow run) (run.blocks ++ [b]))
    {content : List ContentRun} {blocks : List Block} (hcontent : HoldBlocks content blocks) :
    HoldBlocks (extendLast grow fresh content) (blocks ++ [b]) := by
  induction content generalizing blocks with
  | nil =>
    obtain ⟨-, rfl⟩ := hcontent
    exact hfresh
  | cons run runs ih =>
    obtain ⟨hsingle, rfl⟩ := hcontent
    rw [List.forall_mem_cons] at hsingle
    cases runs with
    | nil => simpa [extendLast] using hgrow run hsingle.1
    | cons next runs =>
      obtain ⟨hrest, hblocks⟩ := ih ⟨hsingle.2, rfl⟩
      rw [extendLast]
      · refine ⟨List.forall_mem_cons.2 ⟨hsingle.1, hrest⟩, ?_⟩
        rw [List.flatMap_cons, hblocks, ← List.append_assoc, ← List.flatMap_cons]
      · simp

theorem growParagraph_holdBlocks (p : Paragraph) (run : ContentRun) (hsingle : run.IsSingle) :
    HoldBlocks (growParagraph p run) (run.blocks ++ [.paragraph p]) := by
  obtain ⟨position, paragraphs, codeBlocks, lists⟩ := run
  -- Only a run of paragraphs takes the paragraph in; the others stay and get a run after them.
  rcases hsingle with ⟨hp, rfl, rfl⟩ | ⟨rfl, hc, rfl⟩ | ⟨rfl, rfl, hl⟩
  · obtain ⟨ps, rfl⟩ := Option.isSome_iff_exists.1 hp
    simp [HoldBlocks, growParagraph, ContentRun.IsSingle, ContentRun.blocks]
  · simpa [HoldBlocks, growParagraph, ContentRun.IsSingle, ContentRun.blocks] using hc
  · simpa [HoldBlocks, growParagraph, ContentRun.IsSingle, ContentRun.blocks] using hl

theorem growCodeBlock_holdBlocks (c : CodeBlock) (run : ContentRun) (hsingle : run.IsSingle) :
    HoldBlocks (growCodeBlock c run) (run.blocks ++ [.codeBlock c]) := by
  obtain ⟨position, paragraphs, codeBlocks, lists⟩ := run
  rcases hsingle with ⟨hp, rfl, rfl⟩ | ⟨rfl, hc, rfl⟩ | ⟨rfl, rfl, hl⟩
  · simpa [HoldBlocks, growCodeBlock, ContentRun.IsSingle, ContentRun.blocks] using hp
  · obtain ⟨cs, rfl⟩ := Option.isSome_iff_exists.1 hc
    simp [HoldBlocks, growCodeBlock, ContentRun.IsSingle, ContentRun.blocks]
  · simpa [HoldBlocks, growCodeBlock, ContentRun.IsSingle, ContentRun.blocks] using hl

theorem growListing_holdBlocks (l : Listing) (run : ContentRun) (hsingle : run.IsSingle) :
    HoldBlocks (growListing l run) (run.blocks ++ [.list l]) := by
  obtain ⟨position, paragraphs, codeBlocks, lists⟩ := run
  rcases hsingle with ⟨hp, rfl, rfl⟩ | ⟨rfl, hc, rfl⟩ | ⟨rfl, rfl, hl⟩
  · simpa [HoldBlocks, growListing, ContentRun.IsSingle, ContentRun.blocks] using hp
  · simpa [HoldBlocks, growListing, ContentRun.IsSingle, ContentRun.blocks] using hc
  · obtain ⟨ls, rfl⟩ := Option.isSome_iff_exists.1 hl
    simp [HoldBlocks, growListing, ContentRun.IsSingle, ContentRun.blocks]

/-- A block goes into the runs of its section behind all others, if its kind is kept. -/
theorem addBlock_holdBlocks {s : Section} {block : Block} {blocks : List Block}
    (hheading : block.heading? = none) (hs : HoldBlocks s.content blocks) :
    HoldBlocks (addBlock s block).content (blocks ++ [block].filter Block.isKept) := by
  cases block with
  | heading h => simp [Block.heading?] at hheading
  | paragraph p =>
    show HoldBlocks (addParagraph p s.content) (blocks ++ [.paragraph p])
    rw [addParagraph_eq]
    exact extendLast_holdBlocks (by simp [HoldBlocks, ContentRun.IsSingle, ContentRun.blocks])
      (growParagraph_holdBlocks p) hs
  | codeBlock c =>
    show HoldBlocks (addCodeBlock c s.content) (blocks ++ [.codeBlock c])
    rw [addCodeBlock_eq]
    exact extendLast_holdBlocks (by simp [HoldBlocks, ContentRun.IsSingle, ContentRun.blocks])
      (growCodeBlock_holdBlocks c) hs
  | list l =>
    show HoldBlocks (addListing l s.content) (blocks ++ [.list l])
    rw [addListing_eq]
    exact extendLast_holdBlocks (by simp [HoldBlocks, ContentRun.IsSingle, ContentRun.blocks])
      (growListing_holdBlocks l) hs
  | other span =>
    show HoldBlocks s.content (blocks ++ [])
    rwa [List.append_nil]

theorem foldl_addBlock_holdBlocks {s : Section} {before blocks : List Block}
    (hheadings : ∀ b ∈ blocks, b.heading? = none) (hs : HoldBlocks s.content before) :
    HoldBlocks (blocks.foldl addBlock s).content (before ++ blocks.filter Block.isKept) := by
  induction blocks generalizing s before with
  | nil => simpa using hs
  | cons b rest ih =>
    rw [List.forall_mem_cons] at hheadings
    have hrest := ih hheadings.2 (addBlock_holdBlocks hheadings.1 hs)
    rwa [List.append_assoc, ← List.filter_append, List.singleton_append] at hrest

/-! ## Sections in reading order -/

theorem heading?_eq_none_of_mem_own {blocks : List Block} {b : Block} (hb : b ∈ own blocks) :
    b.heading? = none := by
  simpa using List.mem_takeWhile_imp (p := fun b : Block => b.heading?.isNone) hb

theorem foldl_addBlock_heading (s : Section) (blocks : List Block) :
    (blocks.foldl addBlock s).heading = s.heading := by
  induction blocks generalizing s with
  | nil => rfl
  | cons b rest ih =>
    rw [List.foldl_cons, ih]
    cases b <;> rfl

/-- Settling changes the span and the text of a section only. -/
theorem settle_eq (source : List Char) (s : Section) :
    settle source s = { s with
      position := (settle source s).position
      rawContent := (settle source s).rawContent } := by
  unfold settle
  cases s.sections.getLast? <;> rfl

theorem settle_heading (source : List Char) (s : Section) :
    (settle source s).heading = s.heading := by
  rw [settle_eq]

theorem settle_content (source : List Char) (s : Section) :
    (settle source s).content = s.content := by
  rw [settle_eq]

theorem settle_sections (source : List Char) (s : Section) :
    (settle source s).sections = s.sections := by
  rw [settle_eq]

theorem settle_position (source : List Char) (s : Section) :
    (settle source s).position = match s.sections.getLast? with
      | some child => s.position.cover child.position
      | none => s.position := by
  unfold settle
  cases s.sections.getLast? <;> rfl

theorem assemble_heading (source : List Char) (seen : List String) (h : Heading)
    (blocks : List Block) (children : List Section) :
    (assemble source seen h blocks children).heading = some h := by
  rw [assemble, settle_heading]
  exact foldl_addBlock_heading (opened seen h) blocks

theorem assemble_sections (source : List Char) (seen : List String) (h : Heading)
    (blocks : List Block) (children : List Section) :
    (assemble source seen h blocks children).sections = children := by
  rw [assemble, settle_sections]

theorem assemble_content (source : List Char) (seen : List String) (h : Heading)
    (blocks : List Block) (children : List Section) :
    (assemble source seen h blocks children).content
      = (blocks.foldl addBlock (opened seen h)).content := by
  rw [assemble, settle_content]

/-- The runs of a complete section hold the section's own blocks. -/
theorem assemble_holdBlocks (source : List Char) (seen : List String) (h : Heading)
    (blocks : List Block) (children : List Section) :
    HoldBlocks (assemble source seen h (own blocks) children).content
      ((own blocks).filter Block.isKept) := by
  rw [assemble_content]
  have hempty : HoldBlocks (opened seen h).content [] := ⟨by simp [opened], rfl⟩
  exact foldl_addBlock_holdBlocks (fun b hb => heading?_eq_none_of_mem_own hb) hempty

/-- The blocks from the first heading on. -/
def fromHeading (blocks : List Block) : List Block :=
  blocks.dropWhile fun b => b.heading?.isNone

theorem own_append_fromHeading (blocks : List Block) :
    own blocks ++ fromHeading blocks = blocks :=
  List.takeWhile_append_dropWhile

theorem fromHeading_beyond (level : Nat) (blocks : List Block) :
    fromHeading (beyond level blocks) = beyond level blocks := by
  rcases beyond_eq_nil_or level blocks with hnil | ⟨h, rest, _, hcons⟩
  · rw [hnil]
    rfl
  · rw [hcons]
    rfl

/-- Reading the sections of some blocks gives the blocks that are kept, from the first
    heading on. -/
theorem blocksOfAll_sectionsOf (source : List Char) (seen : List String)
    (blocks : List Block) :
    blocksOfAll (sectionsOf source seen blocks)
      = (fromHeading blocks).filter Block.isKept := by
  induction blocks using scopeInduction generalizing seen with
  | nil =>
    rw [sectionsOf_nil, blocksOfAll]
    rfl
  | block b rest hb ih =>
    rw [sectionsOf_cons_of_heading?_eq_none hb, ih]
    simp [fromHeading, hb]
  | heading h rest ihscope ihbeyond =>
    have hown := (assemble_holdBlocks source seen h (scope h.level rest)
      (sectionsOf source (see seen (.heading h)) (scope h.level rest))).2
    have hrest : rest.filter Block.isKept
        = (own (scope h.level rest)).filter Block.isKept
          ++ (fromHeading (scope h.level rest)).filter Block.isKept
          ++ (beyond h.level rest).filter Block.isKept := by
      rw [← List.filter_append, ← List.filter_append, own_append_fromHeading,
        scope_append_beyond]
    rw [sectionsOf_cons_heading, blocksOfAll, Section.blocks_eq, assemble_heading,
      assemble_sections, hown, ihscope, ihbeyond, fromHeading_beyond]
    show [Block.heading h] ++ _ ++ _ ++ _ = Block.heading h :: rest.filter Block.isKept
    rw [hrest]
    simp

/-! ## Nesting -/

/-- The place of the last level below `level`, in levels that stand last first. -/
def nearest? : (before : List Nat) → (level : Nat) → Option Nat
  | [], _ => none
  | l :: before, level => if l < level then some before.length else nearest? before level

/-- Headings with the places of the sections that theirs lie below, after headings with
    the levels `before`. -/
def parentsAfter (before : List Nat) : List Heading → List (Option Nat × Option Heading)
  | [] => []
  | h :: rest => (nearest? before h.level, some h) :: parentsAfter (h.level :: before) rest

theorem parentsAfter_length (before : List Nat) (headings : List Heading) :
    (parentsAfter before headings).length = headings.length := by
  induction headings generalizing before with
  | nil => rfl
  | cons h rest ih => rw [parentsAfter, List.length_cons, ih, List.length_cons]

theorem parentsAfter_append (before : List Nat) (first second : List Heading) :
    parentsAfter before (first ++ second)
      = parentsAfter before first
        ++ parentsAfter ((first.map Heading.level).reverse ++ before) second := by
  induction first generalizing before with
  | nil => rfl
  | cons h rest ih =>
    rw [List.cons_append, parentsAfter, ih, parentsAfter, List.cons_append]
    simp

/-- Levels that are not smaller are passed over. -/
theorem nearest?_append_of_le {skipped before : List Nat} {level : Nat}
    (hskipped : ∀ l ∈ skipped, level ≤ l) :
    nearest? (skipped ++ before) level = nearest? before level := by
  induction skipped with
  | nil => rfl
  | cons l skipped ih =>
    rw [List.forall_mem_cons] at hskipped
    rw [List.cons_append, nearest?, if_neg (by omega), ih hskipped.2]

theorem headingsOf_append (first second : List Block) :
    headingsOf (first ++ second) = headingsOf first ++ headingsOf second :=
  List.filterMap_append

theorem headingsOf_cons_heading (h : Heading) (rest : List Block) :
    headingsOf (.heading h :: rest) = h :: headingsOf rest := rfl

theorem headingsOf_cons_of_heading?_eq_none {b : Block} (hb : b.heading? = none)
    (rest : List Block) : headingsOf (b :: rest) = headingsOf rest :=
  List.filterMap_cons_none hb

theorem headingsOf_scope_append_beyond (level : Nat) (blocks : List Block) :
    headingsOf blocks = headingsOf (scope level blocks) ++ headingsOf (beyond level blocks) := by
  rw [← headingsOf_append, scope_append_beyond]

/-- The first heading beyond a scope is the one that ended it. -/
theorem level_le_of_mem_head?_beyond {level : Nat} {blocks : List Block} {g : Heading}
    (hg : g ∈ (headingsOf (beyond level blocks)).head?) : g.level ≤ level := by
  rcases beyond_eq_nil_or level blocks with hnil | ⟨h, rest, hle, hcons⟩
  · rw [hnil] at hg
    simp [headingsOf] at hg
  · rw [hcons, headingsOf_cons_heading] at hg
    obtain rfl : h = g := by simpa using hg
    exact hle

/-- Levels that are not deeper than a heading pass over it and over its scope. -/
theorem nearest?_past_scope {h : Heading} {level : Nat} (hle : level ≤ h.level)
    (rest : List Block) (before : List Nat) :
    nearest? (((headingsOf (scope h.level rest)).map Heading.level).reverse
        ++ h.level :: before) level
      = nearest? before level := by
  have hdeeper : ∀ l ∈ ((headingsOf (scope h.level rest)).map Heading.level).reverse,
      level ≤ l := by
    intro l hl
    obtain ⟨e, he, rfl⟩ := List.mem_map.1 (List.mem_reverse.1 hl)
    have hdeep : h.level < e.level := lt_level_of_mem_scope he
    omega
  have hself : ¬ h.level < level := by omega
  rw [nearest?_append_of_le hdeeper, nearest?, if_neg hself]

/-- Walking over the sections of some blocks, after headings with the levels `before`,
    meets the headings of the blocks, each below its nearest section. The sections at the
    top of the walk are those whose level is not above that of the first one. -/
theorem walkAll_sectionsOf (source : List Char) (seen : List String) (blocks : List Block)
    (parent? : Option Nat) (before : List Nat)
    (htop : ∀ g ∈ (headingsOf blocks).head?, ∀ level ≤ g.level,
      (∃ h ∈ headingsOf blocks, h.level = level) → nearest? before level = parent?) :
    (walkAll parent? before.length (sectionsOf source seen blocks)).map
        (fun entry => (entry.1, entry.2.heading))
      = parentsAfter before (headingsOf blocks) := by
  induction blocks using scopeInduction generalizing seen parent? before with
  | nil =>
    rw [sectionsOf_nil, walkAll]
    rfl
  | block b rest hb ih =>
    rw [headingsOf_cons_of_heading?_eq_none hb] at htop ⊢
    rw [sectionsOf_cons_of_heading?_eq_none hb]
    exact ih seen parent? before htop
  | heading h rest ihscope ihbeyond =>
    have hrest := headingsOf_scope_append_beyond h.level rest
    rw [headingsOf_cons_heading] at htop ⊢
    have hparent : ∀ level ≤ h.level, (∃ g ∈ h :: headingsOf rest, g.level = level) →
        nearest? before level = parent? := htop h rfl
    -- In the scope all headings are deeper than `h`, so those at the top lie below it.
    have hscope := ihscope (see seen (.heading h)) (some before.length) (h.level :: before) (by
      intro g _ level _ ⟨f, hf, hlevel⟩
      have hdeep : h.level < f.level := lt_level_of_mem_scope hf
      rw [nearest?, if_pos (by omega)])
    -- Those beyond the scope lie where `h` lies, since none is deeper than the first of them.
    have hbeyond := ihbeyond ((scope h.level rest).foldl see (see seen (.heading h))) parent?
      (((headingsOf (scope h.level rest)).map Heading.level).reverse ++ h.level :: before) (by
      intro g hg level hle ⟨f, hf, hlevel⟩
      have hfirst : level ≤ h.level := hle.trans (level_le_of_mem_head?_beyond hg)
      have hf : f ∈ headingsOf rest := by
        rw [hrest]
        exact List.mem_append_right _ hf
      rw [nearest?_past_scope hfirst]
      exact hparent level hfirst ⟨f, List.mem_cons_of_mem _ hf, hlevel⟩)
    -- Walking over the scope takes up as many places as there are headings in it.
    have hlength : (walkAll (some before.length) (before.length + 1)
        (sectionsOf source (see seen (.heading h)) (scope h.level rest))).length
          = (headingsOf (scope h.level rest)).length := by
      have heq := congrArg List.length hscope
      rwa [List.length_map, parentsAfter_length, List.length_cons] at heq
    have hplace : before.length + ((headingsOf (scope h.level rest)).length + 1)
        = (((headingsOf (scope h.level rest)).map Heading.level).reverse
            ++ h.level :: before).length := by
      simp only [List.length_append, List.length_reverse, List.length_map, List.length_cons]
      omega
    rw [sectionsOf_cons_heading, walkAll, Section.walk_eq, assemble_sections, List.length_cons,
      hlength, hplace, List.map_append, hbeyond, List.map_cons,
      assemble_heading, ← List.length_cons, hscope, parentsAfter,
      hparent h.level (Nat.le_refl _) ⟨h, List.mem_cons_self, rfl⟩, hrest, parentsAfter_append]
    rfl

/-! ### Places and levels -/

/-- The place found is that of the last smaller level. -/
theorem nearestAbove_of_nearest? (levels : List Nat) (level : Nat) :
    NearestAbove levels levels.length level (nearest? levels.reverse level) := by
  induction levels using List.reverseRecOn with
  | nil => simp [nearest?, NearestAbove]
  | append_singleton levels last ih =>
    rw [List.reverse_append, List.reverse_singleton, List.singleton_append, nearest?]
    by_cases hlt : last < level
    · rw [if_pos hlt, List.length_reverse]
      simp [NearestAbove, hlt]
    · rw [if_neg hlt]
      cases hnearest : nearest? levels.reverse level with
      | none =>
        rw [hnearest] at ih
        simp only [NearestAbove, List.take_length, List.mem_append, List.mem_singleton] at ih ⊢
        rintro other (hother | rfl)
        · exact ih other hother
        · omega
      | some j =>
        rw [hnearest] at ih
        simp only [NearestAbove, List.take_length] at ih ⊢
        obtain ⟨⟨above, habove, hsmaller⟩, hbetween⟩ := ih
        -- The last level is not smaller, so it only adds to those in between.
        have hj : j < levels.length := (List.getElem?_eq_some_iff.1 habove).1
        refine ⟨⟨above, ?_, hsmaller⟩, ?_⟩
        · rw [List.getElem?_append_left hj, habove]
        · intro other hother
          rw [List.drop_append_of_le_length hj, List.mem_append, List.mem_singleton] at hother
          rcases hother with hother | rfl
          · exact hbetween other hother
          · omega

theorem getElem?_parentsAfter {before : List Nat} {headings : List Heading} {k : Nat}
    {entry : Option Nat × Option Heading} (h : (parentsAfter before headings)[k]? = some entry) :
    ∃ g, headings[k]? = some g ∧
      entry = (nearest? (((headings.take k).map Heading.level).reverse ++ before) g.level,
        some g) := by
  induction headings generalizing before k with
  | nil => simp [parentsAfter] at h
  | cons g rest ih =>
    rw [parentsAfter] at h
    cases k with
    | zero => exact ⟨g, rfl, by simpa using h.symm⟩
    | succ k =>
      obtain ⟨f, hf, rfl⟩ := ih (k := k) (by simpa using h)
      exact ⟨f, by simpa using hf, by simp⟩

/-- **Folding keeps the blocks in order and nests them by level.** Reading the outline
    gives the blocks that are kept, from the first heading on. Walking over its sections
    meets one section for each heading, in order, and each lies below the section of the
    nearest heading before its own that has a smaller level. -/
theorem document_reads_and_nests (source : String) (blocks : List Block) :
    blocksOfAll (document source blocks).sections
        = (blocks.dropWhile fun b => b.heading?.isNone).filter Block.isKept ∧
      (walkAll none 0 (document source blocks).sections).length = (headingsOf blocks).length ∧
      ∀ k parent? s, (walkAll none 0 (document source blocks).sections)[k]? = some (parent?, s) →
        ∃ h, (headingsOf blocks)[k]? = some h ∧ s.heading = some h ∧
          NearestAbove ((headingsOf blocks).map Heading.level) k h.level parent? := by
  rw [document_sections]
  have hwalk := walkAll_sectionsOf source.toList [] blocks none [] (fun _ _ _ _ _ => rfl)
  refine ⟨blocksOfAll_sectionsOf source.toList [] blocks, ?_, ?_⟩
  · have hlength := congrArg List.length hwalk
    rwa [List.length_map, parentsAfter_length] at hlength
  · intro k parent? s hs
    have hentry : (parentsAfter [] (headingsOf blocks))[k]? = some (parent?, s.heading) := by
      rw [← hwalk, List.getElem?_map, List.length_nil, hs]
      rfl
    obtain ⟨h, hh, heq⟩ := getElem?_parentsAfter hentry
    obtain ⟨hparent, hheading⟩ := Prod.mk.inj heq
    refine ⟨h, hh, hheading, ?_⟩
    have hk : k ≤ (headingsOf blocks).length :=
      Nat.le_of_lt (List.getElem?_eq_some_iff.1 hh).1
    have hnearest := nearestAbove_of_nearest? (((headingsOf blocks).take k).map Heading.level)
      h.level
    rw [List.append_nil] at hparent
    rw [← hparent, List.length_map, List.length_take, Nat.min_eq_left hk] at hnearest
    -- Only the levels before place `k` matter for what lies above it.
    unfold NearestAbove at hnearest ⊢
    rw [List.map_take, List.take_take, Nat.min_self] at hnearest
    exact hnearest

/-- A level is skipped on the way down: the heading of level 2 comes after one of level 3
    and goes below the one of level 1 before that. -/
theorem skipped_level_nests :
    let h (level : Nat) : Heading := ⟨level, "", Span.zero⟩
    let blocks : List Block :=
      [.other Span.zero, .heading (h 1), .heading (h 3), .paragraph ⟨"text", Span.zero⟩,
        .heading (h 2)]
    ∃ s, (walkAll none 0 (document "" blocks).sections)[2]? = some (some 0, s) ∧
      s.heading = some (h 2) ∧ NearestAbove [1, 3, 2] 2 2 (some 0) := by
  intro h blocks
  have hwalk := (document_reads_and_nests "" blocks).2.2
  obtain ⟨g, hg, hheading, hnearest⟩ := hwalk 2 (some 0) _ rfl
  obtain rfl : h 2 = g := Option.some.inj hg
  exact ⟨_, rfl, hheading, hnearest⟩

end Fold

end Rubric
