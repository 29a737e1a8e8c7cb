/-
  Rubric.Proofs.Outline.Bodies

  The bodies of the sections of an outline.

  The body of a section is the stretch of the source between its heading and its first
  child, or up to its own end if it has none. Its text is what the section shows of
  itself. In an outline of ordered blocks nothing falls between two bodies: with the
  headings and the preamble they follow one another through the source, and every
  block lies in the body of the section that is open where it stands.
-/
import Rubric.Markdown.Blocks
import Rubric.Proofs.Outline.Assembled
import Rubric.Proofs.Outline.Extent
import Rubric.Proofs.Text.Boundary

namespace Rubric

/-! ## Trimmed texts -/

namespace Text

/-- Dropping from the front leaves a part a part. -/
theorem infix_dropWhile {part cs : List Char} (h : part <:+: cs) (p : Char → Bool) :
    part.dropWhile p <:+: cs.dropWhile p := by
  obtain ⟨before, after, rfl⟩ := h
  have hpart : part.dropWhile p <:+: (part ++ after).dropWhile p := by
    rw [List.dropWhile_append]
    split
    next hempty =>
      rw [List.isEmpty_iff.1 hempty]
      exact List.nil_infix
    next => exact (List.prefix_append _ after).isInfix
  rw [List.append_assoc, List.dropWhile_append]
  split
  next => exact hpart
  next =>
    -- What stands before the part is not used up, so all of the part is left.
    have hleft : part.dropWhile p <:+: part ++ after :=
      (List.dropWhile_suffix p).isInfix.trans (List.prefix_append part after).isInfix
    exact hleft.trans (List.suffix_append _ _).isInfix

/-- The trimmed text of a part is a part of the trimmed text. -/
theorem infix_trim {part cs : List Char} (h : part <:+: cs) : trim part <:+: trim cs := by
  have hstart : (trimStart part).reverse <:+: (trimStart cs).reverse :=
    (infix_dropWhile h isBlank).reverse
  exact (infix_dropWhile hstart isBlank).reverse

end Text

/-! ## Bodies -/

/-- Where the body of a section starts and ends: behind its heading, and where its first child
    starts, or where it ends itself if it has no child. -/
def Section.body (s : Section) : Nat × Nat :=
  ((s.heading.map fun h => h.position.stop.offset).getD s.position.start.offset,
    (s.sections.head?.map fun child => child.position.start.offset).getD s.position.stop.offset)

/-- The ranges of a section that are its own: that of its heading and that of its body. -/
def Section.pieces (s : Section) : List (Nat × Nat) :=
  (s.heading.map fun h => h.position.ends).toList ++ [s.body]

namespace Fold

theorem bodyRange_eq (s : Section) : bodyRange s = (s.body.1, max s.body.2 s.body.1) := by
  unfold bodyRange Section.body
  cases s.heading <;> cases s.sections <;> rfl

/-- The text of a complete section is cut from the source where its body is. -/
theorem settle_rawContent (source : List Char) (s : Section) :
    (settle source s).rawContent = String.ofList (Text.trim (Text.slice source
      (settle source s).body.1 (max (settle source s).body.2 (settle source s).body.1))) := by
  unfold settle
  extract_lets settled
  rw [bodyRange_eq]
  rfl

/-- Only the blocks from the first heading on make sections. -/
theorem sectionsOf_fromHeading (source : List Char) (seen : List String) (blocks : List Block) :
    sectionsOf source seen (fromHeading blocks) = sectionsOf source seen blocks := by
  induction blocks with
  | nil => rfl
  | cons b rest ih =>
    cases hb : b.heading? with
    | none =>
      rw [fromHeading_cons_of_heading?_eq_none hb, ih, sectionsOf_cons_of_heading?_eq_none hb]
    | some h =>
      obtain rfl := Block.eq_heading hb
      rfl

/-- From the first heading on there is nothing, or the heading. -/
theorem fromHeading_eq_nil_or (blocks : List Block) :
    fromHeading blocks = [] ∨ ∃ h rest, fromHeading blocks = .heading h :: rest := by
  induction blocks with
  | nil => exact Or.inl rfl
  | cons b rest ih =>
    cases hb : b.heading? with
    | none => rwa [fromHeading_cons_of_heading?_eq_none hb]
    | some h =>
      obtain rfl := Block.eq_heading hb
      exact Or.inr ⟨h, rest, rfl⟩

/-- A scope goes on from its first heading as what it is cut from does. -/
theorem fromHeading_scope (level : Nat) (blocks : List Block) :
    fromHeading (scope level blocks) = scope level (fromHeading blocks) := by
  induction blocks with
  | nil => rfl
  | cons b rest ih =>
    cases hb : b.heading? with
    | none =>
      rw [scope_cons_of_heading?_eq_none hb, fromHeading_cons_of_heading?_eq_none hb,
        fromHeading_cons_of_heading?_eq_none hb, ih]
    | some h =>
      obtain rfl := Block.eq_heading hb
      rcases Nat.lt_or_ge level h.level with hlt | hle
      · rw [fromHeading_cons_heading, scope_cons_heading_of_lt hlt, fromHeading_cons_heading]
      · rw [fromHeading_cons_heading, scope_cons_heading_of_le hle]
        rfl

/-- Where the body of a heading's section ends, by the blocks after the heading: at the first
    heading in the scope, or behind the last block in it. -/
def bodyEnd (h : Heading) (rest : List Block) : Nat :=
  match fromHeading (scope h.level rest) with
  | first :: _ => first.position.start.offset
  | [] => lastEnd h.position.stop.offset ((own rest).map Block.ends)

/-- What holds where the heading ends, and where a block behind it starts or ends, holds where
    the body ends. -/
theorem bodyEnd_induction {p : Nat → Prop} {h : Heading} {rest : List Block}
    (hheading : p h.position.stop.offset)
    (hrest : ∀ b ∈ rest, p b.position.start.offset ∧ p b.position.stop.offset) :
    p (bodyEnd h rest) := by
  unfold bodyEnd
  split
  next first tail hfirst =>
    have hmem : first ∈ fromHeading (scope h.level rest) := hfirst ▸ List.mem_cons_self
    have hscope : first ∈ scope h.level rest := (List.dropWhile_suffix _).subset hmem
    exact (hrest first ((List.takeWhile_prefix _).subset hscope)).1
  next =>
    refine lastEnd_induction hheading fun r hr => ?_
    obtain ⟨b, hb, rfl⟩ := List.mem_map.1 hr
    exact (hrest b ((List.takeWhile_prefix _).subset hb)).2

section
variable {h : Heading} {hi : Nat} {rest : List Block}
  (hblocks : Within h.position.stop.offset hi (rest.map Block.ends))
include hblocks

/-- The body ends behind the section's own blocks, and before the next heading. -/
theorem within_bodyEnd :
    Within h.position.stop.offset (bodyEnd h rest) ((own rest).map Block.ends) ∧
      Within (bodyEnd h rest) hi ((fromHeading rest).map Block.ends) := by
  have hnext := within_fromHeading hblocks
  rw [← own_append_fromHeading rest, List.map_append] at hblocks
  have hown := hblocks.append_left.to_lastEnd
  unfold bodyEnd
  rw [fromHeading_scope]
  rcases fromHeading_eq_nil_or rest with hnil | ⟨g, tail, hcons⟩
  · rw [hnil] at hnext ⊢
    exact ⟨hown, hnext⟩
  · rw [hcons] at hnext ⊢
    rcases Nat.lt_or_ge h.level g.level with hlt | hle
    · -- The body ends where the first child begins, behind the section's own blocks.
      obtain ⟨hbehind, hforward, hrest⟩ := hnext
      rw [scope_cons_heading_of_lt hlt]
      exact ⟨hown.mono (Nat.le_refl _) hbehind, Nat.le_refl _, hforward, hrest⟩
    · rw [scope_cons_heading_of_le hle]
      exact ⟨hown, hnext⟩

/-- The body of a heading's section reaches from the heading to where the scope says. -/
theorem sectionAt_body (source : List Char) (seen : List String)
    (hh : h.position.start.offset ≤ h.position.stop.offset) :
    (sectionAt source seen h rest).body = (h.position.stop.offset, bodyEnd h rest) := by
  have hstop := (sectionAt_extent source seen hh hblocks).2
  unfold Section.body bodyEnd
  rw [sectionAt_heading, sectionAt_sections]
  refine Prod.ext rfl ?_
  rcases fromHeading_eq_nil_or (scope h.level rest) with hnil | ⟨g, tail, hcons⟩
  · -- Without a heading in it the scope is made of the section's own blocks.
    have hown : scope h.level rest = own rest := by
      rw [← own_append_fromHeading (scope h.level rest), hnil, own_scope, List.append_nil]
    rw [← sectionsOf_fromHeading, hnil, sectionsOf_nil]
    rwa [hown] at hstop
  · rw [← scope_append_beyond h.level rest, List.map_append] at hblocks
    have hbelow := within_fromHeading hblocks.append_left
    rw [hcons] at hbelow
    obtain ⟨-, hg, htail⟩ := hbelow
    have hstart := (sectionAt_extent source (see seen (.heading h)) hg htail).1
    rw [← sectionsOf_fromHeading, hcons, sectionsOf_cons_heading]
    exact congrArg Point.offset hstart

end

/-! ## One after another -/

/-- The headings and bodies of the sections follow one another where the blocks stand. -/
theorem within_pieces_assembled (source : List Char) (seen : List String) {lo hi : Nat}
    {blocks : List Block} (hblocks : Within lo hi ((fromHeading blocks).map Block.ends)) :
    Within lo hi ((assembled source seen blocks).flatMap Section.pieces) := by
  induction blocks generalizing seen lo with
  | nil => exact hblocks
  | cons b rest ih =>
    cases hb : b.heading? with
    | none =>
      rw [fromHeading_cons_of_heading?_eq_none hb] at hblocks
      rw [assembled_cons_of_heading?_eq_none source seen hb]
      exact ih seen hblocks
    | some h =>
      obtain rfl := Block.eq_heading hb
      rw [fromHeading_cons_heading] at hblocks
      obtain ⟨hlo, hh, hrest⟩ := hblocks
      obtain ⟨hown, hnext⟩ := within_bodyEnd hrest
      rw [assembled_cons_heading, List.flatMap_cons, Section.pieces, sectionAt_heading,
        sectionAt_body hrest source seen hh]
      -- The heading, its body, and then what the next heading begins.
      exact ⟨hlo, hh, Nat.le_refl _, hown.le, ih (see seen (.heading h)) hnext⟩

/-- The range of the blocks before the first heading. -/
def preambleRange? (blocks : List Block) : Option (Nat × Nat) :=
  hull? ((own blocks).map Block.ends)

/-- Once a section is open, blocks leave the preamble alone. -/
theorem foldl_step_preamble_of_stack (source : List Char) {state : State}
    (hstack : state.stack ≠ []) (blocks : List Block) :
    (blocks.foldl (step source) state).preamble = state.preamble := by
  induction blocks generalizing state with
  | nil => rfl
  | cons b rest ih =>
    cases hb : b.heading? with
    | none =>
      obtain ⟨top, stack, htop⟩ := List.exists_cons_of_ne_nil hstack
      have hstep : step source state b
          = { state with stack := { top with body := addBlock top.body b } :: stack } := by
        rw [step_of_heading?_eq_none hb, htop]
      rw [List.foldl_cons, hstep, ih]
      simp
    | some h =>
      obtain rfl := Block.eq_heading hb
      rw [List.foldl_cons, ih]
      · rfl
      · simp [step]

/-- As long as no section is open, the preamble is carried along. -/
theorem foldl_step_preamble_of_some (source : List Char) {state : State} {span : Span} {hi : Nat}
    (hstack : state.stack = []) (hspan : state.preamble = some span)
    (hforward : span.start.offset ≤ span.stop.offset) {blocks : List Block}
    (hblocks : Within span.stop.offset hi (blocks.map Block.ends)) :
    (blocks.foldl (step source) state).preamble.map Span.ends
      = some (span.start.offset, lastEnd span.stop.offset ((own blocks).map Block.ends)) := by
  induction blocks generalizing state span with
  | nil =>
    rw [List.foldl_nil, hspan]
    rfl
  | cons b rest ih =>
    cases hb : b.heading? with
    | none =>
      obtain ⟨hlo, hb', hrest⟩ := hblocks
      have hclosed : (step source state b).stack = [] := by
        rw [step_of_heading?_eq_none hb, hstack]
      have hgrown : (step source state b).preamble = some (span.cover b.position) := by
        rw [step_of_heading?_eq_none hb, hstack, hspan]
      have hstart : (span.cover b.position).start.offset = span.start.offset := by
        rw [Span.cover_start_offset]
        exact min_eq_left (hforward.trans hlo)
      have hstop : (span.cover b.position).stop.offset = b.ends.2 := by
        rw [Span.cover_stop_offset]
        exact max_eq_right (hlo.trans hb')
      have hcover : (span.cover b.position).start.offset
          ≤ (span.cover b.position).stop.offset := by
        rw [hstart, hstop]
        exact (hforward.trans hlo).trans hb'
      rw [← hstop] at hrest
      rw [List.foldl_cons, ih hclosed hgrown hcover hrest, hstart, hstop,
        own_cons_of_heading?_eq_none hb, List.map_cons, lastEnd_cons]
    | some h =>
      obtain rfl := Block.eq_heading hb
      have hopen : (step source state (.heading h)).stack ≠ [] := by simp [step]
      rw [List.foldl_cons, foldl_step_preamble_of_stack source hopen, own_cons_heading]
      show state.preamble.map Span.ends = _
      rw [hspan]
      rfl

/-- The preamble reaches from the first to the last block before the first heading. -/
theorem foldl_step_preamble (source : List Char) {hi : Nat} {blocks : List Block}
    (hblocks : Within 0 hi (blocks.map Block.ends)) :
    (blocks.foldl (step source) {}).preamble.map Span.ends = preambleRange? blocks := by
  cases blocks with
  | nil => rfl
  | cons b rest =>
    obtain ⟨-, hforward, hrest⟩ := hblocks
    cases hb : b.heading? with
    | none =>
      have hstep : step source {} b = { ({} : State) with preamble := some b.position } := by
        rw [step_of_heading?_eq_none hb]
      rw [List.foldl_cons, hstep, foldl_step_preamble_of_some source rfl rfl hforward hrest,
        preambleRange?, own_cons_of_heading?_eq_none hb]
      rfl
    | some h =>
      obtain rfl := Block.eq_heading hb
      have hopen : (step source {} (.heading h)).stack ≠ [] := by simp [step]
      rw [List.foldl_cons, foldl_step_preamble_of_stack source hopen]
      rfl

theorem document_preamble (source : String) {hi : Nat} {blocks : List Block}
    (hblocks : Within 0 hi (blocks.map Block.ends)) :
    (document source blocks).preamble
      = ((preambleRange? blocks).map fun range =>
          String.ofList (Text.slice source.toList range.1 range.2)).getD "" := by
  rw [← foldl_step_preamble source.toList hblocks]
  unfold document
  extract_lets text state
  cases state.preamble <;> rfl

/-! ## Open sections -/

/-- The heading of the innermost section that is open after some blocks. -/
def openHeading? (source : String) (blocks : List Block) : Option Heading :=
  (blocks.foldl (step source.toList) {}).stack.head?.bind fun top => top.body.heading

theorem addBlock_heading (s : Section) (block : Block) :
    (addBlock s block).heading = s.heading :=
  foldl_addBlock_heading s [block]

/-- The innermost open section stays open as long as no heading comes. -/
theorem foldl_step_open (source : List Char) {state : State} {top : Open} {stack : List Open}
    (hstack : state.stack = top :: stack) {blocks : List Block}
    (hblocks : ∀ b ∈ blocks, b.heading? = none) :
    ((blocks.foldl (step source) state).stack.head?.bind fun top => top.body.heading)
      = top.body.heading := by
  induction blocks generalizing state top with
  | nil =>
    rw [List.foldl_nil, hstack]
    rfl
  | cons b rest ih =>
    rw [List.forall_mem_cons] at hblocks
    have hstep : (step source state b).stack
        = { top with body := addBlock top.body b } :: stack := by
      rw [step_of_heading?_eq_none hblocks.1, hstack]
    rw [List.foldl_cons, ih hstep hblocks.2, addBlock_heading]

/-- After a heading its section is the innermost open one up to the next heading. -/
theorem openHeading?_append_heading (source : String) (before : List Block) (h : Heading)
    {blocks : List Block} (hblocks : ∀ b ∈ blocks, b.heading? = none) :
    openHeading? source (before ++ .heading h :: blocks) = some h := by
  unfold openHeading?
  rw [List.foldl_append, List.foldl_cons]
  generalize before.foldl (step source.toList) {} = state
  have hstack : (step source.toList state (.heading h)).stack
      = ⟨h.level, opened state.seen h⟩
        :: (closeFrom source.toList h.level state.done none state.stack).2 := rfl
  exact foldl_step_open source.toList hstack hblocks

/-- Where there is a heading there is a last one. -/
theorem exists_last_heading {blocks : List Block} (hblocks : headingsOf blocks ≠ []) :
    ∃ before h after, blocks = before ++ .heading h :: after ∧
      ∀ b ∈ after, b.heading? = none := by
  induction blocks using List.reverseRecOn with
  | nil => exact absurd rfl hblocks
  | append_singleton blocks b ih =>
    cases hb : b.heading? with
    | some h =>
      obtain rfl := Block.eq_heading hb
      exact ⟨blocks, h, [], rfl, by simp⟩
    | none =>
      rw [headingsOf_append, headingsOf_cons_of_heading?_eq_none hb] at hblocks
      obtain ⟨before, h, after, rfl, hafter⟩ := ih (by simpa [headingsOf] using hblocks)
      refine ⟨before, h, after ++ [b], by simp, ?_⟩
      exact List.forall_mem_append.2 ⟨hafter, List.forall_mem_singleton.2 hb⟩

/-! ## Blocks of a source -/

/-- Blocks as they can stand in a source: none is empty, they are in order, and they start and
    end at characters. -/
structure IsLayout (source : List Char) (blocks : List Block) : Prop where
  nonempty : ∀ b ∈ blocks, b.position.start.offset < b.position.stop.offset
  inOrder : InOrder (blocks.map Block.ends)
  boundary : ∀ b ∈ blocks, Text.Boundary source b.position.start.offset ∧
    Text.Boundary source b.position.stop.offset

/-- A section shows the trimmed text of its body, which is a range of whole characters. -/
theorem sectionAt_rawContent {source : List Char} (seen : List String) {h : Heading} {hi : Nat}
    {rest : List Block} (hh : h.position.start.offset ≤ h.position.stop.offset)
    (hrest : Within h.position.stop.offset hi (rest.map Block.ends))
    (hheading : Text.Boundary source h.position.stop.offset)
    (hblocks : ∀ b ∈ rest, Text.Boundary source b.position.start.offset ∧
      Text.Boundary source b.position.stop.offset) :
    ∃ text, Text.slice? source h.position.stop.offset (bodyEnd h rest) = some text ∧
      (sectionAt source seen h rest).rawContent = String.ofList (Text.trim text) := by
  have hforward := (within_bodyEnd hrest).1.le
  obtain ⟨text, htext⟩ :=
    Text.exists_slice? hheading (bodyEnd_induction hheading hblocks) hforward
  have hraw := settle_rawContent source { (own (scope h.level rest)).foldl addBlock
    (opened seen h) with
      sections := sectionsOf source (see seen (.heading h)) (scope h.level rest) }
  have hbody := sectionAt_body hrest source seen hh
  unfold sectionAt assemble at hbody
  rw [hbody, max_eq_left hforward, Text.slice, htext] at hraw
  exact ⟨text, htext, hraw⟩

/-- A block behind a heading, with no other heading in between, lies in the body. -/
theorem le_bodyEnd_of_split {h : Heading} {hi : Nat} {between after : List Block} {b : Block}
    (hrest : Within h.position.stop.offset hi ((between ++ b :: after).map Block.ends))
    (hbetween : ∀ b ∈ between, b.heading? = none) (hb : b.heading? = none) :
    h.position.stop.offset ≤ b.position.start.offset ∧
      b.position.stop.offset ≤ bodyEnd h (between ++ b :: after) := by
  have hown : b ∈ own (between ++ b :: after) := by
    rw [own, List.takeWhile_append_of_pos fun c hc => by rw [hbetween c hc]; rfl]
    exact List.mem_append_right _ (by simp [hb])
  obtain ⟨hstart, -, hstop⟩ := (within_bodyEnd hrest).1.of_mem (List.mem_map_of_mem hown)
  exact ⟨hstart, hstop⟩

/-- Of items with ranges in order at most one has a range around another that is not empty. -/
theorem index_unique_of_pairwise {α : Type} {range : α → Nat × Nat} {items : List α}
    (hitems : items.Pairwise fun a b => (range a).2 ≤ (range b).1) {start stop : Nat}
    (hlt : start < stop) {j k : Nat} {a b : α} (ha : items[j]? = some a) (hb : items[k]? = some b)
    (hina : (range a).1 ≤ start ∧ stop ≤ (range a).2)
    (hinb : (range b).1 ≤ start ∧ stop ≤ (range b).2) : j = k := by
  rw [List.pairwise_iff_getElem] at hitems
  obtain ⟨hj, rfl⟩ := List.getElem?_eq_some_iff.1 ha
  obtain ⟨hk, rfl⟩ := List.getElem?_eq_some_iff.1 hb
  rcases Nat.lt_trichotomy j k with hjk | hjk | hkj
  · have hapart := hitems j k hj hk hjk
    omega
  · exact hjk
  · have hapart := hitems k j hk hj hkj
    omega

section
variable {source : String} {blocks : List Block} (hblocks : IsLayout source.toList blocks)
include hblocks

/-- The preamble, the headings and the bodies follow one another. -/
theorem IsLayout.within_ranges :
    Within 0 (lastEnd 0 (blocks.map Block.ends)) ((preambleRange? blocks).toList
      ++ (assembled source.toList [] blocks).flatMap Section.pieces) := by
  have hall := hblocks.inOrder.within
  have hnext := within_pieces_assembled source.toList [] (within_fromHeading hall)
  rw [← own_append_fromHeading blocks, List.map_append] at hall
  have hpreamble := hall.append_left.to_lastEnd.toList_hull?
  exact within_append.2 ⟨_, hpreamble, hnext⟩

theorem IsLayout.rawContent_of_mem_assembled {s : Section}
    (hs : s ∈ assembled source.toList [] blocks) :
    s.heading.isSome ∧ ∃ text, Text.slice? source.toList s.body.1 s.body.2 = some text ∧
      s.rawContent = String.ofList (Text.trim text) := by
  obtain ⟨k, hk⟩ := List.mem_iff_getElem?.1 hs
  obtain ⟨before, h, rest, rfl, -, rfl⟩ := getElem?_assembled source.toList [] hk
  obtain ⟨hh, hrest⟩ := within_after_heading hblocks.inOrder.within
  rw [sectionAt_heading, sectionAt_body hrest source.toList _ hh]
  refine ⟨rfl, sectionAt_rawContent _ hh hrest ?_ ?_⟩
  · exact (hblocks.boundary (.heading h) (by simp)).2
  · exact fun b hb => hblocks.boundary b (by simp [hb])

/-- A block after the first heading lies in the body of the section of the last heading before
    it, and the section shows its text. -/
theorem IsLayout.exists_section_of_split {before after : List Block} {b : Block}
    (hsplit : blocks = before ++ b :: after) (hb : b.heading? = none)
    (hbefore : headingsOf before ≠ []) :
    ∃ (k : Nat) (s : Section) (h : Heading) (text : List Char),
      (assembled source.toList [] blocks)[k]? = some s ∧ s.heading = some h ∧
      openHeading? source before = some h ∧
      (s.body.1 ≤ b.position.start.offset ∧ b.position.stop.offset ≤ s.body.2) ∧
      Text.slice? source.toList b.position.start.offset b.position.stop.offset = some text ∧
      Text.trim text <:+: s.rawContent.toList := by
  obtain ⟨first, h, between, rfl, hbetween⟩ := exists_last_heading hbefore
  rw [List.append_assoc, List.cons_append] at hsplit
  have hall := hblocks.inOrder.within
  rw [hsplit] at hall
  obtain ⟨hh, hrest⟩ := within_after_heading hall
  have hplace := getElem?_assembled_append source.toList [] first h (between ++ b :: after)
  rw [← hsplit] at hplace
  have hbody := sectionAt_body hrest source.toList (first.foldl see []) hh
  have hinside := le_bodyEnd_of_split hrest hbetween hb
  -- What the section shows is the text of its body, so the block's text is part of it.
  obtain ⟨-, shown, hshown, hraw⟩ :=
    hblocks.rawContent_of_mem_assembled (List.mem_of_getElem? hplace)
  rw [hbody] at hshown
  obtain ⟨hstart, hstop⟩ := hblocks.boundary b (by simp [hsplit])
  obtain ⟨text, htext⟩ :=
    Text.exists_slice? hstart hstop (hblocks.nonempty b (by simp [hsplit])).le
  refine ⟨_, _, h, text, hplace, sectionAt_heading _ _ h _,
    openHeading?_append_heading source first h hbetween, ?_, htext, ?_⟩
  · rw [hbody]
    exact hinside
  · rw [hraw, String.toList_ofList]
    exact Text.infix_trim (Text.slice?_infix htext hshown hinside.1 hinside.2)

end

/-- **The bodies of an outline partition the source.** Each section shows the trimmed text of
    its body. The preamble, the headings and the bodies follow one another without
    overlapping. And every block after the first heading that is none itself lies in the body
    of exactly one section, the innermost one that is open where the block stands, and its
    trimmed text is part of what that section shows. -/
theorem bodies_partition_source {source : String} {blocks : List Block}
    (hblocks : IsLayout source.toList blocks) :
    let sections : List Section := (walkAll none 0 (document source blocks).sections).map Prod.snd
    let ranges := (preambleRange? blocks).toList ++ sections.flatMap Section.pieces
    (∀ s ∈ sections, s.heading.isSome ∧
      ∃ text, Text.slice? source.toList s.body.1 s.body.2 = some text ∧
        s.rawContent = String.ofList (Text.trim text)) ∧
    (document source blocks).preamble
      = ((preambleRange? blocks).map fun range =>
          String.ofList (Text.slice source.toList range.1 range.2)).getD "" ∧
    (∀ range ∈ ranges, range.1 ≤ range.2) ∧ ranges.Pairwise (fun a b => a.2 ≤ b.1) ∧
    ∀ before b after, blocks = before ++ b :: after → b.heading? = none →
      headingsOf before ≠ [] →
        ∃ (k : Nat) (s : Section) (h : Heading) (text : List Char),
          sections[k]? = some s ∧ s.heading = some h ∧ openHeading? source before = some h ∧
          (∀ j t, sections[j]? = some t →
            (t.body.1 ≤ b.position.start.offset ∧ b.position.stop.offset ≤ t.body.2 ↔ j = k)) ∧
          Text.slice? source.toList b.position.start.offset b.position.stop.offset = some text ∧
          Text.trim text <:+: s.rawContent.toList := by
  intro sections ranges
  have hsections : sections = assembled source.toList [] blocks := by
    show (walkAll none 0 (document source blocks).sections).map Prod.snd = _
    rw [document_sections, map_snd_walkAll_sectionsOf]
  have hranges : Within 0 (lastEnd 0 (blocks.map Block.ends)) ranges := by
    show Within 0 _ ((preambleRange? blocks).toList ++ sections.flatMap Section.pieces)
    rw [hsections]
    exact hblocks.within_ranges
  refine ⟨?_, document_preamble source hblocks.inOrder.within, ?_, hranges.pairwise, ?_⟩
  · intro s hs
    rw [hsections] at hs
    exact hblocks.rawContent_of_mem_assembled hs
  · exact fun range hrange => (hranges.of_mem hrange).2.1
  · intro before b after hsplit hb hbefore
    obtain ⟨k, s, h, text, hs, hheading, hopen, hinside, htext, hshown⟩ :=
      hblocks.exists_section_of_split hsplit hb hbefore
    rw [← hsections] at hs
    have hnonempty := hblocks.nonempty b (by simp [hsplit])
    have hbodies : sections.Pairwise fun s t => s.body.2 ≤ t.body.1 := by
      have hpairs := (List.pairwise_append.1 hranges.pairwise).2.1
      refine (List.pairwise_flatMap.1 hpairs).2.imp fun happart => ?_
      exact happart _ (by simp [Section.pieces]) _ (by simp [Section.pieces])
    refine ⟨k, s, h, text, hs, hheading, hopen, ?_, htext, hshown⟩
    intro j t ht
    constructor
    · intro hinsidet
      exact index_unique_of_pairwise hbodies hnonempty ht hs hinsidet hinside
    · rintro rfl
      obtain rfl : s = t := Option.some.inj (hs.symm.trans ht)
      exact hinside

/-- A quote behind a heading of level 2 is shown there, and not under the heading above. -/
theorem quote_lies_in_innermost_body :
    let text := "Intro.\n\n# A\n\nOne.\n\n## B\n\n> Quoted.\n\n# C\n"
    let sections := (walkAll none 0 (Markdown.outline text).sections).map Prod.snd
    IsLayout text.toList (Markdown.blocks text) ∧
      sections.map Section.body = [(11, 19), (23, 34), (39, 39)] ∧
      ∃ s, sections[1]? = some s ∧ openHeading? text ((Markdown.blocks text).take 4) = s.heading ∧
        "> Quoted.".toList <:+: s.rawContent.toList ∧
        ∀ j t, sections[j]? = some t → (t.body.1 ≤ 25 ∧ 34 ≤ t.body.2 ↔ j = 1) := by
  intro text sections
  have hlayout : IsLayout text.toList (Markdown.blocks text) := by
    refine ⟨?_, ?_, ?_⟩
    · decide +kernel
    · decide +kernel
    · decide +kernel
  have hbodies : sections.map Section.body = [(11, 19), (23, 34), (39, 39)] := by decide +kernel
  have hsplit : Markdown.blocks text = (Markdown.blocks text).take 4
      ++ .other ⟨⟨9, 1, 25⟩, ⟨9, 10, 34⟩⟩ :: (Markdown.blocks text).drop 5 := by decide +kernel
  obtain ⟨k, s, h, shown, hs, hheading, hopen, honly, hshown, hpart⟩ :=
    (bodies_partition_source hlayout).2.2.2.2 _ _ _ hsplit rfl (by decide +kernel)
  have hbody : (sections.map Section.body)[1]? = some (23, 34) := by rw [hbodies]; rfl
  rw [List.getElem?_map] at hbody
  obtain ⟨inner, hinner, hrange⟩ := Option.map_eq_some_iff.1 hbody
  obtain rfl : 1 = k := (honly 1 inner hinner).1 (by rw [hrange]; decide)
  have hquote : Text.slice? text.toList 25 34 = some "> Quoted.".toList := by decide +kernel
  obtain rfl : shown = "> Quoted.".toList := Option.some.inj (hshown.symm.trans hquote)
  exact ⟨hlayout, hbodies, s, hs, hopen.trans hheading.symm, hpart, honly⟩

end Fold

end Rubric
