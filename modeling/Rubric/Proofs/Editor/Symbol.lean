/-
  Rubric.Proofs.Editor.Symbol

  The outline that an editor shows is a legal tree.

  An entry stands for one section, so the entries have the order and the nesting
  of the sections. Their ranges lie in an editor as the spans of the sections lie
  in the source: places keep their order on the way. The texts of headings are
  trimmed, so one that is not empty has a character that is not blank; an empty
  one is shown by the id of its section, which begins with a letter.
-/
import Rubric.Editor.Symbol
import Rubric.Proofs.Editor.Position
import Rubric.Proofs.Markdown.Boundary
import Rubric.Proofs.Markdown.Outline
import Rubric.Proofs.Outline.Ids
import Rubric.Proofs.Outline.Inside
import Rubric.Proofs.Outline.Nesting

namespace Rubric

/-! ## Texts that show -/

/-- The text is empty, or not all of it is blank. -/
def Text.IsTight (cs : List Char) : Prop :=
  cs.all isBlank = true → cs = []

/-- A text without blanks at its end is not made of blanks. -/
theorem Text.trimEnd_isTight (cs : List Char) : IsTight (trimEnd cs) := by
  intro hall
  rw [trimEnd, dropWhileEnd, List.all_reverse, List.all_eq_true] at hall
  have hnil : (cs.reverse.dropWhile isBlank).dropWhile isBlank = [] :=
    List.dropWhile_eq_nil_iff.2 hall
  rw [List.dropWhile_idempotent] at hnil
  rw [trimEnd, dropWhileEnd, hnil, List.reverse_nil]

namespace Markdown

theorem Content.normalizeLines_isTight (cs : List Char) :
    Text.IsTight (normalizeLines cs) :=
  Text.trimEnd_isTight _

theorem Content.stripClosing_isTight (cs : List Char) : Text.IsTight (stripClosing cs) := by
  have htrimmed : Text.IsTight (Text.trim cs) := Text.trimEnd_isTight _
  unfold stripClosing
  extract_lets trimmed before
  split
  · exact htrimmed
  split
  · exact fun _ => rfl
  split
  · exact Text.trimEnd_isTight before
  · exact htrimmed

end Markdown

/-- A block that is a heading has a text that is empty or shows something. -/
def Block.IsTight (block : Block) : Prop :=
  ∀ h ∈ block.heading?, Text.IsTight h.content.toList

theorem Markdown.Node.block?_isTight (source : List Char) (node : Node) :
    ∀ b ∈ (node.block? source).toList, b.IsTight := by
  intro b hb
  rw [Option.mem_toList] at hb
  cases node with
  | item bullet children range => simp [block?] at hb
  | blank range => simp [block?] at hb
  | heading form level text range =>
    obtain rfl := Option.some.inj hb
    rintro _ ⟨⟩
    rw [String.toList_ofList]
    cases form with
    | marked => exact Content.stripClosing_isTight _
    | underlined => exact Content.normalizeLines_isTight _
  | other range =>
    unfold block? at hb
    simp only at hb
    split at hb
    · obtain rfl := Option.some.inj hb
      rintro _ ⟨⟩
    · simp at hb
  | _ =>
    obtain rfl := Option.some.inj hb
    rintro _ ⟨⟩

/-- The headings among the blocks of nodes have texts that are empty or show something. -/
theorem Markdown.Node.headingsOf_blocks_areTight (source : List Char) (nodes : List Node) :
    ∀ h ∈ headingsOf (blocks source none nodes), Text.IsTight h.content.toList := by
  intro h hh
  obtain ⟨block, hblock, hheading⟩ := List.mem_filterMap.1 hh
  have htight := (blocks_make source nodes).forall_mem (p := fun _ => True) (q := Block.IsTight)
    (fun node _ => block?_isTight source node) (fun _ _ _ _ => nofun)
    (fun _ _ => trivial) block hblock
  exact htight h hheading

/-! ## Sections of an outline -/

/-- A section below one among some sections is among them. -/
theorem Section.Among.child {s child : Section} {sections : List Section}
    (h : s.Among sections) (hchild : child ∈ s.sections) : child.Among sections := by
  induction h with
  | top hs => exact .nested hs (.top hchild)
  | nested hparent _ ih => exact .nested hparent ih

/-- If nothing is misplaced below some sections, nothing is below those among them. -/
theorem Section.Among.misplaced?_eq_none {s : Section} {sections : List Section}
    (h : s.Among sections) (hplaced : ∀ t ∈ sections, t.misplaced? = none) :
    s.misplaced? = none := by
  induction h with
  | top hs => exact hplaced _ hs
  | nested hparent _ ih =>
    obtain ⟨hchildren, -⟩ := Section.misplaced?_eq_none_iff.1 (hplaced _ hparent)
    exact ih fun t ht => (hchildren t ht).2

/-- Forward sections that each end before the next one starts all end before later ones. -/
theorem pairwise_endsBefore {sections : List Section}
    (hchain : sections.IsChain Section.EndsBefore) (hforward : ∀ s ∈ sections, s.IsForward) :
    sections.Pairwise Section.EndsBefore := by
  rw [List.pairwise_iff_getElem]
  intro i j hi hj hij
  exact endsBefore_of_isChain hchain hij (List.getElem?_eq_getElem hi)
    (List.getElem?_eq_getElem hj) fun k z _ _ hz => hforward z (List.mem_of_getElem? hz)

/-- Walking over sections meets these sections and those below them. -/
theorem among_of_mem_walkAll : ∀ {sections : List Section} {parent? : Option Nat} {place : Nat}
    {entry : Option Nat × Section}, entry ∈ walkAll parent? place sections →
      entry.2.Among sections
  | [], _, _, _, h => by simp [walkAll] at h
  | ⟨id, heading, paragraphs, codeBlocks, lists, content, sections, position, raw⟩ :: rest,
      parent?, place, entry, h => by
    rw [walkAll, List.mem_append, Section.walk, List.mem_cons] at h
    rcases h with (rfl | hbelow) | hrest
    · exact .top List.mem_cons_self
    · exact .nested List.mem_cons_self (among_of_mem_walkAll hbelow)
    · exact (among_of_mem_walkAll hrest).mono (List.subset_cons_self _ _)
termination_by sections => sizeOf sections

/-- The text of the heading of a section, or the id of the section if that text is empty. -/
def Section.title (s : Section) (heading : Heading) : String :=
  if heading.content.isEmpty then s.id else heading.content

theorem Slug.numbered_shows {slug : String} (h : slug.toList.all Text.isBlank = false) (n : Nat) :
    (numbered slug n).toList.all Text.isBlank = false := by
  cases n with
  | zero => exact h
  | succ n => rw [toList_numbered (Nat.succ_pos n), List.all_append, h, Bool.false_and]

namespace Fold

/-- The sections of a walk have the headings of the blocks in order, each with its slug,
    numbered, as the id. -/
theorem getElem?_walkAll_document {source : String} {blocks : List Block} {k : Nat}
    {parent? : Option Nat} {s : Section}
    (h : (walkAll none 0 (document source blocks).sections)[k]? = some (parent?, s)) :
    ∃ heading, (headingsOf blocks)[k]? = some heading ∧ s.heading = some heading ∧
      ∃ n, s.id = Slug.numbered (Slug.ofHeading heading.content) n := by
  rw [document_sections] at h
  have hheadings := congrArg (·[k]?)
    (walkAll_sectionsOf source.toList [] blocks none [] (fun _ _ _ _ _ => rfl))
  have hids := congrArg (·[k]?) (walkAll_ids source.toList [] blocks none 0)
  simp only [List.getElem?_map, List.length_nil, h, Option.map_some] at hheadings hids
  obtain ⟨heading, hheading, hentry⟩ := getElem?_parentsAfter hheadings.symm
  rw [Slug.getElem?_ids, headingTexts, List.getElem?_map, List.getElem?_map, hheading] at hids
  exact ⟨heading, hheading, (Prod.mk.inj hentry).2, _, Option.some.inj hids⟩

theorem length_walkAll_document (source : String) (blocks : List Block) :
    (walkAll none 0 (document source blocks).sections).length = (headingsOf blocks).length := by
  have hwalk := congrArg List.length
    (walkAll_sectionsOf source.toList [] blocks none [] (fun _ _ _ _ _ => rfl))
  rwa [List.length_map, parentsAfter_length, ← document_sections] at hwalk

/-- If the texts of the headings are empty or show something, all titles show something. -/
theorem title_shows {source : String} {blocks : List Block}
    (htight : ∀ h ∈ headingsOf blocks, Text.IsTight h.content.toList) {k : Nat}
    {parent? : Option Nat} {s : Section}
    (h : (walkAll none 0 (document source blocks).sections)[k]? = some (parent?, s))
    {heading : Heading} (hheading : s.heading = some heading) :
    (s.title heading).toList.all Text.isBlank = false := by
  obtain ⟨_, hmem, hsame, n, hid⟩ := getElem?_walkAll_document h
  obtain rfl := Option.some.inj (hheading.symm.trans hsame)
  unfold Section.title
  split
  next hempty =>
    -- The slug of no text is a word.
    rw [hid, String.isEmpty_iff.1 hempty]
    exact Slug.numbered_shows (by decide +kernel) n
  next hfull =>
    rw [← Bool.not_eq_true]
    intro hall
    have hnil := htight heading (List.mem_of_getElem? hmem) hall
    exact hfull (String.isEmpty_iff.2 (String.toList_eq_nil_iff.1 hnil))

end Fold

namespace Editor

/-! ## Entries in reading order -/

mutual

/-- An entry and those below it in reading order, each with the place of its parent.
    The entry itself has place `place`, and its parent has place `parent?`. -/
def Symbol.walk (parent? : Option Nat) (place : Nat) : Symbol → List (Option Nat × Symbol)
  | ⟨name, level, range, selection, children⟩ =>
    (parent?, ⟨name, level, range, selection, children⟩)
      :: walkSymbols (some place) (place + 1) children

/-- Some entries and those below them in reading order. -/
def walkSymbols (parent? : Option Nat) (place : Nat) : List Symbol → List (Option Nat × Symbol)
  | [] => []
  | e :: rest =>
    e.walk parent? place ++ walkSymbols parent? (place + (e.walk parent? place).length) rest

end

/-- The entry shows a section with a heading. -/
structure Symbol.Shows (source : String) (e : Symbol) (s : Section) (heading : Heading) :
    Prop where
  headed : s.heading = some heading
  name : e.name = s.title heading
  level : e.level = heading.level
  range : e.range = .ofSpan source s.position
  selection : e.selection = .ofSpan source heading.position
  children : e.children = symbolsOf source s.sections

section
variable {source : String}

theorem Symbol.shows_of_ofSection {s : Section} {e : Symbol} (h : ofSection source s = some e) :
    ∃ heading, e.Shows source s heading := by
  obtain ⟨id, heading, paragraphs, codeBlocks, lists, content, sections, position, raw⟩ := s
  cases heading with
  | none =>
    rw [ofSection] at h
    cases h
  | some heading =>
    rw [ofSection] at h
    obtain rfl := Option.some.inj h
    exact ⟨heading, rfl, rfl, rfl, rfl, rfl, rfl⟩

theorem symbolsOf_eq_filterMap (sections : List Section) :
    symbolsOf source sections = sections.filterMap (Symbol.ofSection source) := by
  induction sections with
  | nil => rw [symbolsOf, List.filterMap_nil]
  | cons s rest ih =>
    rw [symbolsOf, ih]
    cases hs : Symbol.ofSection source s with
    | none => rw [List.filterMap_cons_none hs]
    | some e => rw [List.filterMap_cons_some hs]

/-- Where all sections have headings, walking over their entries is walking over them. -/
theorem walkSymbols_symbolsOf : ∀ {sections : List Section} {parent? : Option Nat} {place : Nat},
    (∀ entry ∈ walkAll parent? place sections, entry.2.heading.isSome) →
    (walkSymbols parent? place (symbolsOf source sections)).map (fun x => (x.1, some x.2))
      = (walkAll parent? place sections).map fun x => (x.1, Symbol.ofSection source x.2)
  | [], _, _, _ => by rw [symbolsOf, walkSymbols, walkAll, List.map_nil, List.map_nil]
  | ⟨id, none, paragraphs, codeBlocks, lists, content, sections, position, raw⟩ :: rest,
      parent?, place, h => by
    rw [walkAll, Section.walk] at h
    exact absurd (h _ List.mem_cons_self) (by simp)
  | ⟨id, some heading, paragraphs, codeBlocks, lists, content, sections, position, raw⟩ :: rest,
      parent?, place, h => by
    rw [walkAll, List.forall_mem_append, Section.walk, List.forall_mem_cons] at h
    obtain ⟨⟨-, hbelow⟩, hrest⟩ := h
    have hinner := walkSymbols_symbolsOf hbelow
    have hlater := walkSymbols_symbolsOf hrest
    -- The entries below take up as many places as the sections do.
    have hlength := congrArg List.length hinner
    rw [List.length_map, List.length_map] at hlength
    rw [symbolsOf, Symbol.ofSection, walkSymbols, Symbol.walk, walkAll, Section.walk,
      List.map_append, List.map_append, List.map_cons, List.map_cons, hinner, List.length_cons,
      hlength, ← List.length_cons, hlater, Symbol.ofSection]
termination_by sections => sizeOf sections

end

/-! ## Legal entries -/

/-- One stretch lies inside of another one. -/
def Range.Inside (inner outer : Range) : Prop :=
  outer.start.AtOrBefore inner.start ∧ inner.stop.AtOrBefore outer.stop

/-- One stretch ends where another one starts, or before. -/
def Range.EndsBefore (r other : Range) : Prop :=
  r.stop.AtOrBefore other.start

/-- What editors ask of an entry: its name shows something, its range runs forward and
    holds the heading and the ranges of the entries below it, and these do not overlap. -/
structure Symbol.IsLegal (e : Symbol) : Prop where
  named : e.name.toList.all Text.isBlank = false
  forward : e.range.start.AtOrBefore e.range.stop
  selected : e.selection.Inside e.range
  nested : ∀ child ∈ e.children, child.range.Inside e.range
  apart : e.children.Pairwise fun first second => first.range.EndsBefore second.range

section
variable {source : String} (hsize : Text.byteLength source.toList < 2 ^ 32)
include hsize

theorem Range.ofSpan_inside {inner outer : Span} (hinner : inner.IsAt source.toList)
    (houter : outer.IsAt source.toList) (hcontains : outer.contains inner = true) :
    (ofSpan source inner).Inside (ofSpan source outer) := by
  obtain ⟨hstart, hstop⟩ := Span.contains_iff.1 hcontains
  exact ⟨Position.ofPoint_atOrBefore hsize houter.1 hinner.1 hstart,
    Position.ofPoint_atOrBefore hsize hinner.2 houter.2 hstop⟩

/-- The entries of whole sections, each of which ends before the next one starts, do not
    overlap. -/
theorem symbolsOf_apart {sections : List Section}
    (hwhole : ∀ s ∈ sections, Fold.IsWhole source.toList s)
    (hchain : sections.IsChain Section.EndsBefore) :
    (symbolsOf source sections).Pairwise fun first second =>
      first.range.EndsBefore second.range := by
  have hforward : ∀ s ∈ sections, s.IsForward := fun s hs => (hwhole s hs).2.position.forward
  rw [symbolsOf_eq_filterMap, List.pairwise_filterMap]
  refine (pairwise_endsBefore hchain hforward).imp_of_mem fun hs ht hbefore e he f hf => ?_
  obtain ⟨_, hshows⟩ := Symbol.shows_of_ofSection he
  obtain ⟨_, hshows'⟩ := Symbol.shows_of_ofSection hf
  rw [Range.EndsBefore, hshows.range, hshows'.range]
  exact Position.ofPoint_atOrBefore hsize (hwhole _ hs).2.position.isAt.2
    (hwhole _ ht).2.position.isAt.1 hbefore

/-- The entry of a whole section is legal, if nothing is misplaced below the section and
    its title shows something. -/
theorem Symbol.Shows.isLegal {e : Symbol} {s : Section} {heading : Heading}
    (h : e.Shows source s heading) (hwhole : Fold.IsWhole source.toList s)
    (hchildren : ∀ child ∈ s.sections, Fold.IsWhole source.toList child)
    (hplaced : s.misplaced? = none)
    (hnamed : (s.title heading).toList.all Text.isBlank = false) : e.IsLegal := by
  obtain ⟨hinside, hchain⟩ := Section.misplaced?_eq_none_iff.1 hplaced
  have hposition := hwhole.2.position
  have hheading := hwhole.2.heading heading h.headed
  refine ⟨by rwa [h.name], ?_, ?_, ?_, ?_⟩
  · rw [h.range]
    exact Range.ofSpan_forward hsize hposition.isAt hposition.forward
  · rw [h.selection, h.range]
    exact Range.ofSpan_inside hsize hheading.isAt hposition.isAt
      (Span.contains_iff.2 ⟨hheading.lo_le, hheading.le_hi⟩)
  · intro below hbelow
    rw [h.children, symbolsOf_eq_filterMap] at hbelow
    obtain ⟨child, hchild, hentry⟩ := List.mem_filterMap.1 hbelow
    obtain ⟨_, hshows⟩ := shows_of_ofSection hentry
    rw [hshows.range, h.range]
    exact Range.ofSpan_inside hsize (hchildren child hchild).2.position.isAt hposition.isAt
      (hinside child hchild).1
  · rw [h.children]
    exact symbolsOf_apart hsize hchildren hchain

end

/-! ## Whole outlines -/

/-- The entries are a legal outline of the blocks: there is one for each heading, in the
    order and with the nesting of the sections, each showing its section; all of them are
    legal, and those at the top do not overlap. -/
structure IsLegalOutline (source : String) (blocks : List Block) (symbols : List Symbol) :
    Prop where
  complete : (walkSymbols none 0 symbols).length = (headingsOf blocks).length
  mirrored : ∀ (k : Nat) (parent? : Option Nat) (e : Symbol),
    (walkSymbols none 0 symbols)[k]? = some (parent?, e) →
    ∃ s heading, (walkAll none 0 (Fold.document source blocks).sections)[k]? = some (parent?, s) ∧
      (headingsOf blocks)[k]? = some heading ∧ e.Shows source s heading
  legal : ∀ entry ∈ walkSymbols none 0 symbols, entry.2.IsLegal
  apart : symbols.Pairwise fun first second => first.range.EndsBefore second.range

section
variable {source : String} {blocks : List Block}
  (hwhole : ∀ s, s.Among (Fold.document source blocks).sections →
    Fold.IsWhole source.toList s)
include hwhole

/-- Where all sections are whole, their entries are walked over as they are. -/
theorem walkSymbols_document :
    (walkSymbols none 0 (symbolsOf source (Fold.document source blocks).sections)).map
        (fun x => (x.1, some x.2))
      = (walkAll none 0 (Fold.document source blocks).sections).map
        fun x => (x.1, Symbol.ofSection source x.2) :=
  walkSymbols_symbolsOf fun entry hentry => (hwhole entry.2 (among_of_mem_walkAll hentry)).1

/-- The entry at a place of the walk shows the section at that place. -/
theorem shows_of_getElem?_walkSymbols {k : Nat} {parent? : Option Nat} {e : Symbol}
    (h : (walkSymbols none 0 (symbolsOf source (Fold.document source blocks).sections))[k]?
      = some (parent?, e)) :
    ∃ s heading, (walkAll none 0 (Fold.document source blocks).sections)[k]? = some (parent?, s) ∧
      (headingsOf blocks)[k]? = some heading ∧ e.Shows source s heading := by
  have hplace := congrArg (·[k]?) (walkSymbols_document hwhole)
  simp only [List.getElem?_map, h, Option.map_some] at hplace
  obtain ⟨⟨_, s⟩, hs, hentry⟩ := Option.map_eq_some_iff.1 hplace.symm
  obtain ⟨rfl, hshown⟩ := Prod.mk.inj hentry
  obtain ⟨heading, hheading, hheaded, -⟩ := Fold.getElem?_walkAll_document hs
  obtain ⟨_, hshows⟩ := Symbol.shows_of_ofSection hshown
  obtain rfl := Option.some.inj (hheaded.symm.trans hshows.headed)
  exact ⟨s, heading, hs, hheading, hshows⟩

end

/-- Ordered blocks between characters, with headings that are empty or show something,
    have a legal outline in an editor. -/
theorem isLegalOutline_of_inOrder {source : String} {blocks : List Block}
    (hblocks : InOrder (blocks.map Block.ends))
    (hplaces : ∀ b ∈ blocks, b.position.IsAt source.toList)
    (htight : ∀ h ∈ headingsOf blocks, Text.IsTight h.content.toList)
    (hsize : Text.byteLength source.toList < 2 ^ 32) :
    IsLegalOutline source blocks (symbolsOf source (Fold.document source blocks).sections) := by
  have hwhole : ∀ s, s.Among (Fold.document source blocks).sections →
      Fold.IsWhole source.toList s :=
    fun s hs => Fold.isWhole_of_among_document source hblocks hplaces hs
  obtain ⟨hplaced, hchain⟩ :=
    Document.misplaced?_eq_none_iff.1 (Fold.document_misplaced? source hblocks)
  refine ⟨?_, fun k parent? e => shows_of_getElem?_walkSymbols hwhole, ?_, ?_⟩
  · have hlength := congrArg List.length (walkSymbols_document hwhole)
    rwa [List.length_map, List.length_map, Fold.length_walkAll_document] at hlength
  · rintro ⟨parent?, e⟩ hentry
    obtain ⟨k, hk⟩ := List.mem_iff_getElem?.1 hentry
    obtain ⟨s, heading, hs, -, hshows⟩ := shows_of_getElem?_walkSymbols hwhole hk
    have hamong : s.Among (Fold.document source blocks).sections :=
      among_of_mem_walkAll (List.mem_of_getElem? hs)
    exact hshows.isLegal hsize (hwhole s hamong)
      (fun child hchild => hwhole child (hamong.child hchild))
      (hamong.misplaced?_eq_none hplaced) (Fold.title_shows htight hs hshows.headed)
  · exact symbolsOf_apart hsize (fun s hs => hwhole s (.top hs)) hchain

/-- **The outline that an editor shows is legal.** This holds of the outline of any nodes
    that are in order and begin at characters of the source, and it holds of the outline of
    every source, as long as 32 bits can count the bytes of the source. -/
theorem shown_outlines_are_legal :
    (∀ (source : String) (nodes : List Markdown.Node),
      Text.byteLength source.toList < 2 ^ 32 → InOrder (nodes.map Markdown.Node.ends) →
      (∀ node ∈ nodes, Text.Boundary source.toList node.range.start) →
      let blocks := Markdown.Node.blocks source.toList none nodes
      IsLegalOutline source blocks (symbolsOf source (Fold.document source blocks).sections)) ∧
    ∀ source : String, Text.byteLength source.toList < 2 ^ 32 →
      IsLegalOutline source (Markdown.blocks source)
        (symbolsOf source (Markdown.outline source).sections) := by
  have hnodes : ∀ (source : String) (nodes : List Markdown.Node),
      Text.byteLength source.toList < 2 ^ 32 → InOrder (nodes.map Markdown.Node.ends) →
      (∀ node ∈ nodes, Text.Boundary source.toList node.range.start) →
      let blocks := Markdown.Node.blocks source.toList none nodes
      IsLegalOutline source blocks (symbolsOf source (Fold.document source blocks).sections) := by
    intro source nodes hsize horder hbegin blocks
    exact isLegalOutline_of_inOrder (Markdown.inOrder_blocks source.toList horder)
      (Markdown.Node.blocks_isAt hbegin)
      (Markdown.Node.headingsOf_blocks_areTight source.toList nodes) hsize
  refine ⟨hnodes, fun source hsize => ?_⟩
  exact hnodes source (Markdown.nodes source.toList) hsize
    (Markdown.nodes_within source.toList).inOrder (Markdown.nodes_begin source.toList)

/-- A heading without text above two sections, of which the second one is below the first:
    the empty heading is shown by the id of its section. -/
theorem empty_heading_is_shown_by_id :
    let source := "#\n\nCafé.\n\n## Steps\n\n# End #\n"
    let nodes : List Markdown.Node :=
      [.heading .marked 1 ⟨1, 1⟩ ⟨0, 2⟩, .blank ⟨2, 3⟩, .paragraph ⟨3, 10⟩, .blank ⟨10, 11⟩,
        .heading .marked 2 ⟨14, 20⟩ ⟨11, 20⟩, .blank ⟨20, 21⟩,
        .heading .marked 1 ⟨23, 29⟩ ⟨21, 29⟩]
    let blocks := Markdown.Node.blocks source.toList none nodes
    (walkSymbols none 0 (symbolsOf source (Markdown.outline source).sections)).map
        (fun entry => (entry.1, entry.2.name, entry.2.selection.start))
      = [(none, "section", ⟨0, 0⟩), (some 0, "Steps", ⟨4, 0⟩), (none, "End", ⟨6, 0⟩)] ∧
      IsLegalOutline source (Markdown.blocks source)
        (symbolsOf source (Markdown.outline source).sections) ∧
      IsLegalOutline source blocks (symbolsOf source (Fold.document source blocks).sections) := by
  intro source nodes blocks
  have hsize : Text.byteLength source.toList < 2 ^ 32 := by decide +kernel
  have horder : InOrder (nodes.map Markdown.Node.ends) := by
    simp [InOrder, nodes, Markdown.Node.ends, Markdown.Stretch.ends, Markdown.Node.range]
  have hbegin : ∀ node ∈ nodes, Text.Boundary source.toList node.range.start := by
    intro node hnode
    simp only [nodes, List.mem_cons, List.not_mem_nil, or_false] at hnode
    rcases hnode with rfl | rfl | rfl | rfl | rfl | rfl | rfl
    · exact ⟨_, List.take_prefix 0 _, rfl⟩
    · exact ⟨_, List.take_prefix 2 _, by decide +kernel⟩
    · exact ⟨_, List.take_prefix 3 _, by decide +kernel⟩
    · exact ⟨_, List.take_prefix 9 _, by decide +kernel⟩
    · exact ⟨_, List.take_prefix 10 _, by decide +kernel⟩
    · exact ⟨_, List.take_prefix 19 _, by decide +kernel⟩
    · exact ⟨_, List.take_prefix 20 _, by decide +kernel⟩
  refine ⟨by decide +kernel, shown_outlines_are_legal.2 source hsize,
    shown_outlines_are_legal.1 source nodes hsize horder hbegin⟩

end Editor

end Rubric
