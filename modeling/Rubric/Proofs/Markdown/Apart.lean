/-
  Rubric.Proofs.Markdown.Apart

  Blocks stand on lines of their own, unless white space makes up a block.

  A block spans the text of its node without the white space around it. Where a node
  takes whole lines, what is cut off its end has a line break in it, so that the block
  ends on an earlier line than the one on which the next node begins. White space is
  meant in the sense of Unicode here, while lines count as blank by spaces and tabs
  alone: a line of other white space is a paragraph, and of that nothing is left but an
  empty span where the node stops, on the line of the next block.
-/
import Rubric.Proofs.Markdown.Exact
import Rubric.Proofs.Markdown.Outline

namespace Rubric

open Text (Boundary byteLength isBlank)

/-! ## Beginnings of lines -/

/-- A line begins at the offset, or with blanks right before it. -/
def AtLineStart (source : List Char) (offset : Nat) : Prop :=
  ∃ before, before <+: source ∧ byteLength before = offset ∧
    ∀ c ∈ Editor.lastLine before, isBlank c = true

instance (source : List Char) (offset : Nat) : Decidable (AtLineStart source offset) :=
  decidable_of_iff
    ((Text.takeBytes? offset source).any fun before => (Editor.lastLine before).all isBlank)
    (by simp only [Option.any_eq_true, Text.takeBytes?_eq_some_iff, List.all_eq_true, AtLineStart,
      and_assoc])

theorem AtLineStart.boundary {source : List Char} {offset : Nat} (h : AtLineStart source offset) :
    Boundary source offset := by
  obtain ⟨before, hbefore, hlength, -⟩ := h
  exact ⟨before, hbefore, hlength⟩

theorem AtLineStart.lastLine_blank {source before : List Char}
    (h : AtLineStart source (byteLength before)) (hbefore : before <+: source) :
    ∀ c ∈ Editor.lastLine before, isBlank c = true := by
  obtain ⟨other, hother, hlength, hblank⟩ := h
  have hlonger := Text.prefix_of_byteLength_le hbefore hother hlength.ge
  have hshorter := Text.prefix_of_byteLength_le hother hbefore hlength.le
  rwa [hlonger.eq_of_length_le hshorter.length_le]

/-- Between a character that shows and the beginning of a later line there is a line break. -/
theorem mem_of_lastLine_blank {before more : List Char} {c : Char}
    (hlast : before.getLast? = some c) (hshows : isBlank c = false)
    (hblank : ∀ d ∈ Editor.lastLine (before ++ more), isBlank d = true) : '\n' ∈ more := by
  by_contra hmore
  obtain ⟨front, rfl⟩ := List.getLast?_eq_some_iff.1 hlast
  have hc : '\n' ∉ [c] := by
    rw [List.mem_singleton]
    rintro rfl
    cases hshows
  rw [Editor.lastLine_append _ hmore, Editor.lastLine_append _ hc] at hblank
  have hwhite := hblank c (by simp)
  rw [hshows] at hwhite
  cases hwhite

/-! ## Lines of offsets -/

theorem line_ofOffset {source before : List Char} (h : before <+: source) :
    (Point.ofOffset source (byteLength before)).line = before.count '\n' + 1 := by
  obtain ⟨after, rfl⟩ := h
  exact Point.ofOffset_line before after

theorem line_le_line {source : List Char} {a b : Nat} (ha : Boundary source a)
    (hb : Boundary source b) (hle : a ≤ b) :
    (Point.ofOffset source a).line ≤ (Point.ofOffset source b).line := by
  obtain ⟨before, hbefore, rfl⟩ := ha
  obtain ⟨later, hlater, rfl⟩ := hb
  obtain ⟨more, rfl⟩ := Text.prefix_of_byteLength_le hbefore hlater hle
  rw [line_ofOffset hbefore, line_ofOffset hlater, List.count_append]
  omega

theorem Point.IsAt.eq_ofOffset {source : List Char} {p : Point} (h : p.IsAt source) :
    Boundary source p.offset ∧ p = .ofOffset source p.offset := by
  obtain ⟨offset, hoffset, rfl⟩ := h
  rw [Point.ofOffset_offset]
  exact ⟨hoffset, rfl⟩

/-! ## Trimmed ranges -/

namespace Span

variable {source text : List Char} {start stop : Nat}

/-- Of white space alone nothing is left but the place where it stops. -/
theorem trimmed_of_blank (hslice : Text.slice? source start stop = some text)
    (hblank : ∀ c ∈ text, isBlank c = true) :
    Span.trimmed source start stop = ⟨.ofOffset source stop, .ofOffset source stop⟩ := by
  obtain ⟨-, -, -, hlength⟩ := Text.slice?_eq_some_iff.1 hslice
  have hfront : text.takeWhile isBlank = text := List.takeWhile_eq_self_iff.2 hblank
  have hnothing : Text.trimStart text = [] := List.dropWhile_eq_nil_iff.2 hblank
  rw [trimmed_eq hslice, hfront, Text.trim, hnothing, Text.trimEnd_nil, Text.byteLength_nil,
    Nat.add_zero, hlength]

/-- A range with a character that shows is trimmed to a span that is not empty and that stops
    right behind such a character. -/
theorem exists_trimmed (hslice : Text.slice? source start stop = some text)
    (hshows : ∃ c ∈ text, isBlank c = false) :
    (Span.trimmed source start stop).start.offset < (Span.trimmed source start stop).stop.offset ∧
      ∃ before more c, before ++ more <+: source ∧ byteLength (before ++ more) = stop ∧
        before.getLast? = some c ∧ isBlank c = false ∧
        (Span.trimmed source start stop).stop = .ofOffset source (byteLength before) := by
  obtain ⟨before, hprefix, rfl, rfl⟩ := Text.slice?_eq_some_iff.1 hslice
  obtain ⟨trail, hsplit, -⟩ := Text.exists_trim_append text
  have hne := Text.trim_ne_nil hshows
  have hlast := List.getLast?_eq_some_getLast hne
  have hlonger : 0 < byteLength (Text.trim text) :=
    Nat.pos_of_ne_zero fun hzero => hne (Text.byteLength_eq_zero.1 hzero)
  have hwhole : before ++ text.takeWhile isBlank ++ Text.trim text ++ trail = before ++ text := by
    conv_rhs => rw [hsplit]
    simp only [List.append_assoc]
  rw [trimmed_eq hslice, Point.ofOffset_offset, Point.ofOffset_offset]
  refine ⟨Nat.lt_add_of_pos_right hlonger, before ++ text.takeWhile isBlank ++ Text.trim text,
    trail, _, ?_, ?_, ?_, (Text.trim_trims text).last _ hlast, ?_⟩
  · rwa [hwhole]
  · rw [hwhole, Text.byteLength_append]
  · rw [List.getLast?_append, hlast, Option.some_or]
  · rw [Text.byteLength_append, Text.byteLength_append]

end Span

namespace Markdown

/-! ## Ranges of whole lines -/

/-- The range is not empty and takes its lines to their ends: it starts at a character, and it
    stops where a line begins, or behind blanks there, or where the source ends. -/
structure Stretch.OnLines (source : List Char) (s : Stretch) : Prop where
  nonempty : s.start < s.stop
  starts : Boundary source s.start
  stops : AtLineStart source s.stop ∨ s.stop = byteLength source

instance (source : List Char) (s : Stretch) : Decidable (s.OnLines source) :=
  decidable_of_iff (s.start < s.stop ∧ Boundary source s.start ∧
      (AtLineStart source s.stop ∨ s.stop = byteLength source))
    ⟨fun h => ⟨h.1, h.2.1, h.2.2⟩, fun h => ⟨h.nonempty, h.starts, h.stops⟩⟩

namespace Stretch

variable {source : List Char} {s t : Stretch}

theorem OnLines.boundary_stop (h : s.OnLines source) : Boundary source s.stop := by
  rcases h.stops with hstops | hends
  · exact hstops.boundary
  · exact hends ▸ ⟨source, List.prefix_rfl, rfl⟩

theorem OnLines.exists_slice? (h : s.OnLines source) :
    Text.slice? source s.start s.stop = some (s.text source) := by
  obtain ⟨text, htext⟩ := Text.exists_slice? h.starts h.boundary_stop h.nonempty.le
  rw [Stretch.text, Text.slice, htext, Option.getD_some]

theorem OnLines.span_isAt (h : s.OnLines source) : (s.span source).IsAt source :=
  Span.trimmed_isAt h.starts s.stop

theorem OnLines.span_within (h : s.OnLines source) :
    s.start ≤ (s.span source).start.offset ∧
      (s.span source).start.offset ≤ (s.span source).stop.offset ∧
      (s.span source).stop.offset ≤ s.stop :=
  within_singleton.1 (Span.trimmed_within source h.nonempty.le)

/-- The span of a range is empty iff all of its text is white space. -/
theorem OnLines.span_nonempty_iff (h : s.OnLines source) :
    (s.span source).start.offset < (s.span source).stop.offset ↔
      ∃ c ∈ s.text source, isBlank c = false := by
  refine ⟨fun hlt => ?_, fun hshows => (Span.exists_trimmed h.exists_slice? hshows).1⟩
  by_contra hblank
  push Not at hblank
  rw [Stretch.span, Span.trimmed_of_blank h.exists_slice? (by simpa using hblank)] at hlt
  exact lt_irrefl _ hlt

/-- What starts after an offset does not start on an earlier line. -/
theorem OnLines.line_le_start (h : s.OnLines source) {offset : Nat}
    (hoffset : Boundary source offset) (hle : offset ≤ s.start) :
    (Point.ofOffset source offset).line ≤ (s.span source).start.line := by
  obtain ⟨hstart, hplace⟩ := h.span_isAt.1.eq_ofOffset
  have hlater := h.span_within.1
  rw [hplace]
  exact line_le_line hoffset hstart (by omega)

section
variable (hs : s.OnLines source) (ht : t.OnLines source) (hle : s.stop ≤ t.start)
include hs ht hle

/-- Before a range that is not empty the source does not end. -/
theorem OnLines.atLineStart_stop : AtLineStart source s.stop := by
  rcases hs.stops with hstops | hends
  · exact hstops
  · have hnonempty := ht.nonempty
    have hinside := ht.boundary_stop.le_byteLength
    omega

theorem OnLines.line_stop_le : (s.span source).stop.line ≤ (t.span source).start.line := by
  obtain ⟨hstop, hplace⟩ := hs.span_isAt.2.eq_ofOffset
  have hinside := hs.span_within.2.2
  rw [hplace]
  exact ht.line_le_start hstop (hinside.trans hle)

/-- A span that is not empty stops on an earlier line than the one where the next starts. -/
theorem OnLines.line_stop_lt
    (hspan : (s.span source).start.offset < (s.span source).stop.offset) :
    (s.span source).stop.line < (t.span source).start.line := by
  obtain ⟨-, before, more, c, hprefix, hlength, hlast, hshown, hstop⟩ :=
    Span.exists_trimmed hs.exists_slice? (hs.span_nonempty_iff.1 hspan)
  have hstarts := hs.atLineStart_stop ht hle
  have hnext := ht.line_le_start hs.boundary_stop hle
  have hbefore := (List.prefix_append before more).trans hprefix
  rw [← hlength] at hstarts hnext
  have hbreak := List.count_pos_iff.2
    (mem_of_lastLine_blank hlast hshown (hstarts.lastLine_blank hprefix))
  rw [line_ofOffset hprefix, List.count_append] at hnext
  rw [Stretch.span, hstop, line_ofOffset hbefore]
  omega

end

end Stretch

namespace Node

/-! ## Blocks of nodes on whole lines -/

theorem stop_le_of_items {lo hi : Nat} {first : Node} {others : List Node}
    (horder : Within lo hi ((first :: others).map ends)) :
    first.range.stop ≤ (others.getLast?.getD first).range.stop := by
  cases hget : others.getLast? with
  | none => exact le_rfl
  | some last =>
    have hrest := (within_cons.1 horder).2.2.of_mem
      (List.mem_map_of_mem (List.mem_of_getLast? hget))
    obtain ⟨hafter, hforward, -⟩ := within_singleton.1 hrest
    exact hafter.trans hforward

/-- A list takes whole lines if its items do. -/
theorem onLines_of_items {source : List Char} {lo hi : Nat} {first : Node} {others : List Node}
    (horder : Within lo hi ((first :: others).map ends))
    (hlines : ∀ node ∈ first :: others, node.range.OnLines source) :
    Stretch.OnLines source ⟨first.range.start, (others.getLast?.getD first).range.stop⟩ := by
  have hfirst := hlines first List.mem_cons_self
  have hlast : others.getLast?.getD first ∈ first :: others := by
    cases hget : others.getLast? with
    | none => exact List.mem_cons_self
    | some last => exact List.mem_cons_of_mem _ (List.mem_of_getLast? hget)
  exact ⟨hfirst.nonempty.trans_le (stop_le_of_items horder), hfirst.starts, (hlines _ hlast).stops⟩

/-- Blocks span ranges of whole lines that come one after another, if their nodes take such
    ranges. -/
theorem Make.exists_stretches {source : List Char} {lo hi : Nat} {nodes : List Node}
    {bs : List Block} (hmake : Make source nodes bs) (horder : Within lo hi (nodes.map ends))
    (hlines : ∀ node ∈ nodes, node.range.OnLines source) :
    ∃ stretches : List Stretch, Within lo hi (stretches.map Stretch.ends) ∧
      (∀ s ∈ stretches, s.OnLines source) ∧
      bs.map Block.position = stretches.map (Stretch.span source) := by
  induction hmake generalizing lo with
  | nil => exact ⟨[], horder, List.forall_mem_nil _, rfl⟩
  | @single node nodes bs _ ih =>
    obtain ⟨hnode, hrest⟩ := List.forall_mem_cons.1 hlines
    obtain ⟨hlo, hforward, hafter⟩ := within_cons.1 horder
    obtain ⟨stretches, hstretches, hall, hspans⟩ := ih hafter hrest
    cases hblock : node.block? source with
    | none => exact ⟨stretches, hstretches.mono (hlo.trans hforward) le_rfl, hall, hspans⟩
    | some b =>
      refine ⟨node.range :: stretches, ⟨hlo, hforward, hstretches⟩,
        List.forall_mem_cons.2 ⟨hnode, hall⟩, ?_⟩
      rw [Option.toList_some, List.singleton_append, List.map_cons, List.map_cons, hspans,
        (of_block?_eq_some hblock).2]
  | @list bullet first others nodes bs _ _ ih =>
    rw [List.map_append, within_append] at horder
    obtain ⟨next, hitems, hafter⟩ := horder
    obtain ⟨hgroup, hrest⟩ := List.forall_mem_append.1 hlines
    obtain ⟨stretches, hstretches, hall, hspans⟩ := ih hafter hrest
    refine ⟨⟨first.range.start, (others.getLast?.getD first).range.stop⟩ :: stretches, ?_,
      List.forall_mem_cons.2 ⟨onLines_of_items hitems hgroup, hall⟩, ?_⟩
    · rw [List.map_cons, ← List.singleton_append, within_append]
      exact ⟨next, items_within hitems, hstretches⟩
    · rw [List.map_cons, List.map_cons, hspans]
      rfl

end Node

/-- The nodes come in the order of their ranges, and each takes its lines to their ends. -/
structure TakeLines (source : List Char) (nodes : List Node) : Prop where
  inOrder : nodes.IsChain fun a b => a.range.stop ≤ b.range.start
  onLines : ∀ node ∈ nodes, node.range.OnLines source

instance (source : List Char) (nodes : List Node) : Decidable (TakeLines source nodes) :=
  decidable_of_iff (nodes.IsChain (fun a b => a.range.stop ≤ b.range.start) ∧
      ∀ node ∈ nodes, node.range.OnLines source)
    ⟨fun h => ⟨h.1, h.2⟩, fun h => ⟨h.inOrder, h.onLines⟩⟩

theorem TakeLines.within {source : List Char} {nodes : List Node} (h : TakeLines source nodes) :
    Within 0 (lastEnd 0 (nodes.map Node.ends)) (nodes.map Node.ends) := by
  refine InOrder.within ⟨?_, ?_⟩
  · rw [List.forall_mem_map]
    exact fun node hnode => (h.onLines node hnode).nonempty.le
  · rw [List.isChain_map]
    exact h.inOrder

/-- The node is a heading, a paragraph, code or a list item, and its text is nothing but
    white space. -/
def Node.IsWhite (source : List Char) : Node → Prop
  | .other _ | .blank _ => False
  | node => ∀ c ∈ node.range.text source, isBlank c = true

instance (source : List Char) : (node : Node) → Decidable (node.IsWhite source)
  | .other _ | .blank _ => inferInstanceAs (Decidable False)
  | .heading _ _ _ range | .paragraph range | .fenced _ _ range | .indented range
  | .item _ _ range =>
    decidable_of_iff ((range.text source).all isBlank = true) List.all_eq_true

/-- No block is empty, and each ends before the line on which the next one starts. -/
structure StandApart (blocks : List Block) : Prop where
  nonempty : ∀ b ∈ blocks, b.position.start.offset < b.position.stop.offset
  apart : blocks.IsChain fun a b => a.position.stop.line < b.position.start.line

/-- How blocks stand on lines: none ends after the line on which the next one starts, and one
    that is not empty ends on an earlier line. -/
def OnLinesInTurn (blocks : List Block) : Prop :=
  blocks.IsChain fun a b => a.position.stop.line ≤ b.position.start.line ∧
    (a.position.start.offset < a.position.stop.offset →
      a.position.stop.line < b.position.start.line)

theorem onLinesInTurn_blocks {source : List Char} {nodes : List Node}
    (h : TakeLines source nodes) : OnLinesInTurn (Node.blocks source none nodes) := by
  obtain ⟨stretches, horder, hlines, hspans⟩ :=
    (Node.blocks_make source nodes).exists_stretches h.within h.onLines
  have hturn : (stretches.map (Stretch.span source)).IsChain fun a b =>
      a.stop.line ≤ b.start.line ∧ (a.start.offset < a.stop.offset → a.stop.line < b.start.line) := by
    have hchain := horder.inOrder.2
    rw [List.isChain_map] at hchain ⊢
    exact hchain.imp_of_mem_imp fun s t hs ht hle =>
      ⟨(hlines s hs).line_stop_le (hlines t ht) hle, (hlines s hs).line_stop_lt (hlines t ht) hle⟩
  rw [← hspans, List.isChain_map] at hturn
  exact hturn

theorem exists_shown_of_not_isWhite {source : List Char} {node : Node}
    (hkind : ∀ range, node ≠ .other range ∧ node ≠ .blank range)
    (h : ¬ node.IsWhite source) : ∃ c ∈ node.range.text source, isBlank c = false := by
  cases node with
  | other range => exact absurd rfl (hkind range).1
  | blank range => exact absurd rfl (hkind range).2
  | _ => simpa [Node.IsWhite] using h

/-- The block of a node that is not white space is not empty. -/
theorem block?_nonempty {source : List Char} {node : Node} (hlines : node.range.OnLines source)
    (hshows : ¬ node.IsWhite source) :
    ∀ b ∈ (node.block? source).toList, b.position.start.offset < b.position.stop.offset := by
  intro b hb
  rw [Option.mem_toList] at hb
  cases node with
  | other range =>
    -- The only kind of nodes that is looked at before it makes a block.
    unfold Node.block? at hb
    simp only at hb
    split at hb
    next hspan =>
      obtain rfl := Option.some.inj hb
      exact hspan
    next => cases hb
  | blank range => cases hb
  | _ =>
    rw [(Node.of_block?_eq_some hb).2]
    exact hlines.span_nonempty_iff.2
      (exists_shown_of_not_isWhite (fun _ => ⟨nofun, nofun⟩) hshows)

/-- A list of items that are not white space is not empty. -/
theorem listing_nonempty {source : List Char} {bullet : Bullet} {lo hi : Nat} {first : Node}
    {others : List Node} (horder : Within lo hi ((first :: others).map Node.ends))
    (hlines : ∀ node ∈ first :: others, node.range.OnLines source)
    (hfirst : first.bullet? = some bullet) (hshows : ¬ first.IsWhite source) :
    (Node.listing source bullet first others).position.start.offset
      < (Node.listing source bullet first others).position.stop.offset := by
  have hall := Node.onLines_of_items horder hlines
  have hkind : ∀ range, first ≠ .other range ∧ first ≠ .blank range := by
    refine fun range => ⟨?_, ?_⟩ <;> rintro rfl <;> cases hfirst
  obtain ⟨c, hc, hshown⟩ := exists_shown_of_not_isWhite hkind hshows
  -- The first item begins the list, so that its text stands in that of the list.
  have hinfix := Text.slice?_infix (hlines first List.mem_cons_self).exists_slice?
    hall.exists_slice? le_rfl (Node.stop_le_of_items horder)
  exact hall.span_nonempty_iff.2 ⟨c, hinfix.subset hc, hshown⟩

theorem Node.Make.forall_nonempty {source : List Char} {lo hi : Nat} {nodes : List Node}
    {bs : List Block} (hmake : Node.Make source nodes bs)
    (horder : Within lo hi (nodes.map Node.ends))
    (hnodes : ∀ node ∈ nodes, node.range.OnLines source ∧ ¬ node.IsWhite source) :
    ∀ b ∈ bs, b.position.start.offset < b.position.stop.offset := by
  induction hmake generalizing lo with
  | nil => exact List.forall_mem_nil _
  | single _ ih =>
    obtain ⟨⟨hlines, hshows⟩, hrest⟩ := List.forall_mem_cons.1 hnodes
    exact List.forall_mem_append.2
      ⟨block?_nonempty hlines hshows, ih (within_cons.1 horder).2.2 hrest⟩
  | list hbullets _ ih =>
    rw [List.map_append, within_append] at horder
    obtain ⟨next, hitems, hafter⟩ := horder
    obtain ⟨hgroup, hrest⟩ := List.forall_mem_append.1 hnodes
    refine List.forall_mem_cons.2 ⟨?_, ih hafter hrest⟩
    exact listing_nonempty hitems (fun node hnode => (hgroup node hnode).1)
      (hbullets _ List.mem_cons_self) (hgroup _ List.mem_cons_self).2

/-- The block that a node makes by itself is among the blocks. -/
theorem Node.Make.mem_of_block? {source : List Char} {nodes : List Node} {bs : List Block}
    (hmake : Node.Make source nodes bs) {node : Node} {b : Block} (hnode : node ∈ nodes)
    (hb : node.block? source = some b) : b ∈ bs := by
  induction hmake with
  | nil => cases hnode
  | single _ ih =>
    rw [List.mem_append, Option.mem_toList]
    rcases List.mem_cons.1 hnode with rfl | hrest
    · exact Or.inl hb
    · exact Or.inr (ih hrest)
  | list hbullets _ ih =>
    rcases List.mem_append.1 hnode with hitem | hrest
    · have hbullet := hbullets node hitem
      cases node with
      | item bullet children range => cases hb
      | _ => cases hbullet
    · exact List.mem_cons_of_mem _ (ih hrest)

/-- Of a node that is white space, other than a list item, there is an empty block. -/
theorem exists_empty_of_isWhite {source : List Char} {nodes : List Node} {node : Node}
    (hnode : node ∈ nodes) (hlines : node.range.OnLines source) (hwhite : node.IsWhite source)
    (hbullet : node.bullet? = none) :
    ∃ b ∈ Node.blocks source none nodes, b.position.start.offset = node.range.stop ∧
      b.position.stop.offset = node.range.stop := by
  obtain ⟨b, hb⟩ : ∃ b, node.block? source = some b := by
    cases node with
    | other range => exact absurd hwhite id
    | blank range => exact absurd hwhite id
    | item bullet children range => cases hbullet
    | _ => exact ⟨_, rfl⟩
  have hblank : ∀ c ∈ node.range.text source, isBlank c = true := by
    cases node with
    | other range => exact absurd hwhite id
    | blank range => exact absurd hwhite id
    | _ => exact hwhite
  refine ⟨b, (Node.blocks_make source nodes).mem_of_block? hnode hb, ?_⟩
  rw [(Node.of_block?_eq_some hb).2, Stretch.span,
    Span.trimmed_of_blank hlines.exists_slice? hblank, Point.ofOffset_offset]
  exact ⟨rfl, rfl⟩

theorem standApart_blocks {source : List Char} {nodes : List Node} (h : TakeLines source nodes)
    (hshows : ∀ node ∈ nodes, ¬ node.IsWhite source) :
    StandApart (Node.blocks source none nodes) := by
  have hnonempty := (Node.blocks_make source nodes).forall_nonempty h.within
    fun node hnode => ⟨h.onLines node hnode, hshows node hnode⟩
  refine ⟨hnonempty, ?_⟩
  exact (onLinesInTurn_blocks h).imp_of_mem_imp
    fun a b ha _ hturn => hturn.2 (hnonempty a ha)

/-- **Blocks stand apart unless they are white space.** Let nodes come in the order of their
    ranges, and let each take its lines to their ends. If none of them is white space, no block
    is empty, and every block ends before the line on which the next one starts. In any case no
    block ends after that line, and one that is not empty ends before it; and every node that
    is white space, other than a list item, leaves an empty block where it stops. The nodes of
    a source are the case that the blocks of the source come from. -/
theorem blocks_apart_unless_white (source : String) :
    (∀ top : List Node, TakeLines source.toList top →
      ((∀ node ∈ top, ¬ node.IsWhite source.toList) →
        StandApart (Node.blocks source.toList none top)) ∧
      OnLinesInTurn (Node.blocks source.toList none top) ∧
      ∀ node ∈ top, node.IsWhite source.toList → node.bullet? = none →
        ∃ b ∈ Node.blocks source.toList none top, b.position.start.offset = node.range.stop ∧
          b.position.stop.offset = node.range.stop) ∧
    (TakeLines source.toList (nodes source.toList) →
      ((∀ node ∈ nodes source.toList, ¬ node.IsWhite source.toList) →
        StandApart (blocks source)) ∧
      OnLinesInTurn (blocks source)) := by
  refine ⟨fun top h => ⟨standApart_blocks h, onLinesInTurn_blocks h, ?_⟩,
    fun h => ⟨standApart_blocks h, onLinesInTurn_blocks h⟩⟩
  exact fun node hnode => exists_empty_of_isWhite hnode (h.onLines node hnode)

/-- A line with nothing on it but a no-break space, above a heading. -/
def whiteSource : String := "\u00a0\n# A\n"

/-- The paragraph of the no-break space is empty, and it stands on the line of the heading. -/
theorem white_paragraph_shares_line :
    TakeLines whiteSource.toList (nodes whiteSource.toList) ∧
      (∃ b ∈ blocks whiteSource, ¬ b.position.start.offset < b.position.stop.offset) ∧
      ¬ (blocks whiteSource).IsChain fun a b =>
        a.position.stop.line < b.position.start.line := by
  refine ⟨?_, ?_, ?_⟩ <;> decide +kernel

/-- A list on the line below a heading stands apart from it; the paragraph of a no-break
    space leaves an empty block behind it. -/
theorem list_stands_apart_from_heading :
    let source := "# A\n- a\n\n- b\n"
    TakeLines source.toList (nodes source.toList) ∧ StandApart (blocks source) ∧
      ∃ b ∈ Node.blocks whiteSource.toList none (nodes whiteSource.toList),
        b.position.start.offset = 3 ∧ b.position.stop.offset = 3 := by
  intro source
  have hlines : TakeLines source.toList (nodes source.toList) := by decide +kernel
  have hshows : ∀ node ∈ nodes source.toList, ¬ node.IsWhite source.toList := by decide +kernel
  have hwhite : TakeLines whiteSource.toList (nodes whiteSource.toList) := by decide +kernel
  have hmem : Node.paragraph ⟨0, 3⟩ ∈ nodes whiteSource.toList := List.mem_of_getElem? (i := 0) rfl
  obtain ⟨-, -, hempty⟩ := (blocks_apart_unless_white whiteSource).1 _ hwhite
  exact ⟨hlines, ((blocks_apart_unless_white source).2 hlines).1 hshows,
    hempty _ hmem (by decide +kernel) rfl⟩

end Markdown

end Rubric
