/-
  Rubric.Proofs.Markdown.Normal

  The normal form of the lines of a text.

  Paragraphs and underlined headings show the trimmed lines of their text, without blank
  lines around them. Such a text is normal: it has no white space at its ends nor at the
  ends of its lines, and single line feeds stand between these. Normal texts stay as
  they are, and texts that differ in how their lines are laid out have one normal form.
  Sources that differ in their line ends alone have the same paragraphs and headings in
  the same places among their nodes, so that these show the same.
-/
import Rubric.Markdown.Blocks
import Rubric.Proofs.Markdown.Moved

namespace Rubric

namespace Text

/-! ## Layout -/

/-- How a line ends: with a line feed, or with a carriage return and a line feed. -/
inductive IsLineEnd : List Char → Prop
  | feed : IsLineEnd ['\n']
  | returnFeed : IsLineEnd ['\r', '\n']

/-- The line shows a text with blanks in front of it and behind it. -/
structure LaysOut (line shown : List Char) : Prop where
  unbroken : '\n' ∉ line
  split : ∃ lead trail, line = lead ++ (shown ++ trail) ∧
    (∀ c ∈ lead, isBlank c = true) ∧ ∀ c ∈ trail, isBlank c = true

/-- The texts differ in the layout of their lines alone: in their indentation, in the blanks
at their ends, and in their line ends. -/
inductive Relaid : List Char → List Char → Prop
  | last {line other shown : List Char} : LaysOut line shown → LaysOut other shown →
      Relaid line other
  | line {line other shown ending ending' cs ds : List Char} : LaysOut line shown →
      LaysOut other shown → IsLineEnd ending → IsLineEnd ending' → Relaid cs ds →
      Relaid (line ++ (ending ++ cs)) (other ++ (ending' ++ ds))

theorem LaysOut.trim_eq {line shown : List Char} (h : LaysOut line shown) :
    trim line = trim shown := by
  obtain ⟨lead, trail, rfl, hlead, htrail⟩ := h.split
  obtain ⟨⟨front, back, hsplit, hfront, hback⟩, hfirst, hlast⟩ := trim_trims shown
  refine trim_eq_iff.2 ⟨⟨lead ++ front, back ++ trail, ?_, ?_, ?_⟩, hfirst, hlast⟩
  · conv_lhs => rw [hsplit]
    simp only [List.append_assoc]
  · exact List.forall_mem_append.2 ⟨hlead, hfront⟩
  · exact List.forall_mem_append.2 ⟨hback, htrail⟩

/-- A carriage return before the line feed is trimmed away, whether it belongs to the line end
or not. -/
theorem map_trim_lines_append {line ending : List Char} (hline : '\n' ∉ line)
    (hending : IsLineEnd ending) (cs : List Char) :
    (lines (line ++ (ending ++ cs))).map trim = trim line :: (lines cs).map trim := by
  cases hending with
  | returnFeed =>
    show (lines (line ++ '\r' :: '\n' :: cs)).map trim = _
    rw [lines_append_returnFeed hline, List.map_cons]
  | feed =>
    show (lines (line ++ '\n' :: cs)).map trim = _
    by_cases hreturn : line.getLast? = some '\r'
    · obtain ⟨front, rfl⟩ := List.getLast?_eq_some_iff.1 hreturn
      have hfront : LaysOut (front ++ ['\r']) front :=
        ⟨hline, [], ['\r'], by simp, by simp, List.forall_mem_singleton.2 (by decide)⟩
      rw [List.append_assoc, List.singleton_append,
        lines_append_returnFeed fun hmem => hline (List.mem_append_left _ hmem), List.map_cons,
        hfront.trim_eq]
    · rw [lines_append_feed hline hreturn, List.map_cons]

/-- The last line counts as one only if it is not empty, which makes no difference without the
blank lines at the ends. -/
theorem withoutBlankEnds_last {line : List Char} (hline : '\n' ∉ line) (before : List (List Char)) :
    withoutBlankEnds (before ++ (lines line).map trim)
      = withoutBlankEnds (before ++ [trim line]) := by
  cases line with
  | nil => rw [lines_nil, List.map_nil, List.append_nil, trim_nil, withoutBlankEnds_concat_nil]
  | cons c line => rw [lines_of_notMem hline (List.cons_ne_nil c line), List.map_singleton]

/-- The trimmed lines of a text without the blank ones at its ends. -/
def shownLines (cs : List Char) : List (List Char) :=
  withoutBlankEnds ((lines cs).map trim)

/-- The layout of lines makes no difference to what they show. -/
theorem Relaid.shownLines_eq {cs ds : List Char} (h : Relaid cs ds) :
    shownLines cs = shownLines ds := by
  -- Lines before these can only keep blank lines from being at an end.
  suffices hbefore : ∀ before, withoutBlankEnds (before ++ (lines cs).map trim)
      = withoutBlankEnds (before ++ (lines ds).map trim) from hbefore []
  induction h with
  | last hline hother =>
    intro before
    rw [withoutBlankEnds_last hline.unbroken, withoutBlankEnds_last hother.unbroken,
      hline.trim_eq, hother.trim_eq]
  | @line line other shown _ _ cs ds hline hother hending hending' _ ih =>
    intro before
    have hnext := ih (before ++ [trim shown])
    rw [List.append_assoc, List.append_assoc, List.singleton_append, List.singleton_append] at hnext
    rwa [map_trim_lines_append hline.unbroken hending,
      map_trim_lines_append hother.unbroken hending', hline.trim_eq, hother.trim_eq]

end Text

namespace Markdown.Content

open Text (IsTrimmed shownLines)

/-! ## Normal forms -/

/-- The text has no white space at its ends nor at those of its lines, and single line feeds
stand between these. -/
structure IsNormal (cs : List Char) : Prop where
  trimmed : IsTrimmed cs
  lines_trimmed : ∀ l ∈ Text.lines cs, IsTrimmed l
  joined : Text.joinLines (Text.lines cs) = cs

theorem mem_map_trim_lines {cs l : List Char} (hl : l ∈ (Text.lines cs).map Text.trim) :
    IsTrimmed l ∧ '\n' ∉ l := by
  obtain ⟨m, hm, rfl⟩ := List.mem_map.1 hl
  refine ⟨Text.trim_isTrimmed m, fun hmem => Text.feed_notMem_of_mem_lines m hm ?_⟩
  obtain ⟨trail, hsplit, -⟩ := Text.exists_trim_append m
  rw [hsplit]
  exact List.mem_append_right _ (List.mem_append_left trail hmem)

theorem mem_shownLines {cs l : List Char} (hl : l ∈ shownLines cs) : IsTrimmed l ∧ '\n' ∉ l :=
  mem_map_trim_lines (Text.withoutBlankEnds_subset _ hl)

theorem normalizeLines_eq (cs : List Char) :
    normalizeLines cs = Text.joinLines (shownLines cs) :=
  Text.trim_joinLines fun _ hl => (mem_map_trim_lines hl).1

/-- The lines of the normal form are the trimmed lines of the text, in their order and without
the blank ones at the ends. -/
theorem lines_normalizeLines (cs : List Char) :
    Text.lines (normalizeLines cs) = shownLines cs := by
  rw [normalizeLines_eq]
  exact Text.lines_joinLines (fun l hl => (mem_shownLines hl).2)
    (fun l hl => (mem_shownLines hl).1) (Text.exists_blankEnds _).2.2

theorem normalizeLines_isNormal (cs : List Char) : IsNormal (normalizeLines cs) where
  trimmed := Text.trim_isTrimmed _
  lines_trimmed := by
    rw [lines_normalizeLines]
    exact fun l hl => (mem_shownLines hl).1
  joined := by rw [lines_normalizeLines, normalizeLines_eq]

/-- The normal texts are the ones that stay as they are. -/
theorem normalizeLines_eq_self_iff {cs : List Char} : normalizeLines cs = cs ↔ IsNormal cs := by
  constructor
  · intro h
    rw [← h]
    exact normalizeLines_isNormal cs
  · intro h
    have hlines : (Text.lines cs).map Text.trim = Text.lines cs :=
      (List.map_congr_left fun l hl => Text.trim_eq_self_iff.2 (h.lines_trimmed l hl)).trans
        (List.map_id _)
    rw [normalizeLines, hlines, h.joined]
    exact Text.trim_eq_self_iff.2 h.trimmed

/-- Two texts have one normal form iff they show the same lines. -/
theorem normalizeLines_eq_iff {cs ds : List Char} :
    normalizeLines cs = normalizeLines ds ↔ shownLines cs = shownLines ds := by
  constructor
  · intro h
    rw [← lines_normalizeLines, h, lines_normalizeLines]
  · intro h
    rw [normalizeLines_eq, h, ← normalizeLines_eq]

/-! ## Line ends of a source -/

/-- Line ends make no difference to the normal form. -/
theorem normalizeLines_withReturns (cs : List Char) :
    normalizeLines (Text.withReturns cs) = normalizeLines cs := by
  rw [normalizeLines, Text.lines_withReturns, normalizeLines]

/-- The text of a paragraph or of an underlined heading, with which constants and patterns are
compared. -/
def lineText? (source : List Char) (node : Node) : Option String :=
  match node, node.block? source with
  | .paragraph _, some (.paragraph p) => some p.content
  | .heading .underlined _ _ _, some (.heading h) => some h.content
  | _, _ => none

/-- A range of a node shows the same in the source with carriage returns. -/
theorem normalizeLines_moved {source : List Char} {range : Stretch}
    (hrange : range.moved (Text.cutBefore source) = range) :
    normalizeLines ((range.moved (Text.returned source)).text (Text.withReturns source))
      = normalizeLines (range.text source) := by
  have hstart : Text.Cut source range.start :=
    congrArg Stretch.start hrange ▸ Text.cut_cutBefore source range.start
  have hstop : Text.Cut source range.stop :=
    congrArg Stretch.stop hrange ▸ Text.cut_cutBefore source range.stop
  have htext : (range.moved (Text.returned source)).text (Text.withReturns source)
      = Text.withReturns (range.text source) :=
    Text.slice_withReturns hstart hstop
  rw [htext, normalizeLines_withReturns]

theorem lineText?_moved {source : List Char} {node : Node}
    (hnode : node.moved (Text.cutBefore source) = node) :
    lineText? (Text.withReturns source) (node.moved (Text.returned source))
      = lineText? source node := by
  cases node with
  | paragraph range =>
    have hrange : range.moved (Text.cutBefore source) = range := by simpa [Node.moved] using hnode
    exact congrArg (some <| String.ofList ·) (normalizeLines_moved hrange)
  | heading form level text range =>
    cases form with
    | marked => rfl
    | underlined =>
      rw [Node.moved] at hnode
      injection hnode with _ _ htext _
      exact congrArg (some <| String.ofList ·) (normalizeLines_moved htext)
  | _ => rfl

/-- Paragraphs and underlined headings show the same in the source with carriage returns. -/
theorem map_lineText?_withReturns (source : List Char) :
    (nodes (Text.withReturns source)).map (lineText? (Text.withReturns source))
      = (nodes source).map (lineText? source) := by
  have hcuts : ∀ node ∈ nodes source, node.moved (Text.cutBefore source) = node :=
    List.map_inj_left.1 ((nodes_cutBefore source).trans (List.map_id _).symm)
  rw [nodes_withReturns, List.map_map]
  exact List.map_congr_left fun node hnode => lineText?_moved (hcuts node hnode)

/-- **The normal form of lines is canonical.** It is normal, its lines are the trimmed lines of
the text without the blank ones at its ends, and it is its own normal form. The layout of lines
makes no difference to it, and so none to what paragraphs and underlined headings show; and these
are the same in sources that differ in their line ends alone. -/
theorem normal_lines_are_canonical :
    (∀ cs : List Char,
      IsNormal (normalizeLines cs) ∧
      Text.lines (normalizeLines cs) = shownLines cs ∧
      normalizeLines (normalizeLines cs) = normalizeLines cs) ∧
    (∀ cs ds : List Char, Text.Relaid cs ds → normalizeLines cs = normalizeLines ds) ∧
    (∀ (source other : List Char) (range place : Stretch),
      Text.Relaid (range.text source) (place.text other) →
      (∃ p q : Paragraph, Node.block? source (.paragraph range) = some (.paragraph p) ∧
        Node.block? other (.paragraph place) = some (.paragraph q) ∧ p.content = q.content) ∧
      ∀ (level : Nat) (whole around : Stretch), ∃ g h : Heading,
        Node.block? source (.heading .underlined level range whole) = some (.heading g) ∧
        Node.block? other (.heading .underlined level place around) = some (.heading h) ∧
        g.content = h.content) ∧
    ∀ source other : List Char, Text.withReturns source = Text.withReturns other →
      (nodes source).map (lineText? source) = (nodes other).map (lineText? other) := by
  have hrelaid : ∀ cs ds : List Char, Text.Relaid cs ds → normalizeLines cs = normalizeLines ds :=
    fun cs ds h => normalizeLines_eq_iff.2 h.shownLines_eq
  refine ⟨fun cs => ⟨normalizeLines_isNormal cs, lines_normalizeLines cs, ?_⟩, hrelaid, ?_, ?_⟩
  · exact normalizeLines_eq_self_iff.2 (normalizeLines_isNormal cs)
  · intro source other range place h
    have hcontent := congrArg String.ofList (hrelaid _ _ h)
    exact ⟨⟨_, _, rfl, rfl, hcontent⟩, fun level whole around => ⟨_, _, rfl, rfl, hcontent⟩⟩
  · intro source other h
    rw [← map_lineText?_withReturns source, h, map_lineText?_withReturns]

/-- Two indented lines with carriage returns show the same as two plain ones, also as the
paragraph of a source, and as they do with line feeds alone. -/
theorem laid_out_lines_have_one_normal_form :
    let cs := "  a\tb \r\n c\u3000".toList
    let ds := "a\tb\nc".toList
    let fs := "  a\tb \n c\u3000".toList
    (Text.Relaid cs ds ∧ normalizeLines cs = normalizeLines ds) ∧
    (Text.Relaid (Stretch.text cs ⟨0, 13⟩) (Stretch.text ds ⟨0, 5⟩) ∧
      ∃ p q : Paragraph, Node.block? cs (.paragraph ⟨0, 13⟩) = some (.paragraph p) ∧
        Node.block? ds (.paragraph ⟨0, 5⟩) = some (.paragraph q) ∧ p.content = q.content) ∧
    Text.withReturns cs = Text.withReturns fs ∧
      (nodes cs).map (lineText? cs) = (nodes fs).map (lineText? fs) := by
  intro cs ds fs
  have hblank : ∀ c ∈ [' ', '\u3000'], ∀ d ∈ [c], Text.isBlank d = true := by simp; decide
  have hfirst : Text.LaysOut "  a\tb ".toList "a\tb".toList :=
    ⟨by decide, [' ', ' '], [' '], by decide, by simp; decide, hblank ' ' (by simp)⟩
  have hsecond : Text.LaysOut " c\u3000".toList "c".toList :=
    ⟨by decide, [' '], ['\u3000'], by decide, hblank ' ' (by simp), hblank '\u3000' (by simp)⟩
  have hplain : ∀ line : List Char, '\n' ∉ line → Text.LaysOut line line := fun line hline =>
    ⟨hline, [], [], by simp, by simp, by simp⟩
  have hrelaid : Text.Relaid cs ds :=
    .line hfirst (hplain _ (by decide)) .returnFeed .feed (.last hsecond (hplain _ (by decide)))
  have hwhole : Stretch.text cs ⟨0, 13⟩ = cs ∧ Stretch.text ds ⟨0, 5⟩ = ds := by decide
  have hrange : Text.Relaid (Stretch.text cs ⟨0, 13⟩) (Stretch.text ds ⟨0, 5⟩) := by
    rwa [hwhole.1, hwhole.2]
  have hfeeds : Text.withReturns cs = Text.withReturns fs := by decide
  exact ⟨⟨hrelaid, normal_lines_are_canonical.2.1 cs ds hrelaid⟩,
    ⟨hrange, (normal_lines_are_canonical.2.2.1 cs ds _ _ hrange).1⟩,
    hfeeds, normal_lines_are_canonical.2.2.2 cs fs hfeeds⟩

end Markdown.Content

end Rubric
