/-
  Rubric.Proofs.Markdown.Exact

  The span of a range is exact.

  A range of a source stands at characters, and is shown as the span of its text
  without the white space around it. The span is measured by lengths of trimmed texts,
  those of the text without its front and of the text without its end. Both come to the
  same trimmed text, also where nothing is left of it. A point of the span counts the
  line breaks before it and the characters after the last of them.
-/
import Rubric.Proofs.Editor.Offset
import Rubric.Proofs.Text.Trim

namespace Rubric

open Text (Boundary byteLength isBlank)

/-! ## Points -/

namespace Point

/-- The point is the place behind some characters of the source. Its line is one more than
    the line breaks in them, its column one more than the characters after the last line
    break, and its offset their length in bytes. -/
def IsBehind (source : List Char) (p : Point) : Prop :=
  ∃ front line, front ++ line <+: source ∧ (front = [] ∨ front.getLast? = some '\n') ∧
    '\n' ∉ line ∧ p.offset = byteLength (front ++ line) ∧
    p.line = (front ++ line).count '\n' + 1 ∧ p.column = line.length + 1

theorem IsAt.isBehind {source : List Char} {p : Point} (h : p.IsAt source) :
    p.IsBehind source := by
  obtain ⟨_, ⟨before, ⟨after, rfl⟩, rfl⟩, rfl⟩ := h
  obtain ⟨front, hsplit, hfront, hline⟩ := Editor.Position.exists_lastLine before
  rw [hsplit, ofOffset_append hfront hline]
  exact ⟨front, Editor.lastLine before, List.prefix_append _ after, hfront, hline, rfl, rfl, rfl⟩

theorem IsBehind.boundary {source : List Char} {p : Point} (h : p.IsBehind source) :
    Boundary source p.offset := by
  obtain ⟨front, line, hprefix, -, -, hoffset, -⟩ := h
  exact ⟨front ++ line, hprefix, hoffset.symm⟩

end Point

/-! ## Spans -/

namespace Span

variable {source text : List Char} {start stop : Nat}

/-- The span starts behind the blanks in front of the text and is as long as the trimmed text. -/
theorem trimmed_eq (hslice : Text.slice? source start stop = some text) :
    Span.trimmed source start stop =
      ⟨.ofOffset source (start + byteLength (text.takeWhile isBlank)),
        .ofOffset source
          (start + byteLength (text.takeWhile isBlank) + byteLength (Text.trim text))⟩ := by
  have hfront : byteLength text - byteLength (Text.trimStart text)
      = byteLength (text.takeWhile isBlank) := by
    have hsplit := congrArg byteLength (Text.takeWhile_append_trimStart text)
    rw [Text.byteLength_append] at hsplit
    omega
  -- Of white space alone the end cut back is nothing, and the larger offset is the first one.
  have hlast : max (start + byteLength (Text.trimEnd text))
      (start + byteLength (text.takeWhile isBlank))
        = start + byteLength (text.takeWhile isBlank) + byteLength (Text.trim text) := by
    rw [Text.trimEnd_eq]
    split
    next hnothing =>
      rw [hnothing, Text.byteLength_nil]
      omega
    next hshows =>
      rw [Text.byteLength_append]
      omega
  unfold trimmed
  rw [Text.slice, hslice]
  dsimp only [Option.getD_some]
  rw [hfront, hlast]

/-- Between the ends of the span stands the trimmed text. -/
theorem slice?_trimmed (hslice : Text.slice? source start stop = some text) :
    Text.slice? source (Span.trimmed source start stop).start.offset
      (Span.trimmed source start stop).stop.offset = some (Text.trim text) := by
  obtain ⟨before, hbefore, hlength, -⟩ := Text.slice?_eq_some_iff.1 hslice
  obtain ⟨trail, hsplit, -⟩ := Text.exists_trim_append text
  rw [trimmed_eq hslice, Point.ofOffset_offset, Point.ofOffset_offset]
  refine Text.slice?_eq_some_iff.2 ⟨before ++ text.takeWhile isBlank, ?_, ?_, rfl⟩
  · have hprefix : before ++ text.takeWhile isBlank ++ Text.trim text <+: before ++ text := by
      conv_rhs => rw [hsplit]
      rw [List.append_assoc, List.prefix_append_right_inj, List.prefix_append_right_inj]
      exact List.prefix_append _ trail
    exact hprefix.trans hbefore
  · rw [Text.byteLength_append, hlength]

/-- **Spans of ranges are exact.** A range between two characters of a source has a span
    inside of it, and between the ends of the span stands the text of the range without the
    white space around it. Both ends are places of characters, and each counts the line
    breaks before it and the characters after the last of them. -/
theorem trimmed_isExact (source : String) (hstart : Boundary source.toList start)
    (hstop : Boundary source.toList stop) (hle : start ≤ stop) :
    let span := Span.trimmed source.toList start stop
    (start ≤ span.start.offset ∧ span.start.offset ≤ span.stop.offset ∧
      span.stop.offset ≤ stop) ∧
    (∃ text, Text.slice? source.toList start stop = some text ∧
      Text.slice? source.toList span.start.offset span.stop.offset = some (Text.trim text) ∧
      Text.Trims text (Text.trim text)) ∧
    (Boundary source.toList span.start.offset ∧ Boundary source.toList span.stop.offset) ∧
    span.start.IsBehind source.toList ∧ span.stop.IsBehind source.toList := by
  intro span
  obtain ⟨text, hslice⟩ := Text.exists_slice? hstart hstop hle
  have hfirst : span.start.IsBehind source.toList := (Span.trimmed_isAt hstart stop).1.isBehind
  have hlast : span.stop.IsBehind source.toList := (Span.trimmed_isAt hstart stop).2.isBehind
  exact ⟨within_singleton.1 (Span.trimmed_within source.toList hle),
    ⟨text, hslice, slice?_trimmed hslice, Text.trim_trims text⟩,
    ⟨hfirst.boundary, hlast.boundary⟩, hfirst, hlast⟩

/-- White space of three bytes goes on either side of an emoji, and where there is nothing
    else the span is empty. -/
theorem wide_blanks_are_trimmed :
    let source := "é\n\u3000b😀\u2003\n\n"
    let text := "\n\u3000b😀\u2003\n".toList
    Boundary source.toList 2 ∧ Boundary source.toList 15 ∧
      Span.trimmed source.toList 2 15 = ⟨⟨2, 2, 6⟩, ⟨2, 4, 11⟩⟩ ∧
      Text.slice? source.toList 2 15 = some text ∧
      Text.slice? source.toList 6 11 = some (Text.trim text) ∧
      Span.trimmed source.toList 11 16 = ⟨⟨4, 1, 16⟩, ⟨4, 1, 16⟩⟩ := by
  intro source text
  have hstart : Boundary source.toList 2 := by decide
  have hstop : Boundary source.toList 15 := by decide
  have hspan : Span.trimmed source.toList 2 15 = ⟨⟨2, 2, 6⟩, ⟨2, 4, 11⟩⟩ := by decide
  have htext : Text.slice? source.toList 2 15 = some text := by decide
  obtain ⟨-, ⟨text', htext', hshown, -⟩, -⟩ := trimmed_isExact source hstart hstop (by decide)
  obtain rfl : text' = text := Option.some.inj (htext'.symm.trans htext)
  rw [hspan] at hshown
  exact ⟨hstart, hstop, hspan, htext, hshown, by decide⟩

end Span

end Rubric
