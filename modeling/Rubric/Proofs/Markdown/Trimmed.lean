/-
  Rubric.Proofs.Markdown.Trimmed

  The span of a trimmed range.

  A trimmed range lies in the range. It starts and ends between characters if the
  range starts there, since blanks are whole characters.
-/
import Rubric.Markdown.Blocks
import Rubric.Proofs.Outline.Extent
import Rubric.Proofs.Text.Boundary
import Rubric.Proofs.Text.Trim

namespace Rubric

namespace Text

/-! ## Lengths -/

theorem byteLength_reverse (cs : List Char) : byteLength cs.reverse = byteLength cs := by
  induction cs with
  | nil => rfl
  | cons c cs ih =>
    rw [List.reverse_cons, byteLength_append, ih, byteLength_cons, byteLength_cons, byteLength_nil]
    omega

theorem byteLength_dropWhile_le (p : Char → Bool) (cs : List Char) :
    byteLength (cs.dropWhile p) ≤ byteLength cs := by
  have happend : byteLength cs
      = byteLength (cs.takeWhile p) + byteLength (cs.dropWhile p) := by
    rw [← byteLength_append, List.takeWhile_append_dropWhile]
  omega

theorem trimEnd_prefix (cs : List Char) : trimEnd cs <+: cs := by
  have hsuffix := List.dropWhile_suffix (l := cs.reverse) isBlank
  rw [trimEnd, dropWhileEnd]
  exact List.reverse_suffix.1 (by rwa [List.reverse_reverse])

theorem byteLength_trimStart_le (cs : List Char) : byteLength (trimStart cs) ≤ byteLength cs :=
  byteLength_dropWhile_le isBlank cs

theorem byteLength_trimEnd_le (cs : List Char) : byteLength (trimEnd cs) ≤ byteLength cs := by
  unfold trimEnd dropWhileEnd
  rw [byteLength_reverse, ← byteLength_reverse cs]
  exact byteLength_dropWhile_le isBlank cs.reverse

/-- A slice is no longer than the range it is cut from. -/
theorem byteLength_slice_le (cs : List Char) (start stop : Nat) :
    byteLength (slice cs start stop) ≤ stop - start := by
  unfold slice
  cases hslice : slice? cs start stop with
  | none => exact Nat.zero_le _
  | some taken =>
    unfold slice? at hslice
    split at hslice
    · obtain ⟨rest, -, htaken⟩ := Option.bind_eq_some_iff.1 hslice
      exact Nat.le_of_eq (takeBytes?_eq_some_iff.1 htaken).2
    · cases hslice

end Text

/-! ## Spans -/

theorem Point.ofOffset_offset (source : List Char) (offset : Nat) :
    (Point.ofOffset source offset).offset = offset :=
  rfl

/-- A trimmed range lies in the range. -/
theorem Span.trimmed_within (source : List Char) {start stop : Nat} (h : start ≤ stop) :
    Within start stop [(Span.trimmed source start stop).ends] := by
  have hslice := Text.byteLength_slice_le source start stop
  have hfirst := Text.byteLength_trimStart_le (Text.slice source start stop)
  have hlast := Text.byteLength_trimEnd_le (Text.slice source start stop)
  -- A range of blanks alone leaves an empty span, where the range ends.
  simp only [within_singleton, Span.ends, Span.trimmed, Point.ofOffset_offset]
  omega

/-- The point is the place of a character of the source, or of the end of the source. -/
def Point.IsAt (source : List Char) (p : Point) : Prop :=
  ∃ offset, Text.Boundary source offset ∧ p = .ofOffset source offset

/-- The span starts and ends at characters of the source. -/
def Span.IsAt (source : List Char) (span : Span) : Prop :=
  span.start.IsAt source ∧ span.stop.IsAt source

/-- A range that starts at a character is trimmed to whole characters. -/
theorem Span.trimmed_isAt {source : List Char} {start : Nat} (h : Text.Boundary source start)
    (stop : Nat) : (Span.trimmed source start stop).IsAt source := by
  unfold Span.trimmed
  extract_lets text first last
  obtain ⟨hfirst, hend⟩ : Text.Boundary source first ∧
      Text.Boundary source (start + Text.byteLength (Text.trimEnd text)) := by
    rcases Text.slice_cases source start stop with hempty | ⟨before, hprefix, rfl⟩
    · have htext : text = [] := hempty
      have hfirst : first = start := by
        show start + (Text.byteLength text - Text.byteLength (Text.trimStart text)) = start
        rw [htext, Text.trimStart_nil, Nat.sub_self, Nat.add_zero]
      rw [hfirst, htext, Text.trimEnd_nil, Text.byteLength_nil, Nat.add_zero]
      exact ⟨h, h⟩
    · -- The blanks before the text follow on what stands before the range.
      have hblanks : Text.byteLength text - Text.byteLength (Text.trimStart text)
          = Text.byteLength (text.takeWhile Text.isBlank) := by
        have hsplit := congrArg Text.byteLength (Text.takeWhile_append_trimStart text)
        rw [Text.byteLength_append] at hsplit
        omega
      refine ⟨⟨before ++ text.takeWhile Text.isBlank, ?_, ?_⟩,
        ⟨before ++ Text.trimEnd text, ?_, Text.byteLength_append _ _⟩⟩
      · exact ((List.prefix_append_right_inj before).2 (List.takeWhile_prefix _)).trans hprefix
      · rw [Text.byteLength_append, ← hblanks]
      · exact ((List.prefix_append_right_inj before).2 (Text.trimEnd_prefix text)).trans hprefix
  have hlast : Text.Boundary source last := by
    show Text.Boundary source (max _ first)
    rcases Nat.le_total (start + Text.byteLength (Text.trimEnd text)) first with hle | hle
    · rwa [max_eq_right hle]
    · rwa [max_eq_left hle]
  exact ⟨⟨first, hfirst, rfl⟩, ⟨last, hlast, rfl⟩⟩

end Rubric
