/-
  Rubric.Proofs.Editor.Position

  Places of a source keep their order in an editor.

  At a character of the source the editor counts the line breaks before it and the
  UTF-16 units after the last of these. A longer prefix has more line breaks, or as
  many and at least as many units after the last one. So the places of two
  characters are in the order of their offsets, as long as 32 bits hold the counts.
-/
import Mathlib.Algebra.Group.Nat.Defs
import Rubric.Editor.Position
import Rubric.Proofs.Markdown.Trimmed
import Rubric.Proofs.Text.LineIndex

namespace Rubric

namespace Text

theorem units16_append (cs ds : List Char) : units16 (cs ++ ds) = units16 cs + units16 ds := by
  induction cs with
  | nil => simp [units16]
  | cons c cs ih => rw [List.cons_append, units16, units16, ih, Nat.add_assoc]

/-- A character has no more UTF-16 units than bytes. -/
theorem units16_le_byteLength (cs : List Char) : units16 cs ≤ byteLength cs := by
  induction cs with
  | nil => exact Nat.le_refl 0
  | cons c cs ih =>
    rw [units16, byteLength_cons]
    refine Nat.add_le_add ?_ ih
    split
    · exact c.utf8Size_pos
    next hlarge =>
      have hfour : c.utf8Size = 4 := by
        rw [Char.utf8Size_eq_four_iff]
        have hnat : c.toNat = c.val.toNat := rfl
        rw [UInt32.lt_iff_toNat_lt]
        show 0xffff < c.val.toNat
        omega
      omega

end Text

/-! ## The line of a place -/

/-- Text ends in a line of its own: what stands before the line is empty or ends with a line
    break. -/
theorem Editor.Position.exists_lastLine (before : List Char) :
    ∃ front, before = front ++ lastLine before ∧ (front = [] ∨ front.getLast? = some '\n') ∧
      '\n' ∉ lastLine before := by
  refine ⟨(before.reverse.dropWhile (· != '\n')).reverse, ?_, ?_, ?_⟩
  · rw [lastLine, ← List.reverse_append, List.takeWhile_append_dropWhile, List.reverse_reverse]
  · rw [List.reverse_eq_nil_iff, List.getLast?_reverse]
    cases hrest : before.reverse.dropWhile (· != '\n') with
    | nil => exact Or.inl rfl
    | cons c rest =>
      have hbreak := List.head?_dropWhile_not (· != '\n') before.reverse
      rw [hrest] at hbreak
      simpa using hbreak
  · intro hmem
    have hline := List.mem_takeWhile_imp (List.mem_reverse.1 hmem)
    simp at hline

theorem Point.ofOffset_line (before after : List Char) :
    (ofOffset (before ++ after) (Text.byteLength before)).line = before.count '\n' + 1 := by
  obtain ⟨front, hsplit, hfront, hline⟩ := Editor.Position.exists_lastLine before
  rw [hsplit, ofOffset_append hfront hline]

namespace Editor

/-! ## Positions and their order -/

/-- The first place is the second one or stands before it. -/
def Position.AtOrBefore (p q : Position) : Prop :=
  p.line < q.line ∨ (p.line = q.line ∧ p.character ≤ q.character)

instance (p q : Position) : Decidable (p.AtOrBefore q) :=
  inferInstanceAs (Decidable (_ ∨ _))

theorem low32_of_lt {n : Nat} (h : n < 2 ^ 32) : low32 n = n :=
  Nat.mod_eq_of_lt h

theorem lastLine_append (cs : List Char) {ds : List Char} (h : '\n' ∉ ds) :
    lastLine (cs ++ ds) = lastLine cs ++ ds := by
  have hall : ∀ c ∈ ds.reverse, (c != '\n') = true := by
    intro c hc
    rw [bne_iff_ne]
    rintro rfl
    exact h (List.mem_reverse.1 hc)
  rw [lastLine, lastLine, List.reverse_append, List.takeWhile_append_of_pos hall,
    List.reverse_append, List.reverse_reverse]

theorem lastLine_suffix (cs : List Char) : lastLine cs <:+ cs := by
  have hprefix := List.takeWhile_prefix (l := cs.reverse) (· != '\n')
  exact List.reverse_prefix.1 (by rwa [lastLine, List.reverse_reverse])

theorem units16_lastLine_le (cs : List Char) :
    Text.units16 (lastLine cs) ≤ Text.byteLength cs := by
  obtain ⟨front, hfront⟩ := lastLine_suffix cs
  have hunits := Text.units16_le_byteLength (lastLine cs)
  have hlength := congrArg Text.byteLength hfront
  rw [Text.byteLength_append] at hlength
  omega

/-- The place in an editor after some characters of a source that 32 bits can count. -/
theorem Position.ofPoint_ofOffset {before after : List Char}
    (hsize : Text.byteLength (before ++ after) < 2 ^ 32) :
    Position.ofPoint (before ++ after)
        (Point.ofOffset (before ++ after) (Text.byteLength before))
      = ⟨before.count '\n', Text.units16 (lastLine before)⟩ := by
  have hbefore : Text.byteLength before < 2 ^ 32 := by
    rw [Text.byteLength_append] at hsize
    omega
  have hcount : before.count '\n' < 2 ^ 32 :=
    (List.count_le_length.trans (Text.length_le_byteLength before)).trans_lt hbefore
  have hunits : Text.units16 (lastLine before) < 2 ^ 32 :=
    (units16_lastLine_le before).trans_lt hbefore
  have htake : Text.takeBytes? (Text.byteLength before) (before ++ after) = some before :=
    Text.takeBytes?_eq_some_iff.2 ⟨List.prefix_append before after, rfl⟩
  rw [Position.ofPoint, Point.ofOffset_offset, htake, Point.ofOffset_line, Nat.add_sub_cancel,
    low32_of_lt hcount]
  show Position.mk _ (low32 (Text.units16 (lastLine before))) = _
  rw [low32_of_lt hunits]

/-- After more characters one stands later. -/
theorem Position.atOrBefore_append (before more : List Char) :
    AtOrBefore ⟨before.count '\n', Text.units16 (lastLine before)⟩
      ⟨(before ++ more).count '\n', Text.units16 (lastLine (before ++ more))⟩ := by
  by_cases hbreak : '\n' ∈ more
  · have hmore := List.count_pos_iff.2 hbreak
    refine Or.inl ?_
    show before.count '\n' < (before ++ more).count '\n'
    rw [List.count_append]
    omega
  · refine Or.inr ⟨?_, ?_⟩
    · show before.count '\n' = (before ++ more).count '\n'
      rw [List.count_append, List.count_eq_zero.2 hbreak, Nat.add_zero]
    · show Text.units16 (lastLine before) ≤ Text.units16 (lastLine (before ++ more))
      rw [lastLine_append before hbreak, Text.units16_append]
      exact Nat.le_add_right _ _

/-- **The places of two characters of a source are in the order of their offsets.** -/
theorem Position.ofPoint_atOrBefore {source : List Char}
    (hsize : Text.byteLength source < 2 ^ 32) {p q : Point} (hp : p.IsAt source)
    (hq : q.IsAt source) (hle : p.offset ≤ q.offset) :
    (Position.ofPoint source p).AtOrBefore (Position.ofPoint source q) := by
  obtain ⟨_, ⟨before, hbefore, rfl⟩, rfl⟩ := hp
  obtain ⟨_, ⟨later, hlater, rfl⟩, rfl⟩ := hq
  rw [Point.ofOffset_offset, Point.ofOffset_offset] at hle
  obtain ⟨more, rfl⟩ := Text.prefix_of_byteLength_le hbefore hlater hle
  obtain ⟨after, rfl⟩ := hlater
  have hlong : Text.byteLength (before ++ (more ++ after)) < 2 ^ 32 := by
    rwa [← List.append_assoc]
  have hfirst := ofPoint_ofOffset hlong
  rw [← List.append_assoc] at hfirst
  rw [hfirst, ofPoint_ofOffset hsize]
  exact atOrBefore_append before more

/-- The range of a span in an editor does not end before it starts. -/
theorem Range.ofSpan_forward {source : String} (hsize : Text.byteLength source.toList < 2 ^ 32)
    {span : Span} (hspan : span.IsAt source.toList)
    (hle : span.start.offset ≤ span.stop.offset) :
    (Range.ofSpan source span).start.AtOrBefore (Range.ofSpan source span).stop :=
  Position.ofPoint_atOrBefore hsize hspan.1 hspan.2 hle

end Editor

end Rubric
