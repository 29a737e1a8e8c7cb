/-
  Rubric.Proofs.Markdown.Definitions

  Link reference definitions take up whole lines.

  A definition ends where a line of the paragraph ends, and holds at least one
  line. Cutting the definitions off a paragraph therefore leaves ranges and lines
  that stand in the order of the lines, and none of them is empty.
-/
import Rubric.Proofs.Markdown.Blocks
import Rubric.Proofs.Markdown.Place

namespace Rubric.Markdown

namespace Reference

/-! ## Where a definition ends -/

/-- The rest of a text comes right after a line feed in it, or is empty. -/
def AfterLine (cs rest : List Char) : Prop :=
  rest = [] ∨ '\n' :: rest <:+ cs

theorem AfterLine.of_suffix {cs ds rest : List Char} (h : AfterLine cs rest) (hsuffix : cs <:+ ds) :
    AfterLine ds rest :=
  h.imp_right fun hrest => hrest.trans hsuffix

/-- What is a rest of a text still is one with a character before the text. -/
theorem suffix_cons_of_suffix {rest cs : List Char} (c : Char) (h : rest <:+ cs) :
    rest <:+ c :: cs :=
  h.trans (List.suffix_cons c cs)

theorem delimited?_suffix {close : Char} {banned cs rest : List Char}
    (h : delimited? close banned cs = some rest) : rest <:+ cs := by
  fun_induction delimited? close banned cs with
  | case1 => cases h
  | case2 c cs _ ih => exact suffix_cons_of_suffix _ (suffix_cons_of_suffix c (ih h))
  | case3 c cs _ ih => exact suffix_cons_of_suffix _ (ih h)
  | case4 c cs =>
    obtain rfl := Option.some.inj h
    exact List.suffix_cons c cs
  | case5 => cases h
  | case6 c cs _ _ _ ih => exact suffix_cons_of_suffix c (ih h)

theorem bareDestination?_suffix {depth : Nat} {cs rest : List Char}
    (h : bareDestination? depth cs = some rest) : rest <:+ cs := by
  fun_induction bareDestination? depth cs with
  | case1 =>
    obtain rfl := Option.some.inj h
    exact List.suffix_rfl
  | case2 => cases h
  | case3 depth c cs _ ih => exact suffix_cons_of_suffix _ (suffix_cons_of_suffix c (ih h))
  | case4 depth c cs _ ih => exact suffix_cons_of_suffix _ (ih h)
  | case5 depth cs ih => exact suffix_cons_of_suffix _ (ih h)
  | case6 => cases h
  | case7 depth cs ih => exact suffix_cons_of_suffix _ (ih h)
  | case8 =>
    obtain rfl := Option.some.inj h
    exact List.suffix_rfl
  | case9 => cases h
  | case10 depth c cs _ _ _ _ _ ih => exact suffix_cons_of_suffix c (ih h)

theorem destination?_suffix {cs rest : List Char} (h : destination? cs = some rest) :
    rest <:+ cs := by
  unfold destination? at h
  split at h
  · exact suffix_cons_of_suffix _ (delimited?_suffix h)
  · cases h
  split at h
  · cases h
  · exact bareDestination?_suffix h

theorem skipBreak_suffix (cs : List Char) : skipBreak cs <:+ cs := by
  have hblanks := List.dropWhile_suffix (l := cs) Text.isGap
  unfold skipBreak
  split
  next rest hbreak =>
    rw [hbreak] at hblanks
    exact (suffix_cons_of_suffix _ (List.dropWhile_suffix Text.isGap)).trans hblanks
  next => exact hblanks

theorem lineEnd?_afterLine {cs rest : List Char} (h : lineEnd? cs = some rest) :
    AfterLine cs rest := by
  have hblanks := List.dropWhile_suffix (l := cs) Text.isGap
  unfold lineEnd? at h
  split at h
  · exact Or.inl (Option.some.inj h).symm
  next after hend =>
    obtain rfl := Option.some.inj h
    exact Or.inr (hend ▸ hblanks)
  · cases h

/-- A title up to its closing character, and what ends its line. -/
theorem afterLine_of_delimited? {close : Char} {banned cs rest : List Char}
    (h : (delimited? close banned cs).bind lineEnd? = some rest) : AfterLine cs rest := by
  obtain ⟨after, hafter, hend⟩ := Option.bind_eq_some_iff.1 h
  exact (lineEnd?_afterLine hend).of_suffix (delimited?_suffix hafter)

theorem title?_afterLine {cs rest : List Char} (h : title? cs = some rest) :
    AfterLine cs rest := by
  have hbreak := skipBreak_suffix cs
  unfold title? at h
  split at h
  · cases h
  split at h
  next inner hquote =>
    rw [hquote] at hbreak
    exact (afterLine_of_delimited? h).of_suffix ((List.suffix_cons _ _).trans hbreak)
  next inner hquote =>
    rw [hquote] at hbreak
    exact (afterLine_of_delimited? h).of_suffix ((List.suffix_cons _ _).trans hbreak)
  next inner hquote =>
    rw [hquote] at hbreak
    exact (afterLine_of_delimited? h).of_suffix ((List.suffix_cons _ _).trans hbreak)
  · cases h

/-- A definition ends with a line. -/
theorem definition?_afterLine {cs rest : List Char} (h : definition? cs = some rest) :
    AfterLine cs rest := by
  have hblanks := List.dropWhile_suffix (l := cs) Text.isGap
  unfold definition? at h
  split at h
  · cases h
  next label _ hlabel =>
    rw [hlabel] at hblanks
    split at h
    next after hafter =>
      split at h
      next following hfollowing =>
        -- The text after the destination is still a rest of the whole paragraph.
        have hdestination : following <:+ after :=
          (destination?_suffix hfollowing).trans (skipBreak_suffix after)
        have hinside : following <:+ label :=
          (suffix_cons_of_suffix ':' hdestination).trans (delimited?_suffix hafter)
        have hsuffix : following <:+ cs := (suffix_cons_of_suffix '[' hinside).trans hblanks
        -- Without a title after it, the line with the destination has to end.
        split at h
        next htitle =>
          obtain rfl := Option.some.inj h
          exact (title?_afterLine htitle).of_suffix hsuffix
        next => exact (lineEnd?_afterLine h).of_suffix hsuffix
      next => cases h
    next => cases h
  next => cases h

end Reference

/-! ## Cutting definitions off a paragraph -/

/-- The offsets where a line of a paragraph starts and stops. -/
def ParagraphLine.ends (l : ParagraphLine) : Nat × Nat :=
  (l.start, l.stop)

namespace Reader

/-- No line of a paragraph goes on over a line feed. -/
def Unbroken (lines : List ParagraphLine) : Prop :=
  ∀ l ∈ lines, '\n' ∉ l.text

theorem count_joined {lines : List ParagraphLine} (h : Unbroken lines) :
    (joined lines).count '\n' = lines.length - 1 := by
  induction lines with
  | nil => rfl
  | cons l ls ih =>
    obtain ⟨hl, hls⟩ := List.forall_mem_cons.1 h
    have hcount : l.text.count '\n' = 0 := List.count_eq_zero.2 hl
    cases ls with
    | nil => exact hcount
    | cons next ls =>
      have hrest := ih hls
      show (l.text ++ '\n' :: joined (next :: ls)).count '\n' = _
      rw [List.count_append, hcount, List.count_cons_self, hrest]
      simp

/-- A definition takes up at least one line. -/
theorem left_lt_length {lines : List ParagraphLine} {rest : List Char} (hne : lines ≠ [])
    (h : Unbroken lines) (hrest : Reference.AfterLine (joined lines) rest) :
    (if rest.isEmpty then 0 else rest.count '\n' + 1) < lines.length := by
  have hlength := List.length_pos_iff.2 hne
  rcases hrest with rfl | hsuffix
  · exact hlength
  · -- The line feed before the rest is one that the rest does not have.
    have hle : rest.count '\n' + 1 ≤ (joined lines).count '\n' := by
      rw [← List.count_cons_self]
      exact hsuffix.sublist.count_le '\n'
    rw [count_joined h] at hle
    split <;> omega

theorem rangeOf_within {lo hi : Nat} {lines : List ParagraphLine} (hne : lines ≠ [])
    (h : Within lo hi (lines.map ParagraphLine.ends)) :
    Within lo hi [(rangeOf lines).ends] := by
  cases lines with
  | nil => exact absurd rfl hne
  | cons l ls =>
    have hlast : lastEnd l.ends.2 (ls.map ParagraphLine.ends) = (ls.getLast?.getD l).stop := by
      unfold lastEnd
      rw [List.getLast?_map]
      cases ls.getLast? <;> rfl
    have hhull := h.hull
    rwa [hlast] at hhull

/-- The definitions cut off and the lines left are in the order of the lines. -/
theorem cutDefinitions_within (fuel : Nat) {lo hi : Nat} {lines : List ParagraphLine}
    (hunbroken : Unbroken lines) (h : Within lo hi (lines.map ParagraphLine.ends)) :
    Within lo hi ((cutDefinitions fuel lines).1.map Stretch.ends
        ++ (cutDefinitions fuel lines).2.map ParagraphLine.ends) ∧
      (cutDefinitions fuel lines).2 <:+ lines := by
  induction fuel generalizing lo lines with
  | zero => exact ⟨h, List.suffix_rfl⟩
  | succ fuel ih =>
    unfold cutDefinitions
    split
    · exact ⟨within_nil.2 h.le, List.nil_suffix⟩
    next hne =>
      split
      · exact ⟨h, List.suffix_rfl⟩
      next rest hdefinition =>
        rw [List.isEmpty_iff] at hne
        have hleft := left_lt_length hne hunbroken (Reference.definition?_afterLine hdefinition)
        extract_lets left taken
        rw [← List.take_append_drop (lines.length - left) lines, List.map_append,
          within_append] at h
        obtain ⟨mid, htaken, hdropped⟩ := h
        have hsuffix := List.drop_suffix (lines.length - left) lines
        have hkept : Unbroken (lines.drop (lines.length - left)) :=
          fun l hl => hunbroken l (hsuffix.subset hl)
        obtain ⟨hrest, hfinal⟩ := ih hkept hdropped
        -- The range of the definition needs a line to start with.
        have hnonempty : taken ≠ [] := by
          rw [← List.length_pos_iff, List.length_take]
          omega
        have hall := within_append.2 ⟨mid, rangeOf_within hnonempty htaken, hrest⟩
        exact ⟨hall, hfinal.trans hsuffix⟩

end Reader

end Rubric.Markdown
