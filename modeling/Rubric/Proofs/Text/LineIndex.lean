/-
  Rubric.Proofs.Text.LineIndex

  The lines of a text and the places in them.

  The table of a text has an entry for each line, in increasing order, so that the lines that
  start at an offset or before come first in it. Behind some characters of the text these are
  the lines of the characters: one more than they have line feeds, the last of which starts
  behind the last line feed.
-/
import Mathlib.Data.List.TakeWhile
import Rubric.Position
import Rubric.Proofs.Text.Boundary

namespace Rubric

open Text (byteLength)

namespace LineIndex

/-! ## The table -/

theorem startsBehind_append (here : Nat) (cs ds : List Char) :
    startsBehind here (cs ++ ds) =
      startsBehind here cs ++ startsBehind (here + byteLength cs) ds := by
  induction cs generalizing here with
  | nil => rfl
  | cons c cs ih =>
    rw [List.cons_append, startsBehind, startsBehind, Text.byteLength_cons, ← Nat.add_assoc]
    split
    next hbreak =>
      subst hbreak
      rw [ih, List.cons_append]
      rfl
    next => rw [ih]

theorem length_startsBehind (here : Nat) (cs : List Char) :
    (startsBehind here cs).length = cs.count '\n' := by
  induction cs generalizing here with
  | nil => rfl
  | cons c cs ih =>
    rw [startsBehind]
    split
    next hbreak =>
      subst hbreak
      rw [List.length_cons, ih, List.count_cons_self]
    next hbreak => rw [ih, List.count_cons_of_ne hbreak]

/-- A line that starts behind a line feed starts in the text or at its end. -/
theorem mem_startsBehind {here start : Nat} {cs : List Char} (h : start ∈ startsBehind here cs) :
    here < start ∧ start ≤ here + byteLength cs := by
  induction cs generalizing here with
  | nil => cases h
  | cons c cs ih =>
    have hsize := c.utf8Size_pos
    rw [startsBehind] at h
    rw [Text.byteLength_cons]
    split at h
    next hbreak =>
      subst hbreak
      have hone : ('\n' : Char).utf8Size = 1 := rfl
      obtain rfl | hlater := List.mem_cons.1 h
      · omega
      · have := ih hlater
        omega
    next =>
      have := ih h
      omega

/-- Lines start one behind the other. -/
theorem startsBehind_pairwise (here : Nat) (cs : List Char) :
    (here :: startsBehind here cs).Pairwise (· < ·) := by
  refine List.pairwise_cons.2 ⟨fun start hstart => (mem_startsBehind hstart).1, ?_⟩
  induction cs generalizing here with
  | nil => exact List.Pairwise.nil
  | cons c cs ih =>
    rw [startsBehind]
    split
    · exact List.pairwise_cons.2 ⟨fun start hstart => (mem_startsBehind hstart).1, ih _⟩
    · exact ih _

/-! ## The line of an offset -/

/-- The lines that start at an offset or before come first in the table. -/
theorem lt_of_mem_dropWhile {starts : List Nat} (h : starts.Pairwise (· < ·)) {offset later : Nat}
    (hlater : later ∈ starts.dropWhile (· ≤ offset)) : offset < later := by
  induction starts with
  | nil => cases hlater
  | cons start rest ih =>
    obtain ⟨hrest, hpairwise⟩ := List.pairwise_cons.1 h
    rw [List.dropWhile_cons] at hlater
    split at hlater
    · exact ih hpairwise hlater
    next hstart =>
      have hlt : offset < start := by simpa using hstart
      obtain rfl | hmem := List.mem_cons.1 hlater
      · exact hlt
      · exact Nat.lt_trans hlt (hrest later hmem)

theorem lineStart_eq {index : LineIndex} {offset line start : Nat}
    (hline : (index.starts.takeWhile (· ≤ offset)).length = line + 1)
    (hstart : index.starts[line]? = some start) :
    index.lineStart offset = (line + 1, start) := by
  have hmax : max (line + 1) 1 = line + 1 := Nat.max_eq_left (Nat.succ_pos line)
  simp only [lineStart, hline, hmax, Nat.add_sub_cancel, List.getD_eq_getElem?_getD, hstart,
    Option.getD_some]

/-- The line of an offset starts there or before, and all lines behind it start later. -/
theorem lineStart_spec (source : List Char) (offset : Nat) :
    let index := ofText source
    let (line, start) := index.lineStart offset
    index.starts[line - 1]? = some start ∧ start ≤ offset ∧
      ∀ later ∈ index.starts.drop line, offset < later := by
  intro index
  have hsplit : index.starts.takeWhile (· ≤ offset) ++ index.starts.dropWhile (· ≤ offset) =
      index.starts := List.takeWhile_append_dropWhile
  obtain hnone | ⟨lines, start, hlines⟩ :=
    List.eq_nil_or_concat (index.starts.takeWhile (· ≤ offset))
  · -- The first line starts before every offset.
    simp [index, ofText] at hnone
  · have hstart : start ≤ offset := by
      have hmem : start ∈ index.starts.takeWhile (· ≤ offset) := by simp [hlines]
      simpa using List.mem_takeWhile_imp hmem
    rw [hlines, List.concat_eq_append, List.append_assoc, List.singleton_append] at hsplit
    have hfound : index.starts[lines.length]? = some start := by
      rw [← hsplit, List.getElem?_append_right (Nat.le_refl _), Nat.sub_self]
      rfl
    rw [lineStart_eq (by rw [hlines]; simp) hfound]
    refine ⟨hfound, hstart, fun later hlater => lt_of_mem_dropWhile
      (startsBehind_pairwise 0 source) ?_⟩
    have hdrop : index.starts.drop (lines.length + 1) = index.starts.dropWhile (· ≤ offset) := by
      conv_lhs => rw [← hsplit]
      simp
    exact hdrop ▸ hlater

/-- Behind some characters of the text, the lines that start there or before are theirs. -/
theorem takeWhile_starts (before after : List Char) :
    (ofText (before ++ after)).starts.takeWhile (· ≤ byteLength before) =
      (ofText before).starts := by
  rw [ofText, ofText, startsBehind_append, ← List.cons_append, List.takeWhile_append_of_pos]
  · cases hlater : startsBehind (0 + byteLength before) after with
    | nil => rw [List.takeWhile_nil, List.append_nil]
    | cons start rest =>
      -- What starts behind a later line feed starts behind the characters.
      have hstart := (mem_startsBehind (hlater ▸ List.mem_cons_self)).1
      rw [List.takeWhile_cons_of_neg (by simpa using by omega), List.append_nil]
  · intro start hstart
    obtain rfl | hstart := List.mem_cons.1 hstart
    · exact decide_eq_true (Nat.zero_le _)
    · have := (mem_startsBehind hstart).2
      exact decide_eq_true (by omega)

/-- The last line of characters that end with a line feed starts behind them. -/
theorem getElem?_starts {front : List Char} (hfront : front = [] ∨ front.getLast? = some '\n') :
    (ofText front).starts[front.count '\n']? = some (byteLength front) := by
  obtain rfl | hlast := hfront
  · rfl
  · obtain ⟨before, rfl⟩ := List.getLast?_eq_some_iff.1 hlast
    have hends : (ofText (before ++ ['\n'])).starts =
        (ofText before).starts ++ [byteLength (before ++ ['\n'])] := by
      rw [ofText, startsBehind_append, ofText, Text.byteLength_append, Nat.zero_add]
      rfl
    have hlength : (ofText before).starts.length = (before ++ ['\n']).count '\n' := by
      simp [ofText, length_startsBehind]
    rw [hends, ← hlength, List.getElem?_concat_length]

/-- The line of a place starts behind the last line feed before the place. -/
theorem lineStart_append {front line : List Char} (hfront : front = [] ∨ front.getLast? = some '\n')
    (hline : '\n' ∉ line) (after : List Char) :
    (ofText (front ++ line ++ after)).lineStart (byteLength (front ++ line)) =
      ((front ++ line).count '\n' + 1, byteLength front) := by
  have hcount : (front ++ line).count '\n' = front.count '\n' := by
    rw [List.count_append, List.count_eq_zero_of_not_mem hline, Nat.add_zero]
  have hlength : (ofText (front ++ line)).starts.length = (front ++ line).count '\n' + 1 :=
    congrArg (· + 1) (length_startsBehind 0 (front ++ line))
  have hstart : (ofText (front ++ line ++ after)).starts[front.count '\n']? =
      some (byteLength front) := by
    have hfound := getElem?_starts hfront
    have hlt := (List.getElem?_eq_some_iff.1 hfound).1
    rw [List.append_assoc, ofText, startsBehind_append]
    exact (List.getElem?_append_left hlt).trans hfound
  rw [hcount]
  exact lineStart_eq (by rw [takeWhile_starts, hlength, hcount]) hstart

end LineIndex

/-- The place behind some characters: its line is one more than their line feeds, and its
    column one more than the characters behind the last line feed. -/
theorem Point.ofOffset_append {front line : List Char}
    (hfront : front = [] ∨ front.getLast? = some '\n') (hline : '\n' ∉ line) (after : List Char) :
    ofOffset (front ++ line ++ after) (byteLength (front ++ line)) =
      ⟨(front ++ line).count '\n' + 1, line.length + 1, byteLength (front ++ line)⟩ := by
  have hslice : Text.slice? (front ++ line ++ after) (byteLength front)
      (byteLength (front ++ line)) = some line :=
    Text.slice?_eq_some_iff.2
      ⟨front, List.prefix_append _ after, rfl, (Text.byteLength_append front line).symm⟩
  have hplace := LineIndex.lineStart_append hfront hline after
  simp only [ofOffset, LineIndex.point, hplace, LineIndex.distance]
  rw [LineIndex.ofText, hslice]

end Rubric
