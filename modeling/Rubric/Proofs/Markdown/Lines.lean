/-
  Rubric.Proofs.Markdown.Lines

  The lines of a source and where they stand in it.

  A line stands in the source with its line end, and neither it nor any place on it takes
  a line end apart. The source with a carriage return before every line feed has the same
  lines, which only stand elsewhere; what is skipped at the beginning of a source is the
  same in both, since that is found by what the lines say.
-/
import Mathlib.Data.List.Forall2
import Rubric.Proofs.Markdown.Shift
import Rubric.Proofs.Text.Returns

namespace Rubric.Markdown

open Text (Cut Splits byteLength returned withReturns)

/-! ## Lines that stand elsewhere -/

namespace SourceLine

/-- The line stands elsewhere with the same text. -/
def Displaced (line other : SourceLine) : Prop :=
  ∃ d, other.place = line.place.shift d

/-- The second line has the text of the first one some bytes later, and the offsets of the
first line are moved to those of the second. -/
structure MovesBy (f : Nat → Nat) (d : Nat) (line other : SourceLine) : Prop where
  place : other.place = line.place.shift d
  places : ∀ p, line.On p → f p.offset = p.offset + d
  stop : other.stop = f line.stop

variable {f : Nat → Nat} {d : Nat} {line other : SourceLine}

theorem Displaced.text (h : line.Displaced other) : other.text = line.text := by
  obtain ⟨d, hplace⟩ := h
  exact congrArg Place.rest hplace

theorem Displaced.terminated (h : line.Displaced other) :
    decide (0 < other.ending) = decide (0 < line.ending) := by
  obtain ⟨d, hplace⟩ := h
  exact congrArg Place.terminated hplace

theorem MovesBy.displaced (h : line.MovesBy f d other) : line.Displaced other := ⟨d, h.place⟩

theorem MovesBy.start (h : line.MovesBy f d other) : other.start = f line.start := by
  have hstart : other.start = line.start + d := congrArg Place.offset h.place
  exact hstart.trans (h.places line.place (Place.Reaches.refl line.place)).symm

end SourceLine

/-! ## Lines of a source -/

/-- The line stands in the source between two other parts of it with its line end, and none of
these take a line end apart. -/
structure SourceLine.Stands (source : List Char) (line : SourceLine)
    (before lineEnd after : List Char) : Prop where
  source_eq : source = before ++ (line.text ++ (lineEnd ++ after))
  start : line.start = byteLength before
  ending : line.ending = byteLength lineEnd
  unbroken : '\n' ∉ line.text ∧ '\r' ∉ line.text
  splits_before : Splits before (line.text ++ (lineEnd ++ after))
  splits_after : Splits (before ++ (line.text ++ lineEnd)) after

namespace SourceLine.Stands

variable {source before lineEnd after : List Char} {line other : SourceLine}
  (h : line.Stands source before lineEnd after)
include h

theorem stop_eq : line.stop = byteLength (before ++ (line.text ++ lineEnd)) := by
  rw [stop, h.start, h.ending, Text.byteLength_append, Text.byteLength_append, Nat.add_assoc]

/-- A place of the line stands behind some of its text, where the source splits. -/
theorem exists_passed {p : Place} (hp : line.On p) :
    ∃ passed, line.text = passed ++ p.rest ∧ p.offset = byteLength (before ++ passed) ∧
      source = before ++ passed ++ (p.rest ++ (lineEnd ++ after)) ∧
      Splits (before ++ passed) (p.rest ++ (lineEnd ++ after)) := by
  obtain ⟨passed, hrest, hoffset⟩ := hp
  have htext : line.text = passed ++ p.rest := hrest
  have hplace : p.offset = line.start + byteLength passed := hoffset
  have hsplits := h.splits_before
  rw [htext, List.append_assoc] at hsplits
  have hreturn : '\r' ∉ passed := fun hmem => h.unbroken.2 (htext ▸ List.mem_append_left _ hmem)
  refine ⟨passed, htext, ?_, ?_, hsplits.assoc hreturn⟩
  · rw [hplace, h.start, Text.byteLength_append]
  · rw [h.source_eq, htext, List.append_assoc, List.append_assoc]

/-- No place on the line takes a line end apart. -/
theorem place_cut {p : Place} (hp : line.On p) : Cut source p.offset := by
  obtain ⟨passed, -, hoffset, hsource, hsplits⟩ := h.exists_passed hp
  exact ⟨_, _, hsource, hoffset.symm, hsplits⟩

theorem source_eq_append : source = before ++ (line.text ++ lineEnd) ++ after := by
  rw [h.source_eq, List.append_assoc, List.append_assoc]

theorem stop_cut : Cut source line.stop :=
  ⟨_, _, h.source_eq_append, h.stop_eq.symm, h.splits_after⟩

/-- In the source with carriage returns the text of the line stands as it is. -/
theorem withReturns_eq : withReturns (before ++ (line.text ++ lineEnd))
    = withReturns before ++ (line.text ++ withReturns lineEnd) := by
  have hsplits := h.splits_before
  rw [← List.append_assoc] at hsplits
  have htext : Splits line.text lineEnd := fun hlast =>
    absurd (List.mem_of_getLast? hlast) h.unbroken.2
  rw [Text.withReturns_append hsplits.left, Text.withReturns_append htext,
    Text.withReturns_of_notMem h.unbroken.1]

end SourceLine.Stands

/-- The second line is the first one in the source with carriage returns. -/
def SourceLine.Returned (source : List Char) (line other : SourceLine) : Prop :=
  ∃ before lineEnd after, line.Stands source before lineEnd after ∧
    other.text = line.text ∧ other.start = byteLength (withReturns before) ∧
    other.ending = byteLength (withReturns lineEnd)

theorem SourceLine.Returned.movesBy {source : List Char} {line other : SourceLine}
    (h : line.Returned source other) : ∃ d, line.MovesBy (returned source) d other := by
  obtain ⟨before, lineEnd, after, hline, htext, hstart, hending⟩ := h
  -- The line is moved by the carriage returns that come before it.
  obtain ⟨d, hlonger⟩ := Nat.exists_eq_add_of_le (Text.byteLength_le_withReturns before)
  refine ⟨d, ?_, ?_, ?_⟩
  · have hterminated : (0 < other.ending) = (0 < line.ending) := by
      rw [hending, hline.ending, Nat.pos_iff_ne_zero, Nat.pos_iff_ne_zero, ne_eq, ne_eq,
        Text.byteLength_eq_zero, Text.byteLength_eq_zero, Text.withReturns_eq_nil]
    have hmoved : other.start = line.start + d := by rw [hstart, hlonger, hline.start]
    simp only [place, hterminated, hmoved, htext]
    rfl
  · intro p hp
    obtain ⟨passed, hsplit, hoffset, hsource, hsplits⟩ := hline.exists_passed hp
    have hfirst := hline.splits_before
    rw [hsplit, List.append_assoc] at hfirst
    have hfeed : '\n' ∉ passed := fun hmem =>
      hline.unbroken.1 (hsplit ▸ List.mem_append_left _ hmem)
    rw [hoffset, hsource, Text.returned_byteLength hsplits, Text.withReturns_append hfirst.left,
      Text.withReturns_of_notMem hfeed, Text.byteLength_append, Text.byteLength_append, hlonger,
      Nat.add_right_comm]
  · rw [hline.stop_eq, hline.source_eq_append, Text.returned_byteLength hline.splits_after,
      hline.withReturns_eq, stop, hstart, htext, hending, Text.byteLength_append,
      Text.byteLength_append, Nat.add_assoc]

theorem SourceLine.Returned.displaced {source : List Char} {line other : SourceLine}
    (h : line.Returned source other) : line.Displaced other := by
  obtain ⟨d, hmoves⟩ := h.movesBy
  exact hmoves.displaced

/-- A line with its line end, and the lines after it. -/
theorem returned_cons_line (lineEnd : List Char) {before line cs : List Char}
    {begun here there : Nat}
    (hbegun : begun = byteLength before) (hhere : here = byteLength (before ++ line.reverse))
    (hthere : there = byteLength (withReturns before ++ line.reverse))
    (hunbroken : '\n' ∉ line ∧ '\r' ∉ line)
    (hsplits : Splits before (line.reverse ++ (lineEnd ++ cs)))
    (hlast : Splits (before ++ (line.reverse ++ lineEnd)) cs)
    (hrest : ∀ before {there}, here + byteLength lineEnd = byteLength before →
      here + byteLength lineEnd = byteLength (before ++ [].reverse) →
      there = byteLength (withReturns before ++ [].reverse) →
      ('\n' ∉ ([] : List Char) ∧ '\r' ∉ ([] : List Char)) → Splits before ([].reverse ++ cs) →
      List.Forall₂ (SourceLine.Returned (before ++ ([].reverse ++ cs)))
        (cutLines (here + byteLength lineEnd) (here + byteLength lineEnd) [] cs)
        (cutLines (byteLength (withReturns before)) there [] (withReturns cs))) :
    List.Forall₂ (SourceLine.Returned (before ++ (line.reverse ++ (lineEnd ++ cs))))
      (⟨begun, line.reverse, byteLength lineEnd⟩
        :: cutLines (here + byteLength lineEnd) (here + byteLength lineEnd) [] cs)
      (⟨byteLength (withReturns before), line.reverse, byteLength (withReturns lineEnd)⟩
        :: cutLines (there + byteLength (withReturns lineEnd))
          (there + byteLength (withReturns lineEnd)) [] (withReturns cs)) := by
  have hreverse : '\n' ∉ line.reverse ∧ '\r' ∉ line.reverse := by
    rwa [List.mem_reverse, List.mem_reverse]
  have hstands : SourceLine.Stands (before ++ (line.reverse ++ (lineEnd ++ cs)))
      ⟨begun, line.reverse, byteLength lineEnd⟩ before lineEnd cs :=
    ⟨rfl, hbegun, rfl, hreverse, hsplits, hlast⟩
  have hmoved : there + byteLength (withReturns lineEnd)
      = byteLength (withReturns (before ++ (line.reverse ++ lineEnd))) := by
    rw [hthere, hstands.withReturns_eq, ← List.append_assoc,
      Text.byteLength_append _ (withReturns _)]
  have hbefore : here + byteLength lineEnd = byteLength (before ++ (line.reverse ++ lineEnd)) := by
    rw [hhere, ← List.append_assoc, Text.byteLength_append _ lineEnd]
  have hnext := hrest (before ++ (line.reverse ++ lineEnd)) hbefore
    (by rwa [List.reverse_nil, List.append_nil]) rfl (by simp) hlast
  rw [List.reverse_nil, List.append_nil (withReturns _), ← hmoved, List.nil_append,
    List.append_assoc, List.append_assoc] at hnext
  exact .cons ⟨before, lineEnd, cs, hstands, rfl, rfl, rfl⟩ hnext

/-- The lines of a text and the lines of the text with carriage returns. -/
theorem cutLines_returned (before line : List Char) {cs : List Char} {begun here there : Nat}
    (hbegun : begun = byteLength before) (hhere : here = byteLength (before ++ line.reverse))
    (hthere : there = byteLength (withReturns before ++ line.reverse))
    (hunbroken : '\n' ∉ line ∧ '\r' ∉ line) (hsplits : Splits before (line.reverse ++ cs)) :
    List.Forall₂ (SourceLine.Returned (before ++ (line.reverse ++ cs)))
      (cutLines begun here line cs)
      (cutLines (byteLength (withReturns before)) there line (withReturns cs)) := by
  fun_induction cutLines begun here line cs generalizing before there with
  | case1 begun here line hempty =>
    rw [withReturns, cutLines, if_pos hempty]
    exact .nil
  | case2 here begun line hempty =>
    rw [withReturns, cutLines, if_neg hempty]
    refine returned_cons_line [] hbegun hhere hthere hunbroken hsplits (Text.splits_nil_right _) ?_
    intros
    exact .nil
  | case3 begun here line cs ih =>
    have hlast : Splits (before ++ (line.reverse ++ ['\n'])) cs := by simp [Splits]
    exact returned_cons_line ['\n'] hbegun hhere hthere hunbroken hsplits hlast ih
  | case4 begun here line cs ih =>
    have hlast : Splits (before ++ (line.reverse ++ ['\r', '\n'])) cs := by simp [Splits]
    exact returned_cons_line ['\r', '\n'] hbegun hhere hthere hunbroken hsplits hlast ih
  | case5 begun here line cs hfeed ih =>
    have hhead : cs.head? ≠ some '\n' := Text.head?_ne_of_forall hfeed
    have hlast : Splits (before ++ (line.reverse ++ ['\r'])) cs := fun _ => hhead
    rw [Text.withReturns_cons (by decide) fun _ => hhead, cutLines.eq_4]
    · exact returned_cons_line ['\r'] hbegun hhere hthere hunbroken hsplits hlast ih
    · rintro rest hrest
      exact Text.head?_withReturns_ne cs (by rw [hrest]; rfl)
  | case6 begun here line c cs hfeed hpair hreturn ih =>
    have hgrown : (c :: line).reverse ++ cs = line.reverse ++ c :: cs := by
      rw [List.reverse_cons, List.append_assoc, List.singleton_append]
    have hlength : ∀ before, byteLength (before ++ (c :: line).reverse)
        = byteLength (before ++ line.reverse) + c.utf8Size := by
      intro before
      rw [List.reverse_cons, ← List.append_assoc, Text.byteLength_append _ [c]]
      rfl
    have hplain : '\n' ∉ c :: line ∧ '\r' ∉ c :: line := by
      rw [List.mem_cons, List.mem_cons, not_or, not_or]
      exact ⟨⟨Ne.symm hfeed, hunbroken.1⟩, Ne.symm hreturn, hunbroken.2⟩
    have hgrows : there + c.utf8Size = byteLength (withReturns before ++ (c :: line).reverse) := by
      rw [hthere, hlength]
    have hnext := ih before hbegun (by rw [hhere, hlength]) hgrows hplain (hgrown ▸ hsplits)
    rw [hgrown] at hnext
    rwa [Text.withReturns_cons hfeed fun hc => absurd hc hreturn,
      cutLines.eq_5 _ _ _ _ _ hfeed (fun _ hc => absurd hc hreturn) hreturn]

theorem sourceLines_of_head?_ne {source : List Char} (hmark : source.head? ≠ some '\uFEFF') :
    sourceLines source = cutLines 0 0 [] source := by
  unfold sourceLines
  split
  next rest => exact absurd rfl hmark
  next => rfl

theorem sourceLines_returned (source : List Char) :
    List.Forall₂ (SourceLine.Returned source) (sourceLines source)
      (sourceLines (withReturns source)) := by
  have hempty : '\n' ∉ ([] : List Char) ∧ '\r' ∉ ([] : List Char) := by simp
  by_cases hmark : source.head? = some '\uFEFF'
  · obtain ⟨rest, rfl⟩ := List.head?_eq_some_iff.1 hmark
    -- The byte order mark stands before the first line, and stays there.
    exact cutLines_returned ['\uFEFF'] [] rfl rfl rfl hempty (by simp [Splits])
  · have hreturned : (withReturns source).head? ≠ some '\uFEFF' := by
      fun_cases withReturns source with
      | case1 => simp
      | case2 cs => simp
      | case3 cs => simp
      | case4 c cs => simpa using hmark
    rw [sourceLines_of_head?_ne hmark, sourceLines_of_head?_ne hreturned]
    exact cutLines_returned [] [] rfl rfl rfl hempty (Text.splits_nil_left _)

/-! ## The body -/

theorem forall₂_dropWhile {R : SourceLine → SourceLine → Prop} {lines others : List SourceLine}
    {p : SourceLine → Bool} (hp : ∀ line other, R line other → p other = p line)
    (h : List.Forall₂ R lines others) :
    List.Forall₂ R (lines.dropWhile p) (others.dropWhile p) := by
  induction h with
  | nil => exact .nil
  | @cons line other lines others hline hlines ih =>
    rw [List.dropWhile_cons, List.dropWhile_cons, hp line other hline]
    split
    · exact ih
    · exact .cons hline hlines

/-- What is skipped is found by what the lines say. -/
theorem skipData_returned {source : List Char} (mark : Char) {lines others : List SourceLine}
    (h : List.Forall₂ (SourceLine.Returned source) lines others) :
    List.Forall₂ (SourceLine.Returned source) (skipData mark lines) (skipData mark others) := by
  cases h with
  | nil => exact .nil
  | @cons first first' rest rest' hfirst hrest =>
    obtain ⟨d, hplace⟩ := hfirst.displaced
    unfold skipData
    extract_lets isFence
    have hends : ∀ line other : SourceLine, line.Returned source other →
        (!(isFence other.text && decide (0 < other.ending)))
          = !(isFence line.text && decide (0 < line.ending)) := by
      intro line other hline
      rw [hline.displaced.text, hline.displaced.terminated]
    have hdropped := forall₂_dropWhile hends hrest
    dsimp only
    rw [hplace, Place.skipBlanks_shift, Place.shift_indent, Place.shift_rest,
      Place.shift_terminated]
    split
    · generalize rest.dropWhile (fun l => !(isFence l.text && decide (0 < l.ending))) = found
        at hdropped ⊢
      generalize rest'.dropWhile (fun l => !(isFence l.text && decide (0 < l.ending))) = found'
        at hdropped ⊢
      cases hdropped with
      | nil => exact .cons hfirst hrest
      | cons _ hafter => exact hafter
    · exact .cons hfirst hrest

/-- **The source with carriage returns has the same lines.** -/
theorem bodyLines_returned (source : List Char) :
    List.Forall₂ (SourceLine.Returned source) (bodyLines source)
      (bodyLines (withReturns source)) := by
  have hlines := sourceLines_returned source
  unfold bodyLines
  generalize sourceLines source = lines at hlines ⊢
  generalize sourceLines (withReturns source) = others at hlines ⊢
  cases hlines with
  | nil => exact .nil
  | @cons line other lines others hline hlines =>
    obtain ⟨d, hplace⟩ := hline.displaced
    dsimp only
    rw [hplace, Place.skipBlanks_shift, Place.shift_rest]
    exact skipData_returned _ (.cons hline hlines)

theorem bodyLines_stand (source : List Char) :
    ∀ line ∈ bodyLines source, ∃ before lineEnd after, line.Stands source before lineEnd after := by
  have hlines : List.Forall₂ (fun line other => (∃ before lineEnd after,
      line.Stands source before lineEnd after) ∧ line.Returned source other)
      (bodyLines source) (bodyLines (withReturns source)) := by
    refine (bodyLines_returned source).imp fun line other h => ⟨?_, h⟩
    obtain ⟨before, lineEnd, after, hstands, -⟩ := h
    exact ⟨before, lineEnd, after, hstands⟩
  exact ((List.forall₂_and_left _ _).1 hlines).1

theorem bodyLines_unbroken (source : List Char) : ∀ line ∈ bodyLines source, '\n' ∉ line.text := by
  intro line hline
  obtain ⟨before, lineEnd, after, hstands⟩ := bodyLines_stand source line hline
  exact hstands.unbroken.1

end Rubric.Markdown
