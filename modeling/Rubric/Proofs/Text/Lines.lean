/-
  Rubric.Proofs.Text.Lines

  Lines of a text and the text of lines.

  Lines that have no line feed in them and do not end in a carriage return are the lines
  of the text that they make up, the last one unless it is empty. Of such a text of
  trimmed lines nothing is trimmed but the empty lines at its ends, which are its only
  blanks there. Writing every line end as a carriage return and a line feed leaves the
  lines of a text as they are.
-/
import Mathlib.Data.List.DropRight
import Rubric.Text.Line
import Rubric.Proofs.Text.Trim

namespace Rubric.Text

/-! ## Lines -/

/-- A character that does not begin a line end begins the first line. -/
theorem lines_cons {c : Char} {cs : List Char} (hfeed : c ≠ '\n')
    (hreturn : c = '\r' → cs.head? ≠ some '\n') :
    lines (c :: cs) = (c :: (lines cs).headD []) :: (lines cs).tail := by
  have hpair : ∀ rest, c = '\r' → cs = '\n' :: rest → False := by
    rintro rest heq rfl
    exact hreturn heq rfl
  rw [lines.eq_4 c cs hfeed hpair]
  cases lines cs with
  | nil => rfl
  | cons l ls => rfl

theorem feed_notMem_of_mem_lines {cs : List Char} : ∀ l ∈ lines cs, '\n' ∉ l := by
  fun_induction lines cs with
  | case1 => exact List.forall_mem_nil _
  | case2 cs ih => exact List.forall_mem_cons.2 ⟨List.not_mem_nil, ih⟩
  | case3 cs ih => exact List.forall_mem_cons.2 ⟨List.not_mem_nil, ih⟩
  | case4 c cs hfeed _ hnone _ =>
    exact List.forall_mem_singleton.2 fun hmem => hfeed (List.mem_singleton.1 hmem).symm
  | case5 c cs hfeed _ l ls hsome ih =>
    rw [hsome] at ih
    obtain ⟨hl, hls⟩ := List.forall_mem_cons.1 ih
    exact List.forall_mem_cons.2
      ⟨fun hmem => (List.mem_cons.1 hmem).elim (fun heq => hfeed heq.symm) hl, hls⟩

theorem lines_of_notMem {l : List Char} (hfeed : '\n' ∉ l) (hne : l ≠ []) : lines l = [l] := by
  induction l with
  | nil => exact absurd rfl hne
  | cons c l ih =>
    rw [List.mem_cons, not_or] at hfeed
    rw [lines_cons (Ne.symm hfeed.1) fun _ => ?_]
    · cases l with
      | nil => rfl
      | cons d l => rw [ih hfeed.2 (List.cons_ne_nil d l)]; rfl
    · exact fun hhead => hfeed.2 (List.mem_of_head? hhead)

/-- What stands before the first line feed is the beginning of the first line, unless it ends in
a carriage return that belongs to a line end. -/
theorem lines_append {l cs : List Char} (hfeed : '\n' ∉ l)
    (hreturn : l.getLast? = some '\r' → cs.head? ≠ some '\n') (hne : lines cs ≠ []) :
    lines (l ++ cs) = (l ++ (lines cs).headD []) :: (lines cs).tail := by
  induction l with
  | nil =>
    obtain ⟨m, ms, hlines⟩ := List.exists_cons_of_ne_nil hne
    rw [List.nil_append, hlines]
    rfl
  | cons c l ih =>
    rw [List.mem_cons, not_or] at hfeed
    have hhead : c = '\r' → (l ++ cs).head? ≠ some '\n' := by
      rintro rfl
      cases l with
      | nil => exact hreturn rfl
      | cons d l => exact fun heq => hfeed.2 (Option.some.inj heq ▸ List.mem_cons_self)
    have hlast : l.getLast? = some '\r' → cs.head? ≠ some '\n' := by
      cases l with
      | nil => exact fun heq => nomatch heq
      | cons d l => exact hreturn
    rw [List.cons_append, lines_cons (Ne.symm hfeed.1) hhead, ih hfeed.2 hlast]
    rfl

/-- A line, its line feed and what follows. -/
theorem lines_append_feed {l : List Char} (hfeed : '\n' ∉ l) (hreturn : l.getLast? ≠ some '\r')
    (cs : List Char) : lines (l ++ '\n' :: cs) = l :: lines cs := by
  have hnext : lines ('\n' :: cs) = [] :: lines cs := rfl
  rw [lines_append hfeed (fun heq => absurd heq hreturn) (by simp [hnext]), hnext,
    List.headD_cons, List.append_nil, List.tail_cons]

theorem lines_append_returnFeed {l : List Char} (hfeed : '\n' ∉ l) (cs : List Char) :
    lines (l ++ '\r' :: '\n' :: cs) = l :: lines cs := by
  have hnext : lines ('\r' :: '\n' :: cs) = [] :: lines cs := rfl
  rw [lines_append hfeed (fun _ => by simp) (by simp [hnext]), hnext, List.headD_cons,
    List.append_nil, List.tail_cons]

/-! ## Texts of lines -/

theorem joinLines_append_of_ne_nil {ls : List (List Char)} (hne : ls ≠ [])
    (before : List (List Char)) :
    joinLines (before ++ ls) = before.flatMap (· ++ ['\n']) ++ joinLines ls := by
  induction before with
  | nil => rfl
  | cons l before ih =>
    obtain ⟨m, rest, hrest⟩ :=
      List.exists_cons_of_ne_nil (List.append_ne_nil_of_right_ne_nil before hne)
    rw [List.cons_append, hrest, joinLines_cons_cons, ← hrest, ih, List.flatMap_cons,
      List.append_assoc, List.append_assoc]
    rfl

theorem joinLines_cons_append (l : List Char) (ls after : List (List Char)) :
    joinLines (l :: ls ++ after) = joinLines (l :: ls) ++ after.flatMap ('\n' :: ·) := by
  induction ls generalizing l with
  | nil =>
    induction after generalizing l with
    | nil => exact (List.append_nil l).symm
    | cons m after ih =>
      have hrest := ih m
      rw [List.singleton_append] at hrest
      rw [List.singleton_append, joinLines_cons_cons, hrest, List.flatMap_cons]
      rfl
  | cons m ls ih =>
    rw [List.cons_append, List.cons_append, joinLines_cons_cons, ← List.cons_append, ih,
      joinLines_cons_cons, List.append_assoc]
    rfl

theorem head?_joinLines {l : List Char} (hne : l ≠ []) (ls : List (List Char)) :
    (joinLines (l :: ls)).head? = l.head? := by
  have happend := joinLines_cons_append l [] ls
  rw [List.singleton_append] at happend
  rw [happend]
  exact List.head?_append_of_ne_nil _ hne

theorem getLast?_joinLines {l : List Char} (hne : l ≠ []) (ls : List (List Char)) :
    (joinLines (ls ++ [l])).getLast? = l.getLast? := by
  rw [joinLines_append_of_ne_nil (List.cons_ne_nil l [])]
  exact List.getLast?_append_of_ne_nil _ hne

/-- Nothing but empty lines make up nothing but line feeds. -/
theorem isBlank_of_mem_joinLines {ls : List (List Char)} (hempty : ∀ l ∈ ls, l = []) :
    ∀ c ∈ joinLines ls, isBlank c = true := by
  induction ls with
  | nil => exact List.forall_mem_nil _
  | cons l ls ih =>
    obtain ⟨rfl, hls⟩ := List.forall_mem_cons.1 hempty
    cases ls with
    | nil => exact List.forall_mem_nil _
    | cons m ls => exact List.forall_mem_cons.2 ⟨by decide, ih hls⟩

/-- Trimmed lines are the lines of the text that they make up, if the last one is not empty. -/
theorem lines_joinLines {ls : List (List Char)} (hfeed : ∀ l ∈ ls, '\n' ∉ l)
    (htrimmed : ∀ l ∈ ls, IsTrimmed l) (hlast : ∀ l ∈ ls.getLast?, l ≠ []) :
    lines (joinLines ls) = ls := by
  induction ls with
  | nil => rfl
  | cons l ls ih =>
    obtain ⟨hl, hls⟩ := List.forall_mem_cons.1 hfeed
    obtain ⟨htrim, htrims⟩ := List.forall_mem_cons.1 htrimmed
    cases ls with
    | nil => exact lines_of_notMem hl (hlast l rfl)
    | cons m ls =>
      have hreturn : l.getLast? ≠ some '\r' := by
        intro hend
        cases htrim.last '\r' hend
      rw [joinLines_cons_cons, lines_append_feed hl hreturn, ih hls htrims hlast]

/-! ## Empty lines at the ends -/

/-- The lines without the empty ones before the first and after the last line that is not. -/
def withoutBlankEnds (ls : List (List Char)) : List (List Char) :=
  (ls.dropWhile List.isEmpty).rdropWhile List.isEmpty

/-- Empty lines alone are left out, and all of them that stand at an end. -/
theorem exists_blankEnds (ls : List (List Char)) :
    (∃ before after, ls = before ++ (withoutBlankEnds ls ++ after) ∧
      (∀ l ∈ before, l = []) ∧ ∀ l ∈ after, l = []) ∧
    (∀ l ∈ (withoutBlankEnds ls).head?, l ≠ []) ∧
    ∀ l ∈ (withoutBlankEnds ls).getLast?, l ≠ [] := by
  let kept := ls.dropWhile List.isEmpty
  have hkept : kept = withoutBlankEnds ls ++ kept.rtakeWhile List.isEmpty :=
    List.rdropWhile_append_rtakeWhile.symm
  refine ⟨⟨ls.takeWhile List.isEmpty, kept.rtakeWhile List.isEmpty, ?_, ?_, ?_⟩, ?_, ?_⟩
  · rw [← hkept]
    exact List.takeWhile_append_dropWhile.symm
  · exact fun l hl => List.isEmpty_iff.1 (List.mem_takeWhile_imp hl)
  · exact fun l hl => List.isEmpty_iff.1 (List.mem_rtakeWhile_imp hl)
  · -- What is left begins as it did before its end was cut back.
    intro l hl
    have hstop := List.head?_dropWhile_not List.isEmpty ls
    rw [show ls.dropWhile List.isEmpty = kept from rfl, hkept, List.head?_append,
      Option.mem_def.1 hl, Option.some_or] at hstop
    simpa using hstop
  · intro l hl
    obtain ⟨hne, rfl⟩ := List.mem_getLast?_eq_getLast hl
    have hstop := List.rdropWhile_last_not List.isEmpty kept hne
    rwa [List.isEmpty_iff] at hstop

theorem withoutBlankEnds_subset (ls : List (List Char)) : withoutBlankEnds ls ⊆ ls := by
  obtain ⟨⟨before, after, hsplit, -, -⟩, -, -⟩ := exists_blankEnds ls
  intro l hl
  rw [hsplit]
  exact List.mem_append_right before (List.mem_append_left after hl)

theorem withoutBlankEnds_concat_nil (ls : List (List Char)) :
    withoutBlankEnds (ls ++ [[]]) = withoutBlankEnds ls := by
  rw [withoutBlankEnds, List.dropWhile_append]
  split
  next hnone =>
    rw [List.isEmpty_iff] at hnone
    rw [withoutBlankEnds, hnone]
    rfl
  next => exact List.rdropWhile_concat_pos _ _ _ rfl

/-- The blanks around a text of trimmed lines are its empty lines there. -/
theorem trim_joinLines {ls : List (List Char)} (htrimmed : ∀ l ∈ ls, IsTrimmed l) :
    trim (joinLines ls) = joinLines (withoutBlankEnds ls) := by
  have hkept : ∀ l ∈ withoutBlankEnds ls, IsTrimmed l := fun l hl =>
    htrimmed l (withoutBlankEnds_subset ls hl)
  obtain ⟨⟨before, after, hsplit, hbefore, hafter⟩, hfirst, hlast⟩ := exists_blankEnds ls
  rw [trim_eq_iff]
  generalize withoutBlankEnds ls = kept at *
  subst hsplit
  cases kept with
  | nil =>
    have hblank := isBlank_of_mem_joinLines (List.forall_mem_append.2 ⟨hbefore, hafter⟩)
    refine ⟨⟨joinLines (before ++ after), [], ?_, hblank, by simp⟩, by simp [joinLines],
      by simp [joinLines]⟩
    rw [List.nil_append, joinLines, List.append_nil, List.append_nil]
  | cons l rest =>
    refine ⟨⟨before.flatMap (· ++ ['\n']), after.flatMap ('\n' :: ·), ?_, ?_, ?_⟩, ?_, ?_⟩
    · rw [joinLines_append_of_ne_nil (by simp), joinLines_cons_append]
    · intro c hc
      obtain ⟨m, hm, hc⟩ := List.mem_flatMap.1 hc
      rw [hbefore m hm, List.nil_append, List.mem_singleton] at hc
      rw [hc]
      decide
    · intro c hc
      obtain ⟨m, hm, hc⟩ := List.mem_flatMap.1 hc
      rw [hafter m hm, List.mem_singleton] at hc
      rw [hc]
      decide
    · intro c hc
      rw [head?_joinLines (hfirst l rfl)] at hc
      exact (hkept l List.mem_cons_self).first c hc
    · intro c hc
      obtain ⟨front, last, hends⟩ : ∃ front last, l :: rest = front ++ [last] :=
        (List.eq_nil_or_concat' (l :: rest)).resolve_left (List.cons_ne_nil l rest)
      rw [hends] at hlast hkept hc
      rw [getLast?_joinLines (hlast last List.getLast?_concat)] at hc
      exact (hkept last (List.mem_append_right front List.mem_cons_self)).last c hc

end Rubric.Text
