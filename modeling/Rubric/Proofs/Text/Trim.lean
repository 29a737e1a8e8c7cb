/-
  Rubric.Proofs.Text.Trim

  What trimming leaves of a text.

  The trimmed text is what stands between the white space in front and that at the
  end, and it neither begins nor ends with white space. This says which text it is, for
  there is one such part only.
-/
import Mathlib.Data.List.DropRight
import Rubric.Text.Blank

namespace Rubric.Text

/-- The shown text is the text without the white space around it. -/
structure Trims (cs shown : List Char) : Prop where
  split : ∃ lead trail, cs = lead ++ (shown ++ trail) ∧
    (∀ c ∈ lead, isBlank c = true) ∧ ∀ c ∈ trail, isBlank c = true
  first : ∀ c ∈ shown.head?, isBlank c = false
  last : ∀ c ∈ shown.getLast?, isBlank c = false

theorem takeWhile_append_trimStart (cs : List Char) :
    cs.takeWhile isBlank ++ trimStart cs = cs :=
  List.takeWhile_append_dropWhile

/-- Cutting back at the end takes off characters of the kind alone, and all of them. -/
theorem exists_dropWhileEnd (p : Char → Bool) (cs : List Char) :
    (∃ trail, cs = dropWhileEnd p cs ++ trail ∧ ∀ c ∈ trail, p c = true) ∧
      ∀ c ∈ (dropWhileEnd p cs).getLast?, p c = false := by
  refine ⟨⟨(cs.reverse.takeWhile p).reverse, ?_, ?_⟩, ?_⟩
  · rw [dropWhileEnd, ← List.reverse_append, List.takeWhile_append_dropWhile,
      List.reverse_reverse]
  · intro c hc
    exact List.mem_takeWhile_imp (List.mem_reverse.1 hc)
  · intro c hc
    rw [dropWhileEnd, List.getLast?_reverse] at hc
    have hstop := List.head?_dropWhile_not p cs.reverse
    rw [Option.mem_def.1 hc] at hstop
    simpa using hstop

/-- What is left of cutting back at the end is the only beginning of a text that does not end in
a character of the kind and that such characters alone stand behind. -/
theorem dropWhileEnd_eq_iff {p : Char → Bool} {cs before : List Char} :
    dropWhileEnd p cs = before ↔
      (∃ trail, cs = before ++ trail ∧ ∀ c ∈ trail, p c = true) ∧
        ∀ c ∈ before.getLast?, p c = false := by
  refine ⟨fun h => h ▸ exists_dropWhileEnd p cs, ?_⟩
  rintro ⟨⟨trail, rfl, htrail⟩, hlast⟩
  have hreverse : ∀ c ∈ trail.reverse, p c = true := fun c hc => htrail c (List.mem_reverse.1 hc)
  rw [dropWhileEnd, List.reverse_append, List.dropWhile_append_of_pos hreverse,
    List.reverse_eq_iff]
  rw [← List.head?_reverse] at hlast
  cases hbefore : before.reverse with
  | nil => rfl
  | cons c rest =>
    rw [hbefore] at hlast
    rw [List.dropWhile_cons_of_neg]
    rw [hlast c rfl]
    exact Bool.false_ne_true

/-- A text is the blanks in front of it, its trimmed text, and the blanks at its end. -/
theorem exists_trim_append (cs : List Char) :
    ∃ trail, cs = cs.takeWhile isBlank ++ (trim cs ++ trail) ∧ ∀ c ∈ trail, isBlank c = true := by
  obtain ⟨⟨trail, hsplit, htrail⟩, -⟩ := exists_dropWhileEnd isBlank (trimStart cs)
  refine ⟨trail, ?_, htrail⟩
  conv_lhs => rw [← takeWhile_append_trimStart cs, hsplit]
  rfl

theorem trim_trims (cs : List Char) : Trims cs (trim cs) := by
  obtain ⟨trail, hsplit, htrail⟩ := exists_trim_append cs
  refine ⟨⟨_, trail, hsplit, fun c hc => List.mem_takeWhile_imp hc, htrail⟩, ?_,
    (exists_dropWhileEnd isBlank (trimStart cs)).2⟩
  -- What is left begins as it did before its end was cut back.
  intro c hc
  have hstart : trimStart cs = trim cs ++ trail :=
    List.append_cancel_left ((takeWhile_append_trimStart cs).trans hsplit)
  have hstop := List.head?_dropWhile_not isBlank cs
  rw [show cs.dropWhile isBlank = trimStart cs from rfl, hstart, List.head?_append,
    Option.mem_def.1 hc, Option.some_or] at hstop
  simpa using hstop

theorem trimStart_eq_self {cs : List Char} (h : ∀ c ∈ cs.head?, isBlank c = false) :
    trimStart cs = cs := by
  cases cs with
  | nil => rfl
  | cons c cs =>
    rw [trimStart, List.dropWhile_cons_of_neg]
    rw [h c rfl]
    exact Bool.false_ne_true

theorem trimEnd_eq_self {cs : List Char} (h : ∀ c ∈ cs.getLast?, isBlank c = false) :
    trimEnd cs = cs := by
  have hreverse : trimStart cs.reverse = cs.reverse := by
    apply trimStart_eq_self
    rwa [List.head?_reverse]
  show (trimStart cs.reverse).reverse = cs
  rw [hreverse, List.reverse_reverse]

/-- Blanks in front are dropped whatever follows them, and so are blanks at the end. -/
theorem trimStart_append_of_blank {lead : List Char} (h : ∀ c ∈ lead, isBlank c = true)
    (cs : List Char) : trimStart (lead ++ cs) = trimStart cs :=
  List.dropWhile_append_of_pos h

theorem trimEnd_append_of_blank {trail : List Char} (h : ∀ c ∈ trail, isBlank c = true)
    (cs : List Char) : trimEnd (cs ++ trail) = trimEnd cs := by
  show (trimStart (cs ++ trail).reverse).reverse = (trimStart cs.reverse).reverse
  rw [List.reverse_append, trimStart_append_of_blank]
  exact fun c hc => h c (List.mem_reverse.1 hc)

/-- **The trimmed text is the only part of a text that has white space around it alone and
    none at its own ends.** -/
theorem trim_eq_iff {cs shown : List Char} : trim cs = shown ↔ Trims cs shown := by
  refine ⟨fun h => h ▸ trim_trims cs, ?_⟩
  rintro ⟨⟨lead, trail, rfl, hlead, htrail⟩, hfirst, hlast⟩
  rw [trim, trimStart_append_of_blank hlead]
  cases shown with
  | nil =>
    have hnothing : trimStart trail = [] := List.dropWhile_eq_nil_iff.2 htrail
    rw [List.nil_append, hnothing, trimEnd_nil]
  | cons c shown =>
    have hbegins : trimStart (c :: shown ++ trail) = c :: shown ++ trail :=
      trimStart_eq_self hfirst
    rw [hbegins, trimEnd_append_of_blank htrail, trimEnd_eq_self hlast]

/-- The text neither begins nor ends with white space. -/
structure IsTrimmed (cs : List Char) : Prop where
  first : ∀ c ∈ cs.head?, isBlank c = false
  last : ∀ c ∈ cs.getLast?, isBlank c = false

theorem trim_isTrimmed (cs : List Char) : IsTrimmed (trim cs) :=
  ⟨(trim_trims cs).first, (trim_trims cs).last⟩

theorem trim_eq_self_iff {cs : List Char} : trim cs = cs ↔ IsTrimmed cs := by
  constructor
  · intro h
    rw [← h]
    exact trim_isTrimmed cs
  · intro h
    exact trim_eq_iff.2 ⟨⟨[], [], by simp, by simp, by simp⟩, h.first, h.last⟩

/-- Of a text with a character that shows something is left. -/
theorem trim_ne_nil {cs : List Char} (hshows : ∃ c ∈ cs, isBlank c = false) : trim cs ≠ [] := by
  intro hnothing
  obtain ⟨lead, trail, hsplit, hlead, htrail⟩ := (trim_trims cs).split
  obtain ⟨c, hc, hshown⟩ := hshows
  rw [hsplit, hnothing, List.nil_append] at hc
  rw [List.forall_mem_append.2 ⟨hlead, htrail⟩ c hc] at hshown
  cases hshown

/-- A text is cut back at its end to its trimmed text and the blanks in front of that, or to
nothing where all of it is blank. -/
theorem trimEnd_eq (cs : List Char) :
    trimEnd cs = if trim cs = [] then [] else cs.takeWhile isBlank ++ trim cs := by
  obtain ⟨trail, hsplit, htrail⟩ := exists_trim_append cs
  have hlead : ∀ c ∈ cs.takeWhile isBlank, isBlank c = true := fun c hc =>
    List.mem_takeWhile_imp hc
  split
  next hnothing =>
    rw [hnothing, List.nil_append] at hsplit
    have hall : ∀ c ∈ cs, isBlank c = true := by
      rw [hsplit]
      exact List.forall_mem_append.2 ⟨hlead, htrail⟩
    exact List.rdropWhile_eq_nil_iff.2 hall
  next hshows =>
    have hlast : ∀ c ∈ (cs.takeWhile isBlank ++ trim cs).getLast?, isBlank c = false := by
      intro c hc
      rw [List.getLast?_append_of_ne_nil _ hshows] at hc
      exact (trim_trims cs).last c hc
    conv_lhs => rw [hsplit]
    rw [← List.append_assoc, trimEnd_append_of_blank htrail, trimEnd_eq_self hlast]

end Rubric.Text
