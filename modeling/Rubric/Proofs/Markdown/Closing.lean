/-
  Rubric.Proofs.Markdown.Closing

  The closing run of a heading behind number signs.

  A run of number signs at the end of a heading is the longest one that its trimmed text
  ends in, so there is one such run at most. It closes the heading where it is the whole
  text or stands behind a space or a tab, and is cut off with the white space before it;
  behind any other character it belongs to the text. `Shows` is this rule, and the text
  of a heading is the one that it allows.
-/
import Rubric.Markdown.Blocks
import Rubric.Proofs.Text.Trim

namespace Rubric.Markdown.Content

open Text (IsTrimmed isBlank isGap)

/-! ## Runs of number signs -/

/-- The text ends in a run of number signs, and no number sign stands before the run. -/
structure EndsInRun (text before run : List Char) : Prop where
  split : text = before ++ run
  nonempty : run ≠ []
  signs : ∀ c ∈ run, c = '#'
  longest : before.getLast? ≠ some '#'

variable {text before run shown : List Char}

theorem EndsInRun.dropWhileEnd_eq (h : EndsInRun text before run) :
    Text.dropWhileEnd (· == '#') text = before := by
  refine Text.dropWhileEnd_eq_iff.2 ⟨⟨run, h.split, ?_⟩, ?_⟩
  · intro c hc
    exact beq_iff_eq.2 (h.signs c hc)
  · intro c hc
    refine beq_eq_false_iff_ne.2 ?_
    rintro rfl
    exact h.longest hc

/-- There is one such run at most. -/
theorem EndsInRun.unique {other last : List Char} (h : EndsInRun text before run)
    (hother : EndsInRun text other last) : before = other :=
  h.dropWhileEnd_eq.symm.trans hother.dropWhileEnd_eq

theorem exists_endsInRun (hne : Text.dropWhileEnd (· == '#') text ≠ text) :
    ∃ run, EndsInRun text (Text.dropWhileEnd (· == '#') text) run := by
  obtain ⟨⟨run, hsplit, hrun⟩, hlast⟩ := Text.exists_dropWhileEnd (· == '#') text
  refine ⟨run, hsplit, ?_, ?_, ?_⟩
  · rintro rfl
    exact hne (by rw [List.append_nil] at hsplit; exact hsplit.symm)
  · exact fun c hc => beq_iff_eq.1 (hrun c hc)
  · intro hsign
    cases hlast '#' hsign

/-! ## The rule -/

/-- What a heading with some trimmed text shows. A run of number signs that it ends in closes it
if the run is all there is or if a space or a tab stands before it, and of what stands before it
the white space at the end goes with it. In all other cases the text is shown as it is. -/
inductive Shows (text : List Char) : List Char → Prop
  | nothing {run : List Char} : EndsInRun text [] run → Shows text []
  | front {before run shown trail : List Char} {gap : Char} : EndsInRun text before run →
      before.getLast? = some gap → gap = ' ' ∨ gap = '\t' →
      before = shown ++ trail → (∀ c ∈ trail, isBlank c = true) →
      (∀ c ∈ shown.getLast?, isBlank c = false) → Shows text shown
  | whole : (∀ before run, EndsInRun text before run →
      ∃ c, before.getLast? = some c ∧ c ≠ ' ' ∧ c ≠ '\t') → Shows text text

namespace Shows

/-- The rule leaves no choice. -/
theorem unique {other : List Char} (h : Shows text shown) (hother : Shows text other) :
    shown = other := by
  -- Two different cases of the rule would find different characters before the one run.
  cases h with
  | nothing hrun =>
    cases hother with
    | nothing _ => rfl
    | front hrun' hgap _ _ _ _ =>
      rw [← hrun.unique hrun'] at hgap
      cases hgap
    | whole hopen =>
      obtain ⟨c, hc, -⟩ := hopen _ _ hrun
      cases hc
  | @front before _ _ _ gap hrun hgap hkind hsplit htrail hlast =>
    cases hother with
    | nothing hrun' =>
      rw [hrun.unique hrun'] at hgap
      cases hgap
    | front hrun' _ _ hsplit' htrail' hlast' =>
      have hshown := Text.dropWhileEnd_eq_iff.2 ⟨⟨_, hsplit, htrail⟩, hlast⟩
      have hother := Text.dropWhileEnd_eq_iff.2 ⟨⟨_, hsplit', htrail'⟩, hlast'⟩
      rw [← hshown, ← hother, hrun.unique hrun']
    | whole hopen =>
      obtain ⟨c, hc, hspace, htab⟩ := hopen _ _ hrun
      rw [hgap] at hc
      obtain rfl := Option.some.inj hc
      exact (hkind.elim hspace htab).elim
  | whole hopen =>
    cases hother with
    | nothing hrun =>
      obtain ⟨c, hc, -⟩ := hopen _ _ hrun
      cases hc
    | front hrun hgap hkind _ _ _ =>
      obtain ⟨c, hc, hspace, htab⟩ := hopen _ _ hrun
      rw [hgap] at hc
      obtain rfl := Option.some.inj hc
      exact (hkind.elim hspace htab).elim
    | whole _ => rfl

/-- What is shown begins the text. -/
theorem isPrefix (h : Shows text shown) : shown <+: text := by
  cases h with
  | nothing _ => exact List.nil_prefix
  | front hrun _ _ hsplit _ _ =>
    rw [hrun.split, hsplit, List.append_assoc]
    exact List.prefix_append _ _
  | whole _ => exact List.prefix_rfl

theorem isTrimmed (h : Shows text shown) (htext : IsTrimmed text) : IsTrimmed shown := by
  have hbegins := h.isPrefix
  cases h with
  | nothing _ => exact ⟨by simp, by simp⟩
  | front _ _ _ _ _ hlast =>
    refine ⟨fun c hc => htext.first c ?_, hlast⟩
    obtain ⟨more, rfl⟩ := hbegins
    rw [List.head?_append, Option.mem_def.1 hc]
    rfl
  | whole _ => exact htext

end Shows

theorem isGap_iff {c : Char} : isGap c = true ↔ c = ' ' ∨ c = '\t' := by
  rw [isGap, Bool.or_eq_true, beq_iff_eq, beq_iff_eq]

theorem stripClosing_shows (cs : List Char) : Shows (Text.trim cs) (stripClosing cs) := by
  unfold stripClosing
  extract_lets trimmed before
  split
  next hlength =>
    -- Nothing is dropped, so the text does not end in a number sign.
    refine .whole fun other run hrun => absurd (beq_iff_eq.1 hlength) ?_
    have hbefore : before = other := hrun.dropWhileEnd_eq
    have htrimmed : trimmed = other ++ run := hrun.split
    have hpos := List.length_pos_of_ne_nil hrun.nonempty
    rw [hbefore, htrimmed, List.length_append]
    omega
  next hlength =>
    have hne : before ≠ trimmed := by
      rintro heq
      exact hlength (beq_iff_eq.2 (congrArg List.length heq))
    obtain ⟨run, hrun⟩ : ∃ run, EndsInRun trimmed before run := exists_endsInRun hne
    split
    next hnone =>
      rw [List.getLast?_eq_none_iff] at hnone
      exact .nothing (hnone ▸ hrun)
    next c hc =>
      split
      next hgap =>
        obtain ⟨⟨trail, hsplit, htrail⟩, hlast⟩ := Text.exists_dropWhileEnd isBlank before
        exact .front hrun hc (isGap_iff.1 hgap) hsplit htrail hlast
      next hgap =>
        refine .whole fun other run' hrun' => ⟨c, ?_, ?_⟩
        · rwa [← hrun.unique hrun']
        · exact not_or.1 fun h => hgap (isGap_iff.2 h)

/-- **A closing run of number signs is removed by the rule.** What is left of a text is the one
that the rule allows for its trimmed text. It begins the trimmed text, and it neither begins nor
ends with white space. The headings behind number signs show what the rule allows for the text
of their range. -/
theorem closing_run_is_removed (cs : List Char) :
    (∀ shown, stripClosing cs = shown ↔ Shows (Text.trim cs) shown) ∧
    IsTrimmed (stripClosing cs) ∧
    stripClosing cs <+: Text.trim cs ∧
    ∀ (source : List Char) (level : Nat) (text range : Stretch), ∃ h : Heading,
      Node.block? source (.heading .marked level text range) = some (.heading h) ∧
      Shows (Text.trim (text.text source)) h.content.toList := by
  have hshows := stripClosing_shows cs
  refine ⟨fun shown => ⟨?_, hshows.unique⟩, hshows.isTrimmed (Text.trim_isTrimmed cs),
    hshows.isPrefix, fun source level text range => ⟨_, rfl, ?_⟩⟩
  · rintro rfl
    exact hshows
  · rw [String.toList_ofList]
    exact stripClosing_shows _

/-- Only the last run closes a heading, and the tab before it is cut off as well. -/
example : stripClosing " C# ## \t###\n".toList = "C# ##".toList := by decide

end Rubric.Markdown.Content
