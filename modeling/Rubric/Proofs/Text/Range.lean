/-
  Rubric.Proofs.Text.Range

  Ranges of offsets that follow one another.

  A range is a start and an end. `InOrder` says of some ranges that they do not
  run backwards and do not overlap. `Within` says the same with a bound on either
  side and by recursion, so that lists of ranges can be put together and taken
  apart. It serves blocks, sections, nodes and lines alike.
-/
import Mathlib.Data.List.Chain

namespace Rubric

/-- No range ends before it starts, and none ends after the next one starts. -/
def InOrder (ranges : List (Nat × Nat)) : Prop :=
  (∀ r ∈ ranges, r.1 ≤ r.2) ∧ ranges.IsChain fun a b => a.2 ≤ b.1

/-- The ranges are in order, none starts before `lo`, and none ends after `hi`. -/
def Within (lo hi : Nat) : List (Nat × Nat) → Prop
  | [] => lo ≤ hi
  | r :: rest => lo ≤ r.1 ∧ r.1 ≤ r.2 ∧ Within r.2 hi rest

/-- The end of the last range, or `lo` where there is none. -/
def lastEnd (lo : Nat) (ranges : List (Nat × Nat)) : Nat :=
  (ranges.getLast?.map Prod.snd).getD lo

/-- The range from the start of the first of some ranges to the end of the last. -/
def hull? : List (Nat × Nat) → Option (Nat × Nat)
  | [] => none
  | r :: rest => some (r.1, lastEnd r.2 rest)

instance (ranges : List (Nat × Nat)) : Decidable (InOrder ranges) :=
  inferInstanceAs (Decidable (_ ∧ _))

@[simp] theorem lastEnd_nil (lo : Nat) : lastEnd lo [] = lo := rfl

@[simp] theorem lastEnd_cons (lo : Nat) (r : Nat × Nat) (rest : List (Nat × Nat)) :
    lastEnd lo (r :: rest) = lastEnd r.2 rest := by
  unfold lastEnd
  cases hlast : rest.getLast? with
  | none =>
    obtain rfl : rest = [] := List.getLast?_eq_none_iff.1 hlast
    rfl
  | some last => simp [List.getLast?_cons, hlast]

theorem lastEnd_append (lo : Nat) (first second : List (Nat × Nat)) :
    lastEnd lo (first ++ second) = lastEnd (lastEnd lo first) second := by
  induction first generalizing lo with
  | nil => rfl
  | cons r rest ih => rw [List.cons_append, lastEnd_cons, ih, lastEnd_cons]

/-- What holds of every end, and of the bound where there is none, holds of the last end. -/
theorem lastEnd_induction {p : Nat → Prop} {lo : Nat} {ranges : List (Nat × Nat)} (hlo : p lo)
    (hranges : ∀ r ∈ ranges, p r.2) : p (lastEnd lo ranges) := by
  induction ranges generalizing lo with
  | nil => exact hlo
  | cons r rest ih =>
    rw [List.forall_mem_cons] at hranges
    rw [lastEnd_cons]
    exact ih hranges.1 hranges.2

/-! ## Bounds -/

variable {lo hi : Nat} {r : Nat × Nat} {ranges rest first second : List (Nat × Nat)}

theorem within_nil : Within lo hi [] ↔ lo ≤ hi := Iff.rfl

theorem within_cons :
    Within lo hi (r :: rest) ↔ lo ≤ r.1 ∧ r.1 ≤ r.2 ∧ Within r.2 hi rest := Iff.rfl

theorem within_singleton :
    Within lo hi [r] ↔ lo ≤ r.1 ∧ r.1 ≤ r.2 ∧ r.2 ≤ hi := Iff.rfl

theorem Within.le (h : Within lo hi ranges) : lo ≤ hi := by
  induction ranges generalizing lo with
  | nil => exact h
  | cons r rest ih =>
    obtain ⟨hlo, hr, hrest⟩ := h
    have hhi := ih hrest
    omega

theorem Within.mono {lo' hi' : Nat} (h : Within lo hi ranges)
    (hlo : lo' ≤ lo) (hhi : hi ≤ hi') : Within lo' hi' ranges := by
  induction ranges generalizing lo lo' with
  | nil =>
    rw [within_nil] at h ⊢
    omega
  | cons r rest ih =>
    obtain ⟨hstart, hr, hrest⟩ := h
    have hfirst : lo' ≤ r.1 := by omega
    exact ⟨hfirst, hr, ih hrest (Nat.le_refl _)⟩

theorem within_append :
    Within lo hi (first ++ second) ↔ ∃ mid, Within lo mid first ∧ Within mid hi second := by
  induction first generalizing lo with
  | nil =>
    constructor
    · intro h
      exact ⟨lo, Nat.le_refl _, h⟩
    · rintro ⟨mid, hmid, h⟩
      exact h.mono hmid (Nat.le_refl _)
  | cons r rest ih =>
    rw [List.cons_append, within_cons, ih]
    constructor
    · rintro ⟨hlo, hr, mid, hrest, hsecond⟩
      exact ⟨mid, ⟨hlo, hr, hrest⟩, hsecond⟩
    · rintro ⟨mid, ⟨hlo, hr, hrest⟩, hsecond⟩
      exact ⟨hlo, hr, mid, hrest, hsecond⟩

/-- Some ranges still are where they are without the others. -/
theorem Within.sublist {fewer : List (Nat × Nat)} (h : Within lo hi ranges)
    (hsub : fewer.Sublist ranges) : Within lo hi fewer := by
  induction hsub generalizing lo with
  | slnil => exact h
  | cons r _ ih =>
    -- Without `r` the others may start from before it on.
    obtain ⟨hlo, hr, hrest⟩ := h
    have hbefore : lo ≤ r.2 := by omega
    exact (ih hrest).mono hbefore (Nat.le_refl _)
  | cons_cons r _ ih =>
    obtain ⟨hlo, hr, hrest⟩ := h
    exact ⟨hlo, hr, ih hrest⟩

theorem Within.le_lastEnd (h : Within lo hi ranges) :
    lo ≤ lastEnd lo ranges := by
  induction ranges generalizing lo with
  | nil => exact Nat.le_refl _
  | cons r rest ih =>
    obtain ⟨hlo, hr, hrest⟩ := h
    have hlast := ih hrest
    rw [lastEnd_cons]
    omega

theorem Within.lastEnd_le (h : Within lo hi ranges) :
    lastEnd lo ranges ≤ hi := by
  induction ranges generalizing lo with
  | nil => exact h
  | cons r rest ih =>
    rw [lastEnd_cons]
    exact ih h.2.2

/-- Ranges in order can be taken for one range, from the first start to the last end. -/
theorem Within.hull (h : Within lo hi (r :: rest)) : Within lo hi [(r.1, lastEnd r.2 rest)] := by
  obtain ⟨hlo, hr, hrest⟩ := h
  have hforward : r.1 ≤ lastEnd r.2 rest := hr.trans hrest.le_lastEnd
  exact ⟨hlo, hforward, hrest.lastEnd_le⟩

theorem Within.toList_hull? (h : Within lo hi ranges) : Within lo hi (hull? ranges).toList := by
  cases ranges with
  | nil => exact h
  | cons r rest => exact h.hull

/-- The bound after some ranges can be the end of the last of them. -/
theorem Within.to_lastEnd (h : Within lo hi ranges) :
    Within lo (lastEnd lo ranges) ranges := by
  induction ranges generalizing lo with
  | nil => exact Nat.le_refl _
  | cons r rest ih =>
    obtain ⟨hlo, hr, hrest⟩ := h
    rw [lastEnd_cons]
    exact ⟨hlo, hr, ih hrest⟩

/-- The bound before the later ranges can be the end of the last one before them. -/
theorem Within.append_right (h : Within lo hi (first ++ second)) :
    Within (lastEnd lo first) hi second := by
  obtain ⟨mid, hfirst, hsecond⟩ := within_append.1 h
  exact hsecond.mono hfirst.lastEnd_le (Nat.le_refl _)

theorem Within.append_left (h : Within lo hi (first ++ second)) : Within lo hi first :=
  h.sublist (List.sublist_append_left first second)

theorem Within.append (hfirst : Within lo hi first)
    (hsecond : Within (lastEnd lo first) hi second) : Within lo hi (first ++ second) :=
  within_append.2 ⟨lastEnd lo first, hfirst.to_lastEnd, hsecond⟩

theorem Within.of_mem (h : Within lo hi ranges) (hr : r ∈ ranges) :
    lo ≤ r.1 ∧ r.1 ≤ r.2 ∧ r.2 ≤ hi :=
  within_singleton.1 (h.sublist (List.singleton_sublist.2 hr))

/-- No two of the ranges overlap, and the earlier of them comes first. -/
theorem Within.pairwise (h : Within lo hi ranges) : ranges.Pairwise fun a b => a.2 ≤ b.1 := by
  induction ranges generalizing lo with
  | nil => exact .nil
  | cons r rest ih =>
    obtain ⟨-, -, hrest⟩ := h
    exact List.pairwise_cons.2 ⟨fun later hlater => (hrest.of_mem hlater).1, ih hrest⟩

theorem InOrder.within (h : InOrder ranges) : Within 0 (lastEnd 0 ranges) ranges := by
  -- For the induction the first range may start anywhere from `lo` on.
  suffices hfrom : ∀ lo, (∀ r ∈ ranges.head?, lo ≤ r.1) → Within lo (lastEnd lo ranges) ranges from
    hfrom 0 fun _ _ => Nat.zero_le _
  obtain ⟨hforward, hchain⟩ := h
  induction ranges with
  | nil => exact fun _ _ => Nat.le_refl _
  | cons r rest ih =>
    intro lo hlo
    rw [List.forall_mem_cons] at hforward
    rw [List.isChain_cons] at hchain
    have hrest := ih hforward.2 hchain.2 r.2 hchain.1
    rw [lastEnd_cons]
    exact ⟨hlo r rfl, hforward.1, hrest⟩

theorem Within.inOrder (h : Within lo hi ranges) : InOrder ranges := by
  induction ranges generalizing lo with
  | nil => exact ⟨by simp, .nil⟩
  | cons r rest ih =>
    obtain ⟨-, hr, hrest⟩ := h
    obtain ⟨hforward, hchain⟩ := ih hrest
    have hnext : ∀ next ∈ rest.head?, r.2 ≤ next.1 := by
      cases rest with
      | nil => simp
      | cons next rest => simpa using hrest.1
    exact ⟨List.forall_mem_cons.2 ⟨hr, hforward⟩, List.isChain_cons.2 ⟨hnext, hchain⟩⟩

end Rubric
