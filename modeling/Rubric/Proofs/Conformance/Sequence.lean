/-
  Rubric.Proofs.Conformance.Sequence

  How the check of a sequence ends.

  Two gates come first, one for the number of runs and one for their kinds. The
  slots are looked at only past both, and there the check goes by the payloads of
  the runs and no longer by their kinds: a slot reads the payload of its own kind
  and has nothing to say to a run without it. A kind is read off the first payload
  that a run has, so the two agree on every run, also on one with several payloads
  or with none, and no slot is passed over.
-/
import Rubric.Proofs.Conformance.Content

namespace Rubric

/-! ## Single slots -/

/-- What a slot finds in a run: the run has the payload that the slot is about, and the
    validator of that payload is asked about its items, at the run. There is no case for a
    run without the payload. -/
inductive Slot.Finds (label : Option String) : Slot → ContentRun → List Violation → Prop
  | paragraphs {rule : ParagraphRule} {run : ContentRun} {items : List Paragraph} :
      run.paragraphs = some items →
      Finds label (.paragraphs rule) run (rule.violations label run.position items)
  | codeBlocks {bounds : Bounds} {run : ContentRun} {items : List CodeBlock} :
      run.codeBlocks = some items →
      Finds label (.codeBlocks bounds) run (bounds.codeBlockViolations label run.position items)
  | lists {rule : ListRule} {run : ContentRun} {items : List Listing} :
      run.lists = some items →
      Finds label (.lists rule) run (rule.violations label run.position items)

/-- A violation that a slot may report about a run: a wrong number of blocks of its kind or
    of items, at the run, or a paragraph that does not match the pattern whose turn it is, at
    the paragraph. -/
inductive Slot.Reports (label : Option String) : Slot → ContentRun → Violation → Prop
  | atRun {slot : Slot} {run : ContentRun} {finding : Finding} :
      finding.kind = .count slot.kind ∨ finding.kind = .listItemsCount →
      Reports label slot run (finding.toViolation label run.position)
  | atParagraph {rule : ParagraphRule} {run : ContentRun} {items : List Paragraph} {i : Nat}
      {p : Paragraph} {pattern : Pattern} :
      run.paragraphs = some items → items[i]? = some p →
      rule.patterns[i % rule.patterns.length]? = some pattern → ¬ pattern.isMatch p.content →
      Reports label (.paragraphs rule) run
        ((Finding.paragraph p.content pattern.source).toViolation label p.position)

/-- In a run of its kind a slot finds something: the payload of the kind is there. -/
theorem Slot.finds_of_kind? {slot : Slot} {run : ContentRun}
    (hkind : run.kind? = some slot.kind) (label : Option String) :
    slot.Finds label run (slot.violations label run) := by
  have hpayload := ContentRun.payload_of_kind? hkind
  cases slot with
  | paragraphs rule =>
    obtain ⟨items, hp⟩ := hpayload
    simpa [violations, hp] using Finds.paragraphs hp
  | codeBlocks bounds =>
    obtain ⟨items, hc⟩ := hpayload
    simpa [violations, hc] using Finds.codeBlocks hc
  | lists rule =>
    obtain ⟨items, hl⟩ := hpayload
    simpa [violations, hl] using Finds.lists hl

theorem Slot.Finds.eq_violations {label : Option String} {slot : Slot} {run : ContentRun}
    {found : List Violation} (h : slot.Finds label run found) :
    found = slot.violations label run := by
  cases h with
  | paragraphs hp => simp [violations, hp]
  | codeBlocks hc => simp [violations, hc]
  | lists hl => simp [violations, hl]

/-! ## Where a slot reports -/

theorem kind_of_mem_findings {bounds : Bounds} {kind : ContentKind} {n : Nat} {f : Finding}
    (hf : f ∈ bounds.findings kind n) : f.kind = .count kind := by
  obtain ⟨min, max⟩ := bounds
  unfold Bounds.findings at hf
  rw [List.mem_append] at hf
  rcases hf with hf | hf <;> split at hf
  · split at hf
    · obtain rfl := List.mem_singleton.1 hf
      rfl
    · simp at hf
  · simp at hf
  · split at hf
    · obtain rfl := List.mem_singleton.1 hf
      rfl
    · simp at hf
  · simp at hf

theorem kind_of_mem_itemFindings {bounds : Bounds} {lists : List Listing} {f : Finding}
    (hf : f ∈ bounds.itemFindings lists) : f.kind = .listItemsCount := by
  unfold Bounds.itemFindings at hf
  split at hf
  case h_4 => simp at hf
  all_goals
    obtain rfl := List.mem_singleton.1 hf
    rfl

/-- Wrong numbers are reported at the run, paragraphs that do not match at themselves, and
    all of it under the heading that the slot is given. -/
theorem Slot.Finds.reports {label : Option String} {slot : Slot} {run : ContentRun}
    {found : List Violation} (h : slot.Finds label run found) :
    ∀ v ∈ found, slot.Reports label run v := by
  intro v hv
  cases h with
  | paragraphs hp =>
    rcases List.mem_append.1 hv with hv | hv
    · obtain ⟨f, hf, rfl⟩ := List.mem_map.1 hv
      exact .atRun (Or.inl (kind_of_mem_findings hf))
    · obtain ⟨i, p, pattern, hitem, hpattern, hmatch, rfl⟩ := mem_patternViolations_iff.1 hv
      rw [Nat.zero_add] at hpattern
      exact .atParagraph hp hitem hpattern hmatch
  | codeBlocks _ =>
    obtain ⟨f, hf, rfl⟩ := List.mem_map.1 hv
    exact .atRun (Or.inl (kind_of_mem_findings hf))
  | @lists rule _ items _ =>
    obtain ⟨f, hf, rfl⟩ := List.mem_map.1 hv
    rcases List.mem_append.1 hf with hf | hf
    · exact .atRun (Or.inl (kind_of_mem_findings hf))
    · cases hitems : rule.items with
      | none => simp [hitems] at hf
      | some bounds =>
        rw [hitems] at hf
        exact .atRun (Or.inr (kind_of_mem_itemFindings hf))

/-! ## The gates -/

/-- The kinds do not agree: a run has no payload at all, or a run is of another kind than
    the slot at its place. -/
def Disordered (slots : List Slot) (runs : List ContentRun) : Prop :=
  (∃ run ∈ runs, run.paragraphs = none ∧ run.codeBlocks = none ∧ run.lists = none) ∨
    ∃ entry ∈ slots.zip runs, entry.2.kind? ≠ some entry.1.kind

/-- The gate for kinds is passed iff each run has the kind of the slot at its place. -/
theorem kinds_eq_iff {slots : List Slot} {runs : List ContentRun}
    (hlength : slots.length = runs.length) :
    slots.map (fun slot => some slot.kind) = runs.map ContentRun.kind? ↔
      ∀ entry ∈ slots.zip runs, entry.2.kind? = some entry.1.kind := by
  rw [← List.forall₂_eq_eq_eq, List.forall₂_map_left_iff, List.forall₂_map_right_iff,
    List.forall₂_iff_zip, and_iff_right hlength]
  constructor
  · exact fun h entry hentry => (h hentry).symm
  · exact fun h slot run hentry => (h (slot, run) hentry).symm

/-- A run without payloads is of no kind, so that the gate for kinds stops it too: there is
    a slot at its place. -/
theorem disordered_iff {slots : List Slot} {runs : List ContentRun}
    (hlength : slots.length = runs.length) :
    Disordered slots runs ↔
      slots.map (fun slot => some slot.kind) ≠ runs.map ContentRun.kind? := by
  rw [Ne, kinds_eq_iff hlength]
  simp only [not_forall, exists_prop]
  refine ⟨?_, Or.inr⟩
  rintro (⟨run, hrun, hbare⟩ | hentry)
  · obtain ⟨i, hi⟩ := List.getElem?_of_mem hrun
    have hslot : i < slots.length := hlength ▸ (List.getElem?_eq_some_iff.1 hi).1
    have hentry : (slots.zip runs)[i]? = some (slots[i], run) :=
      List.getElem?_zip_eq_some.2 ⟨List.getElem?_eq_getElem hslot, hi⟩
    refine ⟨_, List.mem_of_getElem? hentry, ?_⟩
    rw [run.kind?_eq_none_iff.2 hbare]
    simp
  · exact hentry

/-! ## The check -/

/-- How the check of a sequence of slots in a section ends. Exactly one of the three cases
    applies to slots and a section. -/
inductive SequenceOutcome (slots : List Slot) (s : Section) : List Violation → Prop
  /-- There are more slots than runs, or fewer. -/
  | length : slots.length ≠ s.content.length →
      SequenceOutcome slots s
        [(Finding.sequenceLength slots.length s.content.length).toViolation s.label? s.position]
  /-- There are as many slots as runs, and the kinds do not agree. -/
  | order : slots.length = s.content.length → Disordered slots s.content →
      SequenceOutcome slots s
        [(Finding.sequenceOrder (slots.map fun slot => some slot.kind)
          (s.content.map ContentRun.kind?)).toViolation s.label? s.position]
  /-- All agrees: every slot finds something in its run, and what they find is put together
      in the order of the slots. -/
  | slots {parts : List (List Violation)} : slots.length = s.content.length →
      ¬ Disordered slots s.content →
      List.Forall₂ (fun entry part => entry.1.Finds s.label? entry.2 part ∧
        ∀ v ∈ part, entry.1.Reports s.label? entry.2 v) (slots.zip s.content) parts →
      SequenceOutcome slots s parts.flatten

theorem sequenceViolations_outcome (slots : List Slot) (s : Section) :
    SequenceOutcome slots s (sequenceViolations slots s) := by
  unfold sequenceViolations
  extract_lets expected found
  by_cases hlength : slots.length = s.content.length
  · rw [if_neg (not_not_intro hlength)]
    by_cases hkinds : expected = found
    · rw [if_neg (not_not_intro hkinds), List.flatMap_def]
      refine .slots hlength (fun h => (disordered_iff hlength).1 h hkinds) ?_
      rw [List.forall₂_map_right_iff, List.forall₂_same]
      intro entry hentry
      have hfinds := Slot.finds_of_kind? ((kinds_eq_iff hlength).1 hkinds entry hentry) s.label?
      exact ⟨hfinds, hfinds.reports⟩
    · rw [if_pos hkinds]
      exact .order hlength ((disordered_iff hlength).2 hkinds)
  · rw [if_pos hlength]
    exact .length hlength

theorem SequenceOutcome.eq_sequenceViolations {slots : List Slot} {s : Section}
    {found : List Violation} (h : SequenceOutcome slots s found) :
    sequenceViolations slots s = found := by
  unfold sequenceViolations
  cases h with
  | length hlength =>
    rw [if_pos hlength]
    rfl
  | order hlength hdisordered =>
    rw [if_neg (not_not_intro hlength), if_pos ((disordered_iff hlength).1 hdisordered)]
    rfl
  | slots hlength hordered hparts =>
    rw [if_neg (not_not_intro hlength),
      if_neg fun hkinds => hordered ((disordered_iff hlength).2 hkinds)]
    -- Each part is what the slot finds, since a slot finds one thing only.
    have hmap := hparts.imp fun entry part h => h.1.eq_violations.symm
    rw [← List.forall₂_map_left_iff (f := fun entry : Slot × ContentRun =>
      entry.1.violations s.label? entry.2), List.forall₂_eq_eq_eq] at hmap
    rw [← hmap, List.flatMap_def]

/-- **The check of a sequence** reports one violation of the number of runs, else one of
    their kinds, else all that the slots find in their runs, in the order of the slots. -/
theorem sequenceViolations_eq_iff (slots : List Slot) (s : Section) (found : List Violation) :
    sequenceViolations slots s = found ↔ SequenceOutcome slots s found := by
  refine ⟨?_, SequenceOutcome.eq_sequenceViolations⟩
  rintro rfl
  exact sequenceViolations_outcome slots s

/-- Of several payloads only the first is looked at. -/
example :
    sequenceViolations [.paragraphs { count := { min := some 2 } }, .lists {}]
      { content := [{ position := .zero, paragraphs := some [], codeBlocks := some [] },
          { position := .zero, lists := some [] }] }
      = [(Finding.tooFew .paragraphs 2 0).toViolation none .zero] := rfl

end Rubric
