/-
  Rubric.Proofs.Conformance.Content

  What it means that content is as a rule wants it, and that the checks of
  content find exactly what is not.

  Each rule for content has a relation `Admits` that says what the rule allows
  without mention of violations. For each check there is one lemma: it returns
  no violation iff the content is admitted.
-/
import Mathlib.Data.List.Forall2
import Rubric.Conformance.Content

namespace Rubric

/-! ## What rules allow -/

/-- The number of paragraphs lies within the bounds, and paragraph `i` matches
    pattern `i` modulo the number of patterns, if there are patterns. -/
def ParagraphRule.Admits (rule : ParagraphRule) (paragraphs : List Paragraph) : Prop :=
  rule.count.admits paragraphs.length ∧
    ∀ (i : Nat) (p : Paragraph) (pattern : Pattern), paragraphs[i]? = some p →
      rule.patterns[i % rule.patterns.length]? = some pattern → pattern.isMatch p.content

/-- The number of lists lies within the bounds, and so does the number of items
    of every single list. -/
def ListRule.Admits (rule : ListRule) (lists : List Listing) : Prop :=
  rule.count.admits lists.length ∧
    ∀ bounds, rule.items = some bounds → ∀ l ∈ lists, bounds.admits l.items.length

/-- The text of the heading is the constant one and matches the pattern. -/
def HeadingRule.Admits (rule : HeadingRule) (heading : Heading) : Prop :=
  (∀ text, rule.constant = some text → heading.content = text) ∧
    ∀ pattern : Pattern, rule.pattern = some pattern → pattern.isMatch heading.content

/-- The run has the kind of the slot, and its items are as the slot wants them. -/
def Slot.Admits (slot : Slot) (run : ContentRun) : Prop :=
  run.kind? = some slot.kind ∧
    match slot with
    | .paragraphs rule => ∃ items, run.paragraphs = some items ∧ rule.Admits items
    | .codeBlocks bounds => ∃ items, run.codeBlocks = some items ∧ bounds.admits items.length
    | .lists rule => ∃ items, run.lists = some items ∧ rule.Admits items

/-- The content directly under the heading of a section is as a rule wants it. -/
structure Rule.AdmitsContent (rule : Rule) (s : Section) : Prop where
  /-- There are as many runs as slots, and run `i` is as slot `i` wants it. -/
  sequence : ∀ slots, rule.sequence = some slots → List.Forall₂ Slot.Admits slots s.content
  /-- A section without a heading is not held against the rule for headings. -/
  heading : ∀ r heading, rule.heading = some r → s.heading = some heading → r.Admits heading
  paragraphs : ∀ r, rule.paragraphs = some r → r.Admits s.paragraphs
  codeBlocks : ∀ bounds, rule.codeBlocks = some bounds → bounds.admits s.codeBlocks.length
  lists : ∀ r, rule.lists = some r → r.Admits s.lists

/-! ## Numbers -/

theorem Bounds.admits_iff (bounds : Bounds) (n : Nat) :
    bounds.admits n ↔
      (∀ m, bounds.min = some m → m ≤ n) ∧ ∀ m, bounds.max = some m → n ≤ m := by
  obtain ⟨min, max⟩ := bounds
  cases min <;> cases max <;> simp [Bounds.admits]

theorem Bounds.findings_eq_nil_iff (bounds : Bounds) (kind : ContentKind) (n : Nat) :
    bounds.findings kind n = [] ↔ bounds.admits n := by
  rw [Bounds.admits_iff]
  obtain ⟨min, max⟩ := bounds
  cases min <;> cases max <;> simp [Bounds.findings]

theorem not_anyShort_iff (min : Option Nat) (lists : List Listing) :
    anyShort min lists = false ↔ ∀ m, min = some m → ∀ l ∈ lists, m ≤ l.items.length := by
  cases min <;> simp [anyShort]

theorem not_anyLong_iff (max : Option Nat) (lists : List Listing) :
    anyLong max lists = false ↔ ∀ m, max = some m → ∀ l ∈ lists, l.items.length ≤ m := by
  cases max <;> simp [anyLong]

/-- Whichever bound some list misses, there is a finding for it: a list can only be
    short of a bound that is there. -/
theorem Bounds.itemFindings_eq_nil_iff_not_any (bounds : Bounds) (lists : List Listing) :
    bounds.itemFindings lists = [] ↔
      anyShort bounds.min lists = false ∧ anyLong bounds.max lists = false := by
  obtain ⟨min, max⟩ := bounds
  unfold Bounds.itemFindings
  cases min with
  | none =>
    have hshort : anyShort none lists = false := rfl
    cases max with
    | none => simp [hshort, anyLong]
    | some max => cases anyLong (some max) lists <;> simp [hshort]
  | some min =>
    cases max with
    | none => cases anyShort (some min) lists <;> simp [anyLong]
    | some max => cases anyShort (some min) lists <;> cases anyLong (some max) lists <;> simp

theorem Bounds.itemFindings_eq_nil_iff (bounds : Bounds) (lists : List Listing) :
    bounds.itemFindings lists = [] ↔ ∀ l ∈ lists, bounds.admits l.items.length := by
  rw [Bounds.itemFindings_eq_nil_iff_not_any, not_anyShort_iff, not_anyLong_iff]
  constructor
  · rintro ⟨hshort, hlong⟩ l hl
    rw [Bounds.admits_iff]
    exact ⟨fun m hm => hshort m hm l hl, fun m hm => hlong m hm l hl⟩
  · intro h
    exact ⟨fun m hm l hl => ((Bounds.admits_iff _ _).1 (h l hl)).1 m hm,
      fun m hm l hl => ((Bounds.admits_iff _ _).1 (h l hl)).2 m hm⟩

/-! ## Content of one kind -/

@[simp] theorem violationsAt_eq_nil_iff (heading : Option String) (position : Span)
    (findings : List Finding) :
    violationsAt heading position findings = [] ↔ findings = [] := by
  simp [violationsAt]

/-- The violations of patterns are those of the single paragraphs that do not match the
    pattern whose turn it is, each at its paragraph. -/
theorem mem_patternViolations_iff {patterns : List Pattern} {heading : Option String}
    {index : Nat} {paragraphs : List Paragraph} {v : Violation} :
    v ∈ patternViolations patterns heading index paragraphs ↔
      ∃ (i : Nat) (p : Paragraph) (pattern : Pattern), paragraphs[i]? = some p ∧
        patterns[(index + i) % patterns.length]? = some pattern ∧
        ¬ pattern.isMatch p.content ∧
        v = (Finding.paragraph p.content pattern.source).toViolation heading p.position := by
  induction paragraphs generalizing index with
  | nil => simp [patternViolations]
  | cons p rest ih =>
    rw [patternViolations, List.mem_append, ih]
    -- Paragraph `i + 1` of the whole list is paragraph `i` of the rest, one pattern later.
    have hshift : ∀ i, index + 1 + i = index + (i + 1) := fun i => by omega
    simp only [hshift]
    constructor
    · rintro (hfirst | ⟨i, q, pattern, hq, hpattern, hmatch, rfl⟩)
      · cases hpattern : patterns[index % patterns.length]? with
        | none => simp [hpattern] at hfirst
        | some pattern =>
          have hmatch : ¬ pattern.isMatch p.content := fun h => by simp [hpattern, h] at hfirst
          have hv : v = (Finding.paragraph p.content pattern.source).toViolation heading
              p.position := by simpa [hpattern, hmatch] using hfirst
          exact ⟨0, p, pattern, rfl, hpattern, hmatch, hv⟩
      · exact ⟨i + 1, q, pattern, hq, hpattern, hmatch, rfl⟩
    · rintro ⟨i, q, pattern, hq, hpattern, hmatch, rfl⟩
      cases i with
      | zero =>
        obtain rfl : p = q := by simpa using hq
        rw [Nat.add_zero] at hpattern
        simp [hpattern, hmatch]
      | succ i => exact Or.inr ⟨i, q, pattern, hq, hpattern, hmatch, rfl⟩

theorem patternViolations_eq_nil_iff (patterns : List Pattern) (heading : Option String)
    (index : Nat) (paragraphs : List Paragraph) :
    patternViolations patterns heading index paragraphs = [] ↔
      ∀ (i : Nat) (p : Paragraph) (pattern : Pattern), paragraphs[i]? = some p →
        patterns[(index + i) % patterns.length]? = some pattern →
        pattern.isMatch p.content := by
  rw [List.eq_nil_iff_forall_not_mem]
  simp only [mem_patternViolations_iff]
  constructor
  · intro h i p pattern hp hpattern
    by_contra hmatch
    exact h _ ⟨i, p, pattern, hp, hpattern, hmatch, rfl⟩
  · rintro h v ⟨i, p, pattern, hp, hpattern, hmatch, -⟩
    exact hmatch (h i p pattern hp hpattern)

theorem ParagraphRule.violations_eq_nil_iff (rule : ParagraphRule) (heading : Option String)
    (position : Span) (paragraphs : List Paragraph) :
    rule.violations heading position paragraphs = [] ↔ rule.Admits paragraphs := by
  unfold ParagraphRule.violations ParagraphRule.Admits
  rw [List.append_eq_nil_iff, violationsAt_eq_nil_iff, Bounds.findings_eq_nil_iff,
    patternViolations_eq_nil_iff]
  simp only [Nat.zero_add]

theorem Bounds.codeBlockViolations_eq_nil_iff (bounds : Bounds) (heading : Option String)
    (position : Span) (codeBlocks : List CodeBlock) :
    bounds.codeBlockViolations heading position codeBlocks = [] ↔
      bounds.admits codeBlocks.length := by
  unfold Bounds.codeBlockViolations
  rw [violationsAt_eq_nil_iff, Bounds.findings_eq_nil_iff]

theorem ListRule.violations_eq_nil_iff (rule : ListRule) (heading : Option String)
    (position : Span) (lists : List Listing) :
    rule.violations heading position lists = [] ↔ rule.Admits lists := by
  unfold ListRule.violations ListRule.Admits
  rw [violationsAt_eq_nil_iff, List.append_eq_nil_iff, Bounds.findings_eq_nil_iff]
  cases rule.items with
  | none => simp
  | some bounds => simp [Bounds.itemFindings_eq_nil_iff]

theorem HeadingRule.violations_eq_nil_iff (rule : HeadingRule) (label : Option String)
    (heading : Heading) :
    rule.violations label heading = [] ↔ rule.Admits heading := by
  unfold HeadingRule.violations HeadingRule.Admits
  rw [violationsAt_eq_nil_iff, List.append_eq_nil_iff]
  cases rule.constant <;> cases rule.pattern <;> simp

/-! ## Sequences of runs -/

/-- A run has no kind iff it has no payload at all. -/
theorem ContentRun.kind?_eq_none_iff (run : ContentRun) :
    run.kind? = none ↔ run.paragraphs = none ∧ run.codeBlocks = none ∧ run.lists = none := by
  unfold ContentRun.kind?
  cases run.paragraphs <;> cases run.codeBlocks <;> cases run.lists <;> simp

/-- Whatever other payloads a run has, that of its kind is there. -/
theorem ContentRun.payload_of_kind? {run : ContentRun} {kind : ContentKind}
    (h : run.kind? = some kind) :
    match kind with
    | .paragraphs => ∃ items, run.paragraphs = some items
    | .codeBlocks => ∃ items, run.codeBlocks = some items
    | .lists => ∃ items, run.lists = some items := by
  unfold ContentRun.kind? at h
  split at h
  next hp =>
    obtain rfl := Option.some.inj h
    exact Option.isSome_iff_exists.1 hp
  split at h
  next hc =>
    obtain rfl := Option.some.inj h
    exact Option.isSome_iff_exists.1 hc
  split at h
  next hl =>
    obtain rfl := Option.some.inj h
    exact Option.isSome_iff_exists.1 hl
  · cases h

/-- In a run of its kind a slot finds nothing iff it admits the run: the payload it
    looks at is there. -/
theorem Slot.violations_eq_nil_iff {slot : Slot} {run : ContentRun}
    (hkind : run.kind? = some slot.kind) (heading : Option String) :
    slot.violations heading run = [] ↔ slot.Admits run := by
  have hpayload := ContentRun.payload_of_kind? hkind
  unfold Slot.violations Slot.Admits
  rw [and_iff_right hkind]
  cases slot with
  | paragraphs rule =>
    obtain ⟨items, hp⟩ := hpayload
    simp [hp, ParagraphRule.violations_eq_nil_iff]
  | codeBlocks bounds =>
    obtain ⟨items, hc⟩ := hpayload
    simp [hc, Bounds.codeBlockViolations_eq_nil_iff]
  | lists rule =>
    obtain ⟨items, hl⟩ := hpayload
    simp [hl, ListRule.violations_eq_nil_iff]

/-- Slots against runs of their kinds, side by side. -/
theorem slotViolations_eq_nil_iff (heading : Option String) {slots : List Slot}
    {runs : List ContentRun} (hkinds : slots.map (fun slot => some slot.kind)
      = runs.map ContentRun.kind?) :
    ((slots.zip runs).flatMap fun entry => entry.1.violations heading entry.2) = [] ↔
      List.Forall₂ Slot.Admits slots runs := by
  induction slots generalizing runs with
  | nil =>
    cases runs with
    | nil => simp
    | cons run runs => simp at hkinds
  | cons slot slots ih =>
    cases runs with
    | nil => simp at hkinds
    | cons run runs =>
      simp only [List.map_cons, List.cons.injEq] at hkinds
      obtain ⟨hkind, hrest⟩ := hkinds
      rw [List.zip_cons_cons, List.flatMap_cons, List.append_eq_nil_iff, ih hrest,
        Slot.violations_eq_nil_iff hkind.symm, List.forall₂_cons]

/-- Admitted runs have the kinds of their slots. -/
theorem kinds_eq_of_forall₂ {slots : List Slot} {runs : List ContentRun}
    (h : List.Forall₂ Slot.Admits slots runs) :
    slots.map (fun slot => some slot.kind) = runs.map ContentRun.kind? := by
  induction h with
  | nil => rfl
  | cons hslot _ ih => rw [List.map_cons, List.map_cons, ih, hslot.1]

theorem sequenceViolations_eq_nil_iff (slots : List Slot) (s : Section) :
    sequenceViolations slots s = [] ↔ List.Forall₂ Slot.Admits slots s.content := by
  unfold sequenceViolations
  -- Runs that are admitted pass both gates: there is one for each slot, and of its kind.
  by_cases hlength : slots.length = s.content.length
  · rw [if_neg (by simpa using hlength)]
    by_cases hkinds : slots.map (fun slot => some slot.kind) = s.content.map ContentRun.kind?
    · rw [if_neg (by simpa using hkinds)]
      exact slotViolations_eq_nil_iff s.label? hkinds
    · rw [if_pos hkinds]
      simpa using fun h => hkinds (kinds_eq_of_forall₂ h)
  · rw [if_pos hlength]
    simpa using fun h => hlength h.length_eq

/-! ## All content of a section -/

theorem whenAsked_eq_nil_iff {α : Type} (rule : Option α) (check : α → List Violation) :
    whenAsked rule check = [] ↔ ∀ r, rule = some r → check r = [] := by
  cases rule <;> simp [whenAsked]

/-- The checks of content find nothing iff the content is as the rule wants it. -/
theorem Rule.contentViolations_eq_nil_iff (rule : Rule) (s : Section) :
    rule.contentViolations s = [] ↔ rule.AdmitsContent s := by
  unfold Rule.contentViolations
  simp only [List.append_eq_nil_iff, whenAsked_eq_nil_iff, sequenceViolations_eq_nil_iff,
    ParagraphRule.violations_eq_nil_iff, Bounds.codeBlockViolations_eq_nil_iff,
    ListRule.violations_eq_nil_iff]
  constructor
  · rintro ⟨⟨⟨⟨hsequence, hheading⟩, hparagraphs⟩, hcodeBlocks⟩, hlists⟩
    refine ⟨hsequence, ?_, hparagraphs, hcodeBlocks, hlists⟩
    intro r heading hr hs
    have hnil := hheading r hr
    rw [hs] at hnil
    exact (HeadingRule.violations_eq_nil_iff r s.label? heading).1 hnil
  · rintro ⟨hsequence, hheading, hparagraphs, hcodeBlocks, hlists⟩
    refine ⟨⟨⟨⟨hsequence, ?_⟩, hparagraphs⟩, hcodeBlocks⟩, hlists⟩
    intro r hr
    -- A section without a heading passes every rule for headings.
    cases hs : s.heading with
    | none => rfl
    | some heading =>
      exact (HeadingRule.violations_eq_nil_iff r s.label? heading).2 (hheading r heading hr hs)

end Rubric
