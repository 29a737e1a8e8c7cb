/-
  Rubric.Proofs.Conformance.Arising

  Where the violations of a check come from.

  A violation puts a finding into words, under the heading of the section that was
  looked at and at one of its spans. A sentence quotes texts of the section, texts of
  the rule, or what the checker says against the section, and nothing else. Going
  down to the sections below keeps this, with a rule of the table for every section.
  Nothing is assumed about the checker, about the rules or about the sections.
-/
import Rubric.Proofs.Conformance.Conforms

namespace Rubric

/-! ## What is quoted -/

/-- The texts that the sentence about a finding quotes. -/
def Finding.quotes : Finding → List String
  | title expected found => [expected, found]
  | titlePattern found pattern => [found, pattern]
  | paragraph content pattern => [content, pattern]
  | missingSection name => [name]
  | instruction text explanation => [text, explanation]
  | tooFew .. | tooMany .. | itemsOutside .. | tooFewItems _ | tooManyItems _
  | sequenceLength .. | sequenceOrder .. | sectionCount .. => []

/-- The span of a run and those of its paragraphs. -/
def ContentRun.spans (run : ContentRun) : List Span :=
  run.position :: (run.paragraphs.getD []).map Paragraph.position

/-- The spans at which something is said about a section itself: its own, those of its
    heading and its paragraphs, and those of its content runs. -/
def Section.spans (s : Section) : List Span :=
  s.position :: (s.heading.toList.map Heading.position ++ s.paragraphs.map Paragraph.position
    ++ s.content.flatMap ContentRun.spans)

/-- The texts of the paragraphs of a run. -/
def ContentRun.texts (run : ContentRun) : List String :=
  (run.paragraphs.getD []).map Paragraph.content

/-- The texts of a section that sentences quote: that of its heading, and those of its
    paragraphs, by themselves and in content runs. -/
def Section.texts (s : Section) : List String :=
  s.label?.toList ++ s.paragraphs.map Paragraph.content ++ s.content.flatMap ContentRun.texts

/-- The texts of a rule for headings. -/
def HeadingRule.texts (rule : HeadingRule) : List String :=
  rule.constant.toList ++ rule.pattern.toList.map Pattern.source

/-- The texts of a rule for paragraphs. -/
def ParagraphRule.texts (rule : ParagraphRule) : List String :=
  rule.patterns.map Pattern.source

/-- The texts of a slot. -/
def Slot.texts : Slot → List String
  | .paragraphs rule => rule.texts
  | .codeBlocks _ | .lists _ => []

/-- The texts of a rule itself: of what it says about content, its instructions and the
    names in its table. -/
def Rule.texts (r : Rule) : List String :=
  (r.sequence.getD []).flatMap Slot.texts ++ r.heading.toList.flatMap HeadingRule.texts
    ++ r.paragraphs.toList.flatMap ParagraphRule.texts ++ r.instructions
    ++ (r.sections.getD []).map Prod.fst

section
variable (s : Section)

theorem Section.position_mem_spans : s.position ∈ s.spans := List.mem_cons_self

theorem Section.heading_mem_spans {heading : Heading} (h : s.heading = some heading) :
    heading.position ∈ s.spans := by
  simp [Section.spans, h]

theorem Section.paragraph_mem_spans {p : Paragraph} (hp : p ∈ s.paragraphs) :
    p.position ∈ s.spans := by
  simp only [Section.spans, List.mem_cons, List.mem_append, List.mem_map]
  exact Or.inr (Or.inl (Or.inr ⟨p, hp, rfl⟩))

theorem Section.run_mem_spans {run : ContentRun} (hrun : run ∈ s.content) {span : Span}
    (hspan : span ∈ run.spans) : span ∈ s.spans := by
  simp only [Section.spans, List.mem_cons, List.mem_append, List.mem_flatMap]
  exact Or.inr (Or.inr ⟨run, hrun, hspan⟩)

theorem Section.heading_mem_texts {heading : Heading} (h : s.heading = some heading) :
    heading.content ∈ s.texts := by
  simp [Section.texts, Section.label?, h]

theorem Section.paragraph_mem_texts {text : String}
    (h : text ∈ s.paragraphs.map Paragraph.content) : text ∈ s.texts :=
  List.mem_append_left _ (List.mem_append_right _ h)

theorem Section.run_mem_texts {run : ContentRun} (hrun : run ∈ s.content) {text : String}
    (h : text ∈ run.texts) : text ∈ s.texts :=
  List.mem_append_right _ (List.mem_flatMap_of_mem hrun h)

end

/-! ## Findings put into words -/

/-- The violation puts a finding into words, under a label and at one of some spans, and
    everything that it quotes may be quoted. -/
def Violation.Tells (v : Violation) (label : Option String) (spans : List Span)
    (quotable : String → Prop) : Prop :=
  ∃ (finding : Finding) (position : Span), v = finding.toViolation label position ∧
    position ∈ spans ∧ ∀ text ∈ finding.quotes, quotable text

theorem Violation.Tells.mono {v : Violation} {label : Option String} {spans spans' : List Span}
    {quotable quotable' : String → Prop} (h : v.Tells label spans quotable)
    (hspans : spans ⊆ spans') (hquotable : ∀ text, quotable text → quotable' text) :
    v.Tells label spans' quotable' := by
  obtain ⟨finding, position, hv, hposition, hquotes⟩ := h
  exact ⟨finding, position, hv, hspans hposition, fun text ht => hquotable text (hquotes text ht)⟩

theorem tells_of_mem_violationsAt {label : Option String} {position : Span}
    {findings : List Finding} {v : Violation} (hv : v ∈ violationsAt label position findings)
    {quotable : String → Prop} (hquotes : ∀ f ∈ findings, ∀ text ∈ f.quotes, quotable text) :
    v.Tells label [position] quotable := by
  obtain ⟨finding, hfinding, rfl⟩ := List.mem_map.1 hv
  exact ⟨finding, position, rfl, List.mem_singleton_self position, hquotes finding hfinding⟩

/-! ## Content -/

theorem Bounds.quotes_of_mem_findings {bounds : Bounds} {kind : ContentKind} {n : Nat}
    {f : Finding} (hf : f ∈ bounds.findings kind n) : f.quotes = [] := by
  obtain ⟨min, max⟩ := bounds
  rcases List.mem_append.1 hf with hf | hf
  · cases min with
    | none => simp at hf
    | some min =>
      obtain ⟨-, rfl⟩ : n < min ∧ f = .tooFew kind min n := by simpa using hf
      rfl
  · cases max with
    | none => simp at hf
    | some max =>
      obtain ⟨-, rfl⟩ : max < n ∧ f = .tooMany kind max n := by simpa using hf
      rfl

theorem Bounds.quotes_of_mem_itemFindings {bounds : Bounds} {lists : List Listing}
    {f : Finding} (hf : f ∈ bounds.itemFindings lists) : f.quotes = [] := by
  unfold Bounds.itemFindings at hf
  split at hf
  · rw [List.mem_singleton.1 hf, Finding.quotes]
  · rw [List.mem_singleton.1 hf, Finding.quotes]
  · rw [List.mem_singleton.1 hf, Finding.quotes]
  · simp at hf

/-- Numbers that are out of bounds are reported without a quote. -/
theorem tells_of_mem_countViolations {bounds : Bounds} {kind : ContentKind} {n : Nat}
    {label : Option String} {position : Span} {v : Violation}
    (hv : v ∈ violationsAt label position (bounds.findings kind n)) (quotable : String → Prop) :
    v.Tells label [position] quotable :=
  tells_of_mem_violationsAt hv fun f hf text ht => by
    rw [Bounds.quotes_of_mem_findings hf] at ht
    cases ht

/-- Lists are reported as a whole, without a quote. -/
theorem tells_of_mem_listViolations {rule : ListRule} {label : Option String} {position : Span}
    {lists : List Listing} {v : Violation} (hv : v ∈ rule.violations label position lists)
    (quotable : String → Prop) : v.Tells label [position] quotable := by
  refine tells_of_mem_violationsAt hv fun f hf text ht => ?_
  have hnone : f.quotes = [] := by
    rcases List.mem_append.1 hf with hcount | hitems
    · exact Bounds.quotes_of_mem_findings hcount
    · split at hitems
      · exact Bounds.quotes_of_mem_itemFindings hitems
      · cases hitems
  rw [hnone] at ht
  cases ht

/-- What is reported about paragraphs stands at one of them, or at the whole, and quotes
    paragraphs and patterns. -/
theorem tells_of_mem_paragraphViolations {rule : ParagraphRule} {label : Option String}
    {position : Span} {paragraphs : List Paragraph} {v : Violation}
    (hv : v ∈ rule.violations label position paragraphs) :
    v.Tells label (position :: paragraphs.map Paragraph.position)
      fun text => text ∈ paragraphs.map Paragraph.content ∨ text ∈ rule.texts := by
  rcases List.mem_append.1 hv with hcount | hpattern
  · exact (tells_of_mem_countViolations hcount _).mono (by simp) fun _ => id
  · obtain ⟨i, p, pattern, hp, hturn, -, rfl⟩ := mem_patternViolations_iff.1 hpattern
    have hp : p ∈ paragraphs := List.mem_of_getElem? hp
    have hrule : pattern ∈ rule.patterns := List.mem_of_getElem? hturn
    refine ⟨_, _, rfl, List.mem_cons_of_mem _ (List.mem_map_of_mem hp), fun text ht => ?_⟩
    obtain rfl | rfl : text = p.content ∨ text = pattern.source := by
      simpa [Finding.quotes] using ht
    · exact Or.inl (List.mem_map_of_mem hp)
    · exact Or.inr (List.mem_map_of_mem hrule)

theorem tells_of_mem_headingViolations {rule : HeadingRule} {label : Option String}
    {heading : Heading} {v : Violation} (hv : v ∈ rule.violations label heading) :
    v.Tells label [heading.position] fun text => text = heading.content ∨ text ∈ rule.texts := by
  refine tells_of_mem_violationsAt hv fun f hf text ht => ?_
  unfold HeadingRule.texts
  rcases List.mem_append.1 hf with hf | hf
  · split at hf
    next constant hconstant =>
      obtain ⟨-, rfl⟩ : heading.content ≠ constant ∧ f = .title constant heading.content := by
        simpa using hf
      obtain rfl | rfl : text = constant ∨ text = heading.content := by
        simpa [Finding.quotes] using ht
      · exact Or.inr (by simp [hconstant])
      · exact Or.inl rfl
    next => cases hf
  · split at hf
    next pattern hpattern =>
      obtain ⟨-, rfl⟩ : pattern.isMatch heading.content = false ∧
          f = .titlePattern heading.content pattern.source := by simpa using hf
      obtain rfl | rfl : text = heading.content ∨ text = pattern.source := by
        simpa [Finding.quotes] using ht
      · exact Or.inl rfl
      · exact Or.inr (by simp [hpattern])
    next => cases hf

/-- A slot reports at its run and at the paragraphs in it. -/
theorem tells_of_mem_slotViolations {slot : Slot} {label : Option String} {run : ContentRun}
    {v : Violation} (hv : v ∈ slot.violations label run) :
    v.Tells label run.spans fun text => text ∈ run.texts ∨ text ∈ slot.texts := by
  have hrun : [run.position] ⊆ run.spans := by simp [ContentRun.spans]
  unfold Slot.violations at hv
  split at hv
  · split at hv
    next items hitems =>
      simpa [ContentRun.spans, ContentRun.texts, Slot.texts, hitems] using
        tells_of_mem_paragraphViolations hv
    next => cases hv
  · split at hv
    · exact (tells_of_mem_countViolations hv _).mono hrun fun _ => id
    · cases hv
  · split at hv
    · exact (tells_of_mem_listViolations hv _).mono hrun fun _ => id
    · cases hv

theorem tells_of_mem_sequenceViolations {slots : List Slot} {s : Section} {v : Violation}
    (hv : v ∈ sequenceViolations slots s) :
    v.Tells s.label? s.spans fun text => text ∈ s.texts ∨ text ∈ slots.flatMap Slot.texts := by
  have hself : [s.position] ⊆ s.spans := by simp [Section.spans]
  unfold sequenceViolations at hv
  extract_lets expected found at hv
  split at hv
  · exact (tells_of_mem_violationsAt hv (by simp [Finding.quotes])).mono hself fun _ => id
  split at hv
  · exact (tells_of_mem_violationsAt hv (by simp [Finding.quotes])).mono hself fun _ => id
  · obtain ⟨⟨slot, run⟩, hentry, hslot⟩ := List.mem_flatMap.1 hv
    obtain ⟨hslots, hrun⟩ := List.of_mem_zip hentry
    refine (tells_of_mem_slotViolations hslot).mono (fun _ => s.run_mem_spans hrun) ?_
    rintro text (ht | ht)
    · exact Or.inl (s.run_mem_texts hrun ht)
    · exact Or.inr (List.mem_flatMap_of_mem hslots ht)

theorem mem_whenAsked {α : Type} {rule : Option α} {check : α → List Violation} {v : Violation}
    (hv : v ∈ whenAsked rule check) : ∃ r, rule = some r ∧ v ∈ check r := by
  unfold whenAsked at hv
  split at hv
  next r => exact ⟨r, rfl, hv⟩
  next => cases hv

/-- What a rule finds wrong with the content of a section is said of the section, and quotes
    the section and the rule. -/
theorem tells_of_mem_contentViolations {r : Rule} {s : Section} {v : Violation}
    (hv : v ∈ r.contentViolations s) :
    v.Tells s.label? s.spans fun text => text ∈ s.texts ∨ text ∈ r.texts := by
  have hself : [s.position] ⊆ s.spans := by simp [Section.spans]
  unfold Rule.contentViolations at hv
  simp only [List.mem_append] at hv
  obtain (((hsequence | hheading) | hparagraphs) | hcodeBlocks) | hlists := hv
  · obtain ⟨slots, hslots, hv⟩ := mem_whenAsked hsequence
    refine (tells_of_mem_sequenceViolations hv).mono (List.Subset.refl _) fun text ht => ?_
    exact ht.imp_right fun ht => by simp [Rule.texts, hslots, List.mem_flatMap.1 ht]
  · obtain ⟨rule, hrule, hv⟩ := mem_whenAsked hheading
    -- A rule for a heading reports at the heading, and only where there is one.
    split at hv
    next heading hsome =>
      refine (tells_of_mem_headingViolations hv).mono (by simp [s.heading_mem_spans hsome]) ?_
      rintro text (rfl | ht)
      · exact Or.inl (s.heading_mem_texts hsome)
      · exact Or.inr (by simp [Rule.texts, hrule, ht])
    next => cases hv
  · obtain ⟨rule, hrule, hv⟩ := mem_whenAsked hparagraphs
    refine (tells_of_mem_paragraphViolations hv).mono ?_ ?_
    · refine List.cons_subset.2 ⟨s.position_mem_spans, fun position hposition => ?_⟩
      obtain ⟨p, hp, rfl⟩ := List.mem_map.1 hposition
      exact s.paragraph_mem_spans hp
    · rintro text (ht | ht)
      · exact Or.inl (s.paragraph_mem_texts ht)
      · exact Or.inr (by simp [Rule.texts, hrule, ht])
  · obtain ⟨bounds, -, hv⟩ := mem_whenAsked hcodeBlocks
    exact (tells_of_mem_countViolations hv _).mono hself fun _ => id
  · obtain ⟨rule, -, hv⟩ := mem_whenAsked hlists
    exact (tells_of_mem_listViolations hv _).mono hself fun _ => id

/-! ## Checks -/

section
variable (checker : Checker)

/-- What a check of a section against a rule may quote. -/
inductive Quotable (r : Rule) (s : Section) : String → Prop
  | ofSection {text : String} : text ∈ s.texts → Quotable r s text
  | ofRule {text : String} : text ∈ r.texts → Quotable r s text
  /-- What the checker says against the content of the section. -/
  | explanation {instruction text : String} : instruction ∈ r.instructions →
      checker s.rawContent instruction = .fail text → Quotable r s text

/-- The violation comes from holding a section against a rule: it is said of the section,
    or it comes from a section right below and a rule of the table. -/
inductive Violation.ArisesFrom (v : Violation) : Rule → Section → Prop
  | here {r : Rule} {s : Section} :
      v.Tells s.label? s.spans (Quotable checker r s) → ArisesFrom v r s
  | nested {r : Rule} {s : Section} {table : List (String × Rule)} {entry : String × Rule}
      {child : Section} : r.sections = some table → entry ∈ table → child ∈ s.sections →
      ArisesFrom v entry.2 child → ArisesFrom v r s

variable {checker}

/-- The sections that may be held against the rules of a table, and those against the tables
    further down. -/
inductive HeldAgainst (table : List (String × Rule)) (sections : List Section) :
    Section → Rule → Prop
  | top {entry : String × Rule} {s : Section} :
      entry ∈ table → s ∈ sections → HeldAgainst table sections s entry.2
  | nested {r : Rule} {s : Section} {inner : List (String × Rule)} {entry : String × Rule}
      {child : Section} : HeldAgainst table sections s r → r.sections = some inner →
      entry ∈ inner → child ∈ s.sections → HeldAgainst table sections child entry.2

/-- What arises from a section and a rule is said of a section somewhere below, which is held
    against a rule. -/
theorem Violation.ArisesFrom.exists_tells {v : Violation} {r : Rule} {s : Section}
    (h : v.ArisesFrom checker r s) {table : List (String × Rule)} {sections : List Section}
    (hheld : HeldAgainst table sections s r) :
    ∃ (t : Section) (q : Rule), HeldAgainst table sections t q ∧
      v.Tells t.label? t.spans (Quotable checker q t) := by
  induction h with
  | here htells => exact ⟨_, _, hheld, htells⟩
  | nested htable hentry hchild _ ih => exact ih (.nested hheld htable hentry hchild)

/-- What is reported at the section's own span arises from it. -/
theorem Finding.arisesFrom {finding : Finding} {r : Rule} {s : Section}
    (h : ∀ text ∈ finding.quotes, Quotable checker r s text) :
    (finding.toViolation s.label? s.position).ArisesFrom checker r s :=
  .here ⟨finding, s.position, rfl, s.position_mem_spans, h⟩

theorem Rule.name_quotable {r : Rule} {table : List (String × Rule)}
    (htable : r.sections = some table) {entry : String × Rule} (hentry : entry ∈ table)
    (s : Section) :
    Quotable checker r s entry.1 := by
  refine .ofRule (List.mem_append_right _ ?_)
  rw [htable]
  exact List.mem_map_of_mem hentry

end

/-! ## Runs -/

namespace Run

variable {α β : Type}

/-- If the run gets to a result, `post` holds of it. -/
def Yields (run : Run α) (post : α → Prop) : Prop :=
  ∀ x, run.result = .ok x → post x

theorem yields_pure {post : α → Prop} {x : α} (h : post x) : (pure x : Run α).Yields post := by
  intro y hy
  obtain rfl := Except.ok.inj hy
  exact h

theorem Yields.bind {first : Run α} {next : α → Run β} {mid : α → Prop} {post : β → Prop}
    (hfirst : first.Yields mid) (hnext : ∀ x, mid x → (next x).Yields post) :
    (first >>= next).Yields post := by
  intro y hy
  change (first.andThen next).result = .ok y at hy
  unfold andThen at hy
  cases hresult : first.result with
  | error h =>
    rw [hresult] at hy
    cases hy
  | ok x =>
    rw [hresult] at hy
    exact hnext x (hfirst x hresult) y hy

theorem yields_true (run : Run α) : run.Yields fun _ => True := fun _ _ => trivial

/-- What is missing after a call is what the checker says. -/
theorem ask_yields (checker : Checker) (heading content instruction : String) :
    (ask checker heading content instruction).Yields fun missing =>
      ∀ explanation, missing = some explanation →
        checker content instruction = .fail explanation := by
  rintro missing hmissing explanation rfl
  unfold ask at hmissing
  split at hmissing
  next => cases hmissing
  next e hanswer =>
    obtain rfl : e = explanation := Option.some.inj (Except.ok.inj hmissing)
    exact hanswer
  next => cases hmissing
  next => cases hmissing

end Run

section
variable (checker : Checker)

theorem askInstructions_yields (r : Rule) (s : Section) {instructions : List String}
    (hsub : instructions ⊆ r.instructions) :
    (askInstructions checker s instructions).Yields fun found =>
      ∀ v ∈ found, v.ArisesFrom checker r s := by
  induction instructions with
  | nil => exact Run.yields_pure (by simp)
  | cons instruction rest ih =>
    obtain ⟨hmem, hrest⟩ := List.cons_subset.1 hsub
    refine (Run.ask_yields _ _ _ _).bind fun missing hmissing => ?_
    refine (ih hrest).bind fun others hothers => ?_
    cases missing with
    | none => exact Run.yields_pure hothers
    | some explanation =>
      have hfirst : ∀ text ∈ (Finding.instruction instruction explanation).quotes,
          Quotable checker r s text := by
        refine List.forall_mem_cons.2 ⟨.ofRule ?_, List.forall_mem_singleton.2 ?_⟩
        · simp [Rule.texts, hmem]
        · exact .explanation hmem (hmissing explanation rfl)
      exact Run.yields_pure (List.forall_mem_cons.2 ⟨Finding.arisesFrom hfirst, hothers⟩)

section
variable {r : Rule} {table : List (String × Rule)} (htable : r.sections = some table)
include htable

/-- Trials report at the section whose sections are tried. What is found wrong with those
    during a trial is left out. -/
theorem checkTrials_yields (s : Section) {entries : List (String × Rule)}
    (hsub : entries ⊆ table) :
    (checkTrials checker entries s).Yields fun found =>
      ∀ v ∈ found, v.ArisesFrom checker r s := by
  induction entries with
  | nil =>
    rw [checkTrials_nil]
    exact Run.yields_pure (by simp)
  | cons entry entries ih =>
    obtain ⟨name, rule⟩ := entry
    obtain ⟨hmem, hrest⟩ := List.cons_subset.1 hsub
    rw [checkTrials_cons]
    refine (Run.yields_true _).bind fun found _ => (ih hrest).bind fun others hothers => ?_
    have hmissing : ∀ text ∈ (Finding.missingSection name).quotes, Quotable checker r s text :=
      List.forall_mem_singleton.2 (Rule.name_quotable htable hmem s)
    split
    · exact Run.yields_pure (List.forall_mem_cons.2 ⟨Finding.arisesFrom hmissing, hothers⟩)
    · exact Run.yields_pure hothers

/-- A table that refuses the sections names at most its first rule. -/
theorem quotable_of_matching_refused {additional : Bool} {n : Nat} {finding : Finding}
    (h : matching table additional n = .refused finding) (s : Section) :
    ∀ text ∈ finding.quotes, Quotable checker r s text := by
  unfold matching at h
  extract_lets required at h
  split at h
  next hnone =>
    obtain rfl := Matching.refused.inj h
    -- A rule is required, so that there is a first one.
    cases table with
    | nil => exact absurd hnone.2 (Nat.lt_irrefl 0)
    | cons entry rest =>
      exact List.forall_mem_singleton.2 (Rule.name_quotable htable List.mem_cons_self s)
  next =>
    split at h
    · obtain rfl := Matching.refused.inj h
      simp [Finding.quotes]
    · split at h <;> cases h

end

section
variable {table : List (String × Rule)}
  (hcheck : ∀ entry ∈ table, ∀ s, (entry.2.check checker s).Yields fun found =>
    ∀ v ∈ found, v.ArisesFrom checker entry.2 s)
include hcheck

/-- Checks by position hold each section that they look at against a rule of the table. -/
theorem checkPairs_yields (sections : List Section) :
    (checkPairs checker table sections).Yields fun found =>
      ∀ v ∈ found, ∃ entry ∈ table, ∃ s ∈ sections, v.ArisesFrom checker entry.2 s := by
  induction table generalizing sections with
  | nil =>
    rw [checkPairs_nil_table]
    exact Run.yields_pure (by simp)
  | cons entry table ih =>
    obtain ⟨name, rule⟩ := entry
    cases sections with
    | nil =>
      rw [checkPairs_nil_sections]
      exact Run.yields_pure (by simp)
    | cons s rest =>
      have hfirst := hcheck (name, rule) List.mem_cons_self s
      have ih := ih (fun entry h => hcheck entry (List.mem_cons_of_mem _ h)) rest
      rw [checkPairs_cons]
      refine hfirst.bind fun first hfirst => ih.bind fun others hothers => Run.yields_pure ?_
      intro v hv
      rcases List.mem_append.1 hv with hv | hv
      · exact ⟨_, List.mem_cons_self, s, List.mem_cons_self, hfirst v hv⟩
      · obtain ⟨entry, hentry, t, ht, harises⟩ := hothers v hv
        exact ⟨entry, List.mem_cons_of_mem _ hentry, t, List.mem_cons_of_mem _ ht, harises⟩

/-- Whichever way the sections below are matched, what is reported arises from the section. -/
theorem checkTable_yields {r : Rule} (htable : r.sections = some table) (s : Section) :
    (checkTable checker r.additionalSections (some table) s).Yields fun found =>
      ∀ v ∈ found, v.ArisesFrom checker r s := by
  rw [checkTable_some]
  split
  next finding hrefused =>
    refine Run.yields_pure (List.forall_mem_singleton.2 ?_)
    exact Finding.arisesFrom (quotable_of_matching_refused checker htable hrefused s)
  next =>
    intro found hfound v hv
    obtain ⟨entry, hentry, child, hchild, harises⟩ :=
      checkPairs_yields checker hcheck s.sections found hfound v hv
    exact .nested htable hentry hchild harises
  next => exact checkTrials_yields checker htable s (List.Subset.refl table)

end

/-- What the check of a section reports arises from it and the rule. -/
theorem Rule.check_yields (r : Rule) (s : Section) :
    (r.check checker s).Yields fun found => ∀ v ∈ found, v.ArisesFrom checker r s := by
  induction r using Rule.tableInduction generalizing s with
  | step r ih =>
    have hbelow : (checkTable checker r.additionalSections r.sections s).Yields fun found =>
        ∀ v ∈ found, v.ArisesFrom checker r s := by
      cases hsections : r.sections with
      | none =>
        rw [checkTable_none]
        exact Run.yields_pure (by simp)
      | some table => exact checkTable_yields checker (ih table hsections) hsections s
    rw [Rule.check_eq]
    refine (askInstructions_yields checker r s (List.Subset.refl _)).bind
      fun instructed hinstructed => ?_
    refine hbelow.bind fun below hbelow => Run.yields_pure fun v hv => ?_
    simp only [List.mem_append] at hv
    rcases hv with (hcontent | hinst) | hv
    · refine .here ((tells_of_mem_contentViolations hcontent).mono (List.Subset.refl _) ?_)
      exact fun text ht => ht.elim .ofSection .ofRule
    · exact hinstructed v hinst
    · exact hbelow v hv

/-- **Every violation of a document arises from one of its sections and a rule of the
    table.** -/
theorem checkDocument_arises (table : List (String × Rule)) (document : Document) :
    (checkDocument checker table document).Yields fun found => ∀ v ∈ found,
      ∃ entry ∈ table, ∃ s ∈ document.sections, v.ArisesFrom checker entry.2 s := by
  rw [checkDocument_eq]
  split
  next s _ =>
    intro found hfound
    cases hfound
  next => exact checkPairs_yields checker (fun entry _ s => entry.2.check_yields checker s) _

end

end Rubric
