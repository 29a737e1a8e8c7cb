/-
  Rubric.Proofs.Conformance.Trials

  What a check by trial reports.

  Where more sections are below a section than its table has rules, and that is allowed,
  every rule is tried on the sections until one of them passes. What is found wrong with
  those before it is dropped. Only required rules that none passes are reported, in the
  order of the table. So it matters which sections there are, and neither in which order
  nor how often, and more sections can only make the report shorter.
-/
import Rubric.Proofs.Conformance.Conforms

namespace Rubric

/-! ## Rules that no section passes -/

/-- The check of a section against a rule ends and finds nothing wrong. -/
def Rule.passes (checker : Checker) (r : Rule) (s : Section) : Bool :=
  match (r.check checker s).result with
  | .ok found => found.isEmpty
  | .error _ => false

theorem Rule.passes_of_result_eq_ok {checker : Checker} {r : Rule} {s : Section}
    {found : List Violation} (h : (r.check checker s).result = .ok found) :
    r.passes checker s = found.isEmpty := by
  rw [Rule.passes, h]

/-- The required rules of a table that none of some sections passes. -/
def unmatched (checker : Checker) (table : List (String × Rule)) (sections : List Section) :
    List (String × Rule) :=
  table.filter fun entry => entry.2.required && !sections.any (entry.2.passes checker)

/-- The violations that report rules as missing below a section, one for each. -/
def missingViolations (s : Section) (rules : List (String × Rule)) : List Violation :=
  rules.map fun entry => (Finding.missingSection entry.1).toViolation s.label? s.position

section
variable (checker : Checker) (table : List (String × Rule)) {sections others : List Section}

theorem unmatched_cons (entry : String × Rule) :
    unmatched checker (entry :: table) sections =
      if entry.2.required && !sections.any (entry.2.passes checker) then
        entry :: unmatched checker table sections
      else unmatched checker table sections :=
  List.filter_cons

/-- Among more sections no further rule goes unmatched. -/
theorem unmatched_sublist_of_subset (h : sections ⊆ others) :
    (unmatched checker table others).Sublist (unmatched checker table sections) := by
  refine List.monotone_filter_right table fun entry hentry => ?_
  rw [Bool.and_eq_true, Bool.not_eq_true', List.any_eq_false] at hentry ⊢
  exact ⟨hentry.1, fun s hs => hentry.2 s (h hs)⟩

/-- Which rules go unmatched depends on the set of sections. -/
theorem unmatched_congr (h : ∀ s, s ∈ sections ↔ s ∈ others) :
    unmatched checker table sections = unmatched checker table others := by
  have hthere := unmatched_sublist_of_subset checker table fun s hs => (h s).1 hs
  have hback := unmatched_sublist_of_subset checker table fun s hs => (h s).2 hs
  exact hback.antisymm hthere

end

/-! ## Reports of trials -/

section
variable {checker : Checker} (hdecisive : checker.Decisive)
include hdecisive

/-- Looking for a section that passes finds one iff there is one. -/
theorem anyConforms_passes (r : Rule) (sections : List Section) :
    (anyConforms (r.check checker) sections).Ends fun found =>
      found = sections.any (r.passes checker) := by
  induction sections with
  | nil => exact Run.ends_pure rfl
  | cons s rest ih =>
    obtain ⟨found, hfound, -⟩ := Rule.check_ends hdecisive r s
    have hpasses := Rule.passes_of_result_eq_ok hfound
    have hfirst : (r.check checker s).Ends fun violations => violations = found :=
      ⟨found, hfound, rfl⟩
    rw [anyConforms_cons]
    refine hfirst.bind fun violations hviolations => ?_
    rw [hviolations, List.any_cons, hpasses]
    -- The search only goes on after a section that does not pass.
    cases hempty : found.isEmpty with
    | true => exact Run.ends_pure rfl
    | false => exact ih

/-- Trials report the required rules that no section passes, and nothing else. -/
theorem checkTrials_reports (table : List (String × Rule)) (s : Section) :
    (checkTrials checker table s).Ends fun found =>
      found = missingViolations s (unmatched checker table s.sections) := by
  induction table with
  | nil =>
    rw [checkTrials_nil]
    exact Run.ends_pure rfl
  | cons entry table ih =>
    obtain ⟨name, rule⟩ := entry
    rw [checkTrials_cons]
    refine (anyConforms_passes hdecisive rule s.sections).bind fun found hfound => ?_
    refine ih.bind fun others hothers => ?_
    rw [hfound, hothers, Bool.and_comm, unmatched_cons]
    cases rule.required && !s.sections.any (rule.passes checker) with
    | true => exact Run.ends_pure rfl
    | false => exact Run.ends_pure rfl

/-- With more sections than rules, where that is allowed, the rules are tried. -/
theorem checkTable_reports {table : List (String × Rule)} {s : Section}
    (hmore : table.length < s.sections.length) :
    (checkTable checker true (some table) s).result =
      .ok (missingViolations s (unmatched checker table s.sections)) := by
  have hrequired : requiredCount table ≤ table.length := List.countP_le_length
  have htried : matching table true s.sections.length = .tried := by
    obtain ⟨-, -, hrefused⟩ | ⟨-, -, hfew⟩ | ⟨htried, -⟩ :=
      matching_cases table true s.sections.length
    · exact absurd ⟨by omega, .inr rfl⟩ hrefused
    · omega
    · exact htried
  obtain ⟨found, hfound, rfl⟩ := checkTrials_reports hdecisive table s
  rw [checkTable_some, htried]
  exact hfound

end

/-! ## Sections that are put in -/

/-- A section that fills a table of as many rules fills it after more sections have been put
    in between, if more are allowed. -/
theorem Section.Fills.of_sublist {checker : Checker} {s : Section}
    {table : List (String × Rule)} (h : s.Fills checker true table)
    (hlength : s.sections.length = table.length) {children : List Section}
    (hchildren : s.sections.Sublist children) :
    Section.Fills checker { s with sections := children } true table := by
  obtain ⟨hleast, -, hsections⟩ := h
  rw [dif_pos (Nat.le_of_eq hlength)] at hsections
  have hle : table.length ≤ children.length := hlength ▸ hchildren.length_le
  refine ⟨Nat.le_trans hleast hchildren.length_le, .inr rfl, ?_⟩
  by_cases hsame : children.length ≤ table.length
  · -- Nothing was put in.
    obtain rfl : s.sections = children := hchildren.eq_of_length (by omega)
    rw [dif_pos hsame]
    exact hsections
  · rw [dif_neg hsame]
    -- The rule at position `i` is passed by the section that was there.
    intro entry hentry _
    obtain ⟨i, hi, rfl⟩ := List.getElem_of_mem hentry
    have hi' : i < s.sections.length := by omega
    exact ⟨s.sections[i], hchildren.subset (List.getElem_mem hi'), hsections i hi'⟩

/-- A section that conforms to a rule and has as many sections below it as the rule's table
    has rules conforms to it after more sections have been put in between. -/
theorem Section.Conforms.of_sublist {checker : Checker} {s : Section} {r : Rule}
    (h : s.Conforms checker r) (hmore : r.additionalSections = true)
    {table : List (String × Rule)} (htable : r.sections = some table)
    (hlength : s.sections.length = table.length) {children : List Section}
    (hchildren : s.sections.Sublist children) :
    Section.Conforms checker { s with sections := children } r := by
  rw [Section.conforms_iff] at h ⊢
  obtain ⟨hcontent, hinstructions, hbelow⟩ := h
  have hfills := hbelow table htable
  rw [hmore] at hfills
  refine ⟨{ hcontent with }, hinstructions, fun table' htable' => ?_⟩
  obtain rfl : table = table' := Option.some.inj (htable.symm.trans htable')
  rw [hmore]
  exact hfills.of_sublist hlength hchildren

/-- **Trials depend on the set of sections, and extra ones never hurt.** With more sections
    below `s` than rules, where that is allowed, a checker that judges reports each required
    rule that no section passes, once and in order, at `s`. The same sections in another order
    or number give the same report, and more sections give part of it. A section that conforms
    by position, with as many sections below it as there are rules, conforms after any others
    have been put in between. -/
theorem extra_sections_never_hurt {checker : Checker} (hdecisive : checker.Decisive)
    (table : List (String × Rule)) :
    (∀ s : Section, table.length < s.sections.length →
      (checkTable checker true (some table) s).result =
        .ok (missingViolations s (unmatched checker table s.sections)) ∧
      (∀ children : List Section, table.length < children.length →
        (∀ child, child ∈ children ↔ child ∈ s.sections) →
        (checkTable checker true (some table) { s with sections := children }).result =
          (checkTable checker true (some table) s).result) ∧
      ∀ children, s.sections.Sublist children →
        ∃ fewer, (checkTable checker true (some table) { s with sections := children }).result =
            .ok fewer ∧
          fewer.Sublist (missingViolations s (unmatched checker table s.sections))) ∧
    ∀ (s : Section) (r : Rule), r.sections = some table → r.additionalSections = true →
      s.sections.length = table.length → (r.check checker s).result = .ok [] →
      ∀ children, s.sections.Sublist children →
        (r.check checker { s with sections := children }).result = .ok [] := by
  refine ⟨fun s hmore => ?_, fun s r htable hadditional hlength hpasses children hchildren => ?_⟩
  · have hreport := checkTable_reports hdecisive hmore
    refine ⟨hreport, fun children hcount hsame => ?_, fun children hchildren => ?_⟩
    · have hother := checkTable_reports hdecisive (s := { s with sections := children }) hcount
      rw [hreport, hother]
      show Except.ok (missingViolations s (unmatched checker table children)) = _
      rw [unmatched_congr checker table hsame]
    · have hcount : table.length < children.length := Nat.lt_of_lt_of_le hmore hchildren.length_le
      have hother := checkTable_reports hdecisive (s := { s with sections := children }) hcount
      exact ⟨_, hother, (unmatched_sublist_of_subset checker table hchildren.subset).map _⟩
  · have hconforms := (Rule.check_ends hdecisive r s).result_eq_nil_iff.1 hpasses
    refine (Rule.check_ends hdecisive r _).result_eq_nil_iff.2 ?_
    exact hconforms.of_sublist hadditional htable hlength hchildren

/-- One of two rules goes unmatched, in any order and with a section repeated, and more
    sections do not add to that. Sections that conform by position do so with two more. -/
theorem setup_is_missing_in_any_order :
    let titled (title : String) : Section := { heading := some ⟨2, title, Span.zero⟩ }
    let wants (title : String) : Rule := { heading := some { constant := some title } }
    let table := [("intro", wants "Intro"), ("setup", wants "Setup")]
    let guide : Rule := { additionalSections := true, sections := some table }
    let missing := [(Finding.missingSection "setup").toViolation none Span.zero]
    let check (sections : List Section) :=
      (checkTable .skip true (some table) { sections := sections }).result
    check [titled "X", titled "Intro", titled "Y"] = .ok missing ∧
      check [titled "Y", titled "Intro", titled "X", titled "Intro"] = .ok missing ∧
      (∃ fewer, check [titled "X", titled "Setup", titled "Intro", titled "Y"] = .ok fewer ∧
        fewer.Sublist missing) ∧
      (guide.check .skip { sections := [titled "Intro", titled "Setup"] }).result = .ok [] ∧
      (guide.check .skip
        { sections := [titled "X", titled "Intro", titled "Y", titled "Setup"] }).result =
          .ok [] := by
  intro titled wants table guide missing check
  have hdecisive : Checker.skip.Decisive := fun _ _ => trivial
  obtain ⟨htrials, hpositions⟩ := extra_sections_never_hurt hdecisive table
  let s : Section := { sections := [titled "X", titled "Intro", titled "Y"] }
  obtain ⟨hreport, hsame, hmore⟩ := htrials s (by decide)
  have hmissing : missingViolations s (unmatched .skip table s.sections) = missing := by
    decide +kernel
  rw [hmissing] at hreport hmore
  have hpasses : (guide.check .skip { sections := [titled "Intro", titled "Setup"] }).result =
      .ok [] := by
    decide +kernel
  refine ⟨hreport, ?_, ?_, hpasses, ?_⟩
  · refine (hsame [titled "Y", titled "Intro", titled "X", titled "Intro"] (by decide) ?_).trans
      hreport
    intro child
    simp only [s, List.mem_cons, List.not_mem_nil, or_false]
    tauto
  · exact hmore [titled "X", titled "Setup", titled "Intro", titled "Y"]
      (.cons_cons _ (.cons _ (.refl _)))
  · exact hpositions { sections := [titled "Intro", titled "Setup"] } guide rfl rfl rfl hpasses
      [titled "X", titled "Intro", titled "Y", titled "Setup"]
      (.cons _ (.cons_cons _ (.cons _ (.refl _))))

end Rubric
