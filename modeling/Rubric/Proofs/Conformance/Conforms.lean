/-
  Rubric.Proofs.Conformance.Conforms

  Conformance of a section to a rule, and that checking decides it.

  `Section.Conforms` says by recursion on the rule what the rule wants of a
  section and of everything below it, without mention of violations, of the
  order of checks or of early ends. Checking with a checker that always judges
  comes to a list of violations, and the list is empty iff the section conforms
  to the rule.
-/
import Rubric.Proofs.Conformance.Content
import Rubric.Proofs.Conformance.Examined

namespace Rubric

/-! ## Checkers that judge -/

/-- The answer is a judgement: the checker neither goes wrong nor stays silent. -/
def Answer.IsVerdict : Answer → Prop
  | .pass | .fail _ => True
  | .error _ | .stall => False

instance : DecidablePred Answer.IsVerdict
  | .pass | .fail _ => .isTrue trivial
  | .error _ | .stall => .isFalse id

/-- The checker judges whatever it is asked. -/
def Checker.Decisive (checker : Checker) : Prop :=
  ∀ content instruction, (checker content instruction).IsVerdict

/-! ## Conformance -/

/-- A section conforms to a rule. Its content is as the rule wants it, and its text
    passes every instruction. If the rule has a table, there are as many sections below
    as rules are required at least, and no more than there are rules unless more are
    allowed. If there are no more, each conforms to the rule at its own position;
    otherwise there is a section for each required rule that conforms to it. -/
def Section.Conforms (checker : Checker) (s : Section) (r : Rule) : Prop :=
  r.AdmitsContent s ∧
  (∀ text ∈ r.instructions, checker s.rawContent text = .pass) ∧
  match h : r.sections with
  | none => True
  | some table =>
    requiredCount table ≤ s.sections.length ∧
    (s.sections.length ≤ table.length ∨ r.additionalSections = true) ∧
    if hle : s.sections.length ≤ table.length then
      ∀ i (hi : i < s.sections.length), s.sections[i].Conforms checker (table[i]).2
    else
      ∀ entry ∈ table, entry.2.required = true →
        ∃ child ∈ s.sections, child.Conforms checker entry.2
termination_by sizeOf r
decreasing_by
  · exact sizeOf_lt_of_mem_table h (List.getElem_mem _)
  · exact sizeOf_lt_of_mem_table h ‹_›

/-- The sections below a section are as a table wants them. -/
def Section.Fills (checker : Checker) (s : Section) (additional : Bool)
    (table : List (String × Rule)) : Prop :=
  requiredCount table ≤ s.sections.length ∧
  (s.sections.length ≤ table.length ∨ additional = true) ∧
  if hle : s.sections.length ≤ table.length then
    ∀ i (hi : i < s.sections.length), s.sections[i].Conforms checker (table[i]).2
  else
    ∀ entry ∈ table, entry.2.required = true → ∃ child ∈ s.sections, child.Conforms checker entry.2

theorem Section.conforms_iff (checker : Checker) (s : Section) (r : Rule) :
    s.Conforms checker r ↔
      r.AdmitsContent s ∧
      (∀ text ∈ r.instructions, checker s.rawContent text = .pass) ∧
      ∀ table, r.sections = some table → s.Fills checker r.additionalSections table := by
  rw [Section.Conforms]
  split
  next hsections => simp [hsections]
  next table hsections => simp [hsections, Section.Fills]

/-! ## Runs that end -/

namespace Run

variable {α β : Type}

/-- The run gets to a result, and `post` holds of it. -/
def Ends (run : Run α) (post : α → Prop) : Prop :=
  ∃ x, run.result = .ok x ∧ post x

theorem ends_pure {post : α → Prop} {x : α} (h : post x) : (pure x : Run α).Ends post :=
  ⟨x, rfl, h⟩

theorem Ends.bind {first : Run α} {next : α → Run β} {mid : α → Prop} {post : β → Prop}
    (hfirst : first.Ends mid) (hnext : ∀ x, mid x → (next x).Ends post) :
    (first >>= next).Ends post := by
  obtain ⟨x, hx, hmid⟩ := hfirst
  obtain ⟨y, hy, hpost⟩ := hnext x hmid
  refine ⟨y, ?_, hpost⟩
  show (first.andThen next).result = .ok y
  unfold andThen
  rw [hx]
  exact hy

theorem Ends.mono {run : Run α} {p q : α → Prop} (h : run.Ends p) (himp : ∀ x, p x → q x) :
    run.Ends q := by
  obtain ⟨x, hx, hp⟩ := h
  exact ⟨x, hx, himp x hp⟩

/-- A run that ends with a list that is empty iff `p` has the empty list as result iff
    `p`. -/
theorem Ends.result_eq_nil_iff {run : Run (List α)} {p : Prop}
    (h : run.Ends fun found => found = [] ↔ p) : run.result = .ok [] ↔ p := by
  obtain ⟨found, hfound, hiff⟩ := h
  rw [hfound, ← hiff]
  exact ⟨fun he => Except.ok.inj he, fun he => congrArg Except.ok he⟩

end Run

/-! ## Instructions -/

theorem Run.ask_ends {checker : Checker} (hdecisive : checker.Decisive)
    (heading content instruction : String) :
    (Run.ask checker heading content instruction).Ends fun missing =>
      missing = none ↔ checker content instruction = .pass := by
  have hverdict := hdecisive content instruction
  unfold Run.ask
  cases hanswer : checker content instruction with
  | pass => exact ⟨none, rfl, by simp⟩
  | fail explanation => exact ⟨some explanation, rfl, by simp⟩
  | error reason => rw [hanswer] at hverdict; exact hverdict.elim
  | stall => rw [hanswer] at hverdict; exact hverdict.elim

theorem askInstructions_ends {checker : Checker} (hdecisive : checker.Decisive) (s : Section)
    (instructions : List String) :
    (askInstructions checker s instructions).Ends fun found =>
      found = [] ↔ ∀ text ∈ instructions, checker s.rawContent text = .pass := by
  induction instructions with
  | nil => exact Run.ends_pure (by simp)
  | cons instruction rest ih =>
    refine (Run.ask_ends hdecisive _ _ _).bind fun missing hmissing => ?_
    refine ih.bind fun others hothers => ?_
    rw [List.forall_mem_cons, ← hmissing, ← hothers]
    cases missing with
    | none => exact Run.ends_pure (by simp)
    | some explanation => exact Run.ends_pure (by simp)

/-! ## Tables -/

/-- Looking for a section that conforms finds one iff there is one. -/
theorem anyConforms_ends {check : Section → Run (List Violation)} {p : Section → Prop}
    {sections : List Section}
    (hcheck : ∀ s ∈ sections, (check s).Ends fun found => found = [] ↔ p s) :
    (anyConforms check sections).Ends fun found => found = true ↔ ∃ s ∈ sections, p s := by
  induction sections with
  | nil => exact Run.ends_pure (by simp)
  | cons s rest ih =>
    have ih := ih fun t ht => hcheck t (List.mem_cons_of_mem s ht)
    rw [anyConforms_cons]
    refine (hcheck s List.mem_cons_self).bind fun found hfound => ?_
    cases found with
    | nil => exact Run.ends_pure (by simp [← hfound])
    | cons v vs =>
      -- The search only goes on after a section that does not conform.
      have hs : ¬ p s := fun h => by simpa using hfound.2 h
      exact ih.mono fun b hb => by simp [hb, hs]

/-- Checks by position find nothing iff every section that has a rule at its position
    is as that rule wants it. -/
theorem checkPairs_ends {checker : Checker} {p : Section → Rule → Prop}
    {table : List (String × Rule)}
    (hcheck : ∀ entry ∈ table, ∀ s, (entry.2.check checker s).Ends fun found =>
      found = [] ↔ p s entry.2)
    (sections : List Section) :
    (checkPairs checker table sections).Ends fun found =>
      found = [] ↔ ∀ i (hi : i < sections.length) (hn : i < table.length),
        p sections[i] (table[i]).2 := by
  induction table generalizing sections with
  | nil =>
    rw [checkPairs_nil_table]
    exact Run.ends_pure (by simp)
  | cons entry table ih =>
    obtain ⟨name, rule⟩ := entry
    cases sections with
    | nil =>
      rw [checkPairs_nil_sections]
      exact Run.ends_pure (by simp)
    | cons s rest =>
      have hfirst := hcheck (name, rule) List.mem_cons_self s
      have ih := ih (fun entry h => hcheck entry (List.mem_cons_of_mem _ h)) rest
      rw [checkPairs_cons]
      refine hfirst.bind fun first hfirst => ih.bind fun others hothers => ?_
      refine Run.ends_pure ?_
      rw [List.append_eq_nil_iff, hfirst, hothers]
      -- Position 0 is the first pair, and position `i + 1` is position `i` of the rest.
      constructor
      · rintro ⟨hs, hrest⟩ i hi hn
        cases i with
        | zero => exact hs
        | succ i => exact hrest i (Nat.lt_of_succ_lt_succ hi) (Nat.lt_of_succ_lt_succ hn)
      · intro h
        refine ⟨h 0 (Nat.zero_lt_succ _) (Nat.zero_lt_succ _), fun i hi hn => ?_⟩
        exact h (i + 1) (Nat.succ_lt_succ hi) (Nat.succ_lt_succ hn)

/-- Trials find nothing iff there is a section for every required rule. -/
theorem checkTrials_ends {checker : Checker} {p : Section → Rule → Prop}
    {table : List (String × Rule)}
    (hcheck : ∀ entry ∈ table, ∀ s, (entry.2.check checker s).Ends fun found =>
      found = [] ↔ p s entry.2)
    (s : Section) :
    (checkTrials checker table s).Ends fun found =>
      found = [] ↔ ∀ entry ∈ table, entry.2.required = true →
        ∃ child ∈ s.sections, p child entry.2 := by
  induction table with
  | nil =>
    rw [checkTrials_nil]
    exact Run.ends_pure (by simp)
  | cons entry table ih =>
    obtain ⟨name, rule⟩ := entry
    have hrule : ∀ child ∈ s.sections, (rule.check checker child).Ends fun found =>
        found = [] ↔ p child rule :=
      fun child _ => hcheck (name, rule) List.mem_cons_self child
    have ih := ih fun entry h => hcheck entry (List.mem_cons_of_mem _ h)
    rw [checkTrials_cons]
    refine (anyConforms_ends hrule).bind fun found hfound => ih.bind fun others hothers => ?_
    rw [List.forall_mem_cons, ← hfound, ← hothers]
    cases found <;> cases hrequired : rule.required <;> exact Run.ends_pure (by simp)

/-- Sections are refused iff their number is not allowed. Where it is, they are paired with
    the rules if there are no more of them, and else tried. -/
theorem matching_cases (table : List (String × Rule)) (additional : Bool) (found : Nat) :
    (∃ finding, matching table additional found = .refused finding ∧
      ¬ (requiredCount table ≤ found ∧ (found ≤ table.length ∨ additional = true))) ∨
    (matching table additional found = .paired ∧ requiredCount table ≤ found ∧
      found ≤ table.length) ∨
    (matching table additional found = .tried ∧ requiredCount table ≤ found ∧
      table.length < found ∧ additional = true) := by
  unfold matching
  -- That there is no section at all is refused before the numbers are compared.
  by_cases hnone : found = 0 ∧ 0 < requiredCount table
  · rw [if_pos hnone]
    have hless : ¬ requiredCount table ≤ found := by omega
    exact Or.inl ⟨_, rfl, fun hallowed => hless hallowed.1⟩
  rw [if_neg hnone]
  by_cases hnumber : found < requiredCount table ∨ (table.length < found ∧ additional = false)
  · rw [if_pos hnumber]
    refine Or.inl ⟨_, rfl, fun ⟨hleast, hmost⟩ => ?_⟩
    rcases hnumber with hless | ⟨hmore, hadditional⟩
    · omega
    · rcases hmost with hfew | hallowed
      · omega
      · exact Bool.false_ne_true (hadditional.symm.trans hallowed)
  rw [if_neg hnumber]
  rw [not_or, not_and_or, Bool.not_eq_false] at hnumber
  have hleast : requiredCount table ≤ found := by omega
  by_cases hmore : additional = true ∧ table.length < found
  · rw [if_pos hmore]
    exact Or.inr (Or.inr ⟨rfl, hleast, hmore.2, hmore.1⟩)
  · rw [if_neg hmore]
    have hfew : found ≤ table.length := by
      rcases hnumber.2 with hfew | hadditional
      · omega
      · exact Nat.le_of_not_lt fun hlt => hmore ⟨hadditional, hlt⟩
    exact Or.inr (Or.inl ⟨rfl, hleast, hfew⟩)

/-- A matching by table and numbers finds nothing iff the numbers are allowed and the
    sections are as the rules want them, by position or by trial. -/
theorem checkTable_ends {checker : Checker} {p : Section → Rule → Prop}
    {table : List (String × Rule)} (additional : Bool)
    (hcheck : ∀ entry ∈ table, ∀ s, (entry.2.check checker s).Ends fun found =>
      found = [] ↔ p s entry.2)
    (s : Section) :
    (checkTable checker additional (some table) s).Ends fun found =>
      found = [] ↔
        requiredCount table ≤ s.sections.length ∧
        (s.sections.length ≤ table.length ∨ additional = true) ∧
        if hle : s.sections.length ≤ table.length then
          ∀ i (hi : i < s.sections.length), p s.sections[i] (table[i]).2
        else
          ∀ entry ∈ table, entry.2.required = true → ∃ child ∈ s.sections, p child entry.2 := by
  rw [checkTable_some]
  rcases matching_cases table additional s.sections.length with
    ⟨finding, hmatching, hrefused⟩ | ⟨hmatching, hleast, hfew⟩ |
    ⟨hmatching, hleast, hmore, hadditional⟩
  · rw [hmatching]
    refine Run.ends_pure ⟨fun h => by simp at h, fun ⟨hleast, hmost, _⟩ => ?_⟩
    exact absurd ⟨hleast, hmost⟩ hrefused
  · rw [hmatching]
    refine (checkPairs_ends hcheck s.sections).mono fun found hfound => ?_
    rw [hfound, dif_pos hfew]
    constructor
    · intro h
      exact ⟨hleast, Or.inl hfew, fun i hi => h i hi (Nat.lt_of_lt_of_le hi hfew)⟩
    · rintro ⟨-, -, h⟩ i hi -
      exact h i hi
  · rw [hmatching]
    refine (checkTrials_ends hcheck s).mono fun found hfound => ?_
    rw [hfound, dif_neg (Nat.not_le_of_lt hmore)]
    exact ⟨fun h => ⟨hleast, Or.inr hadditional, h⟩, fun h => h.2.2⟩

/-! ## Rules -/

/-- Checking with a checker that judges ends, and finds nothing iff the section
    conforms to the rule. -/
theorem Rule.check_ends {checker : Checker} (hdecisive : checker.Decisive) (r : Rule)
    (s : Section) :
    (r.check checker s).Ends fun found => found = [] ↔ s.Conforms checker r := by
  induction r using Rule.tableInduction generalizing s with
  | step r ih =>
    rw [Rule.check_eq, Section.Conforms]
    refine (askInstructions_ends hdecisive s r.instructions).bind fun instructed hinst => ?_
    split
    next hsections =>
      rw [hsections, checkTable_none]
      refine Run.ends_pure ?_
      simp [Rule.contentViolations_eq_nil_iff, hinst]
    next table hsections =>
      rw [hsections]
      have hbelow := checkTable_ends r.additionalSections (ih table hsections) s
      refine hbelow.bind fun below hbelow => Run.ends_pure ?_
      rw [List.append_eq_nil_iff, List.append_eq_nil_iff, Rule.contentViolations_eq_nil_iff,
        hinst, hbelow, and_assoc]

/-- **Checking decides conformance.** With a checker that judges, the check of a section
    against a rule gets to a list of violations, and gets to the empty one iff the
    section conforms to the rule. -/
theorem check_eq_nil_iff_conforms {checker : Checker} (hdecisive : checker.Decisive)
    (s : Section) (r : Rule) :
    (∃ found, (r.check checker s).result = .ok found) ∧
      ((r.check checker s).result = .ok [] ↔ s.Conforms checker r) := by
  have hends := Rule.check_ends hdecisive r s
  refine ⟨?_, hends.result_eq_nil_iff⟩
  obtain ⟨found, hfound, -⟩ := hends
  exact ⟨found, hfound⟩

/-- More sections than rules: the second one below passes the required rule's instruction,
    and the optional rule, which none satisfies, is passed over. -/
theorem conforms_by_second_child :
    let checker : Checker := fun content _ => if content = "Done." then .pass else .fail "no"
    let rule : Rule :=
      { additionalSections := true
        sections := some [("steps", { instructions := ["Say that it is done."] }),
          ("notes", { required := false, codeBlocks := some ⟨some 1, none⟩ })] }
    let s : Section := { sections := [{}, { rawContent := "Done." }, {}] }
    checker.Decisive ∧ s.Conforms checker rule := by
  intro checker rule s
  have hdecisive : checker.Decisive := by
    intro content instruction
    show (if content = "Done." then Answer.pass else .fail "no").IsVerdict
    split <;> trivial
  exact ⟨hdecisive, (check_eq_nil_iff_conforms hdecisive s rule).2.1 rfl⟩

end Rubric
