/-
  Rubric.Proofs.Editor.Explained

  The rule that an editor explains, and the rule that a check applies.

  The editor pairs sections with rules by position at every level. A check does so
  too, except below a section that has more sections than its rule has entries:
  there it tries for every rule whether some section conforms to it. In a clean
  document the rule explained on a line is therefore satisfied by its section,
  unless one of the sections around it has more sections below than its rule has
  entries. If only the innermost one has, a required rule is satisfied by one of
  the sections beside the one that it is shown for.
-/
import Rubric.Editor.RuleAt
import Rubric.Markdown.Blocks
import Rubric.Proofs.Conformance.Relaxed

namespace Rubric.Editor

/-! ## Pairs and the way down to them -/

/-- A rule and a section at the same position, at some depth. `above` are the pairs on the
    way down, outermost first. -/
inductive Paired : List (String × Rule) → List Section → List Pairing → Pairing → Prop
  | top {table : List (String × Rule)} {sections : List Section} {name : String} {rule : Rule}
      {s : Section} : ((name, rule), s) ∈ table.zip sections →
      Paired table sections [] ⟨name, rule, s⟩
  | nested {table table' : List (String × Rule)} {sections : List Section} {name : String}
      {rule : Rule} {s : Section} {above : List Pairing} {p : Pairing} :
      ((name, rule), s) ∈ table.zip sections → rule.sections = some table' →
      Paired table' s.sections above p → Paired table sections (⟨name, rule, s⟩ :: above) p

/-- Pairs are found behind others as well. -/
theorem Paired.cons {table : List (String × Rule)} {sections : List Section}
    {above : List Pairing} {p : Pairing} (h : Paired table sections above p)
    (entry : String × Rule) (s : Section) : Paired (entry :: table) (s :: sections) above p := by
  cases h with
  | top hmem => exact .top (List.mem_cons_of_mem _ hmem)
  | nested hmem htable hbelow => exact .nested (List.mem_cons_of_mem _ hmem) htable hbelow

/-- The last pair on the way down, and the position in its table at which the way ends. -/
theorem Paired.last {table : List (String × Rule)} {sections : List Section}
    {outer : List Pairing} {q p : Pairing} (h : Paired table sections (outer ++ [q]) p) :
    Paired table sections outer q ∧
      ∃ table', q.rule.sections = some table' ∧
        ((p.name, p.rule), p.paired) ∈ table'.zip q.paired.sections := by
  induction outer generalizing table sections with
  | nil =>
    obtain _ | ⟨hmem, htable, hbelow⟩ := h
    obtain ⟨hp⟩ := hbelow
    exact ⟨.top hmem, _, htable, hp⟩
  | cons first outer ih =>
    obtain _ | ⟨hmem, htable, hbelow⟩ := h
    obtain ⟨hq, hp⟩ := ih hbelow
    exact ⟨.nested hmem htable hq, hp⟩

theorem pairingAt_cons (line : Nat) (name : String) (rule : Rule) (rules : List (String × Rule))
    (s : Section) (rest : List Section) :
    pairingAt line ((name, rule) :: rules) (s :: rest)
      = if s.heading.any fun h => coversLine h.position line then some ⟨name, rule, s⟩
        else if coversLine s.position line then
          match rule.sections with
          | some table => pairingAt line table s.sections
          | none => none
        else pairingAt line rules rest := by
  cases s with
  | mk => exact pairingAt.eq_def ..

/-- What is found on a line is a pair whose heading is on that line, and the line belongs to
    every section on the way down. -/
theorem exists_paired_of_pairingAt {line : Nat} {table : List (String × Rule)}
    {sections : List Section} {p : Pairing} (h : pairingAt line table sections = some p) :
    ∃ above, Paired table sections above p ∧
      (p.paired.heading.any fun heading => coversLine heading.position line) = true ∧
      ∀ q ∈ above, coversLine q.paired.position line = true := by
  induction table, sections using pairingAt.induct line with
  | case1 name rule rules id heading paragraphs codeBlocks lists content sections position raw
      rest honHeading =>
    rw [pairingAt, if_pos honHeading] at h
    obtain rfl := Option.some.inj h
    exact ⟨[], .top List.mem_cons_self, honHeading, by simp⟩
  | case2 name rule rules id heading paragraphs codeBlocks lists content sections position raw
      rest honHeading hinside table htable ih =>
    rw [pairingAt, if_neg honHeading, if_pos hinside, htable] at h
    obtain ⟨above, hpaired, hheading, habove⟩ := ih h
    -- The section that the line is in comes first on the way down.
    refine ⟨_, .nested List.mem_cons_self htable hpaired, hheading, ?_⟩
    exact List.forall_mem_cons.2 ⟨hinside, habove⟩
  | case3 name rule rules id heading paragraphs codeBlocks lists content sections position raw
      rest honHeading hinside htable =>
    rw [pairingAt, if_neg honHeading, if_pos hinside, htable] at h
    exact absurd h (by simp)
  | case4 name rule rules id heading paragraphs codeBlocks lists content sections position raw
      rest honHeading hinside ih =>
    rw [pairingAt, if_neg honHeading, if_neg hinside] at h
    obtain ⟨above, hpaired, hrest⟩ := ih h
    exact ⟨above, hpaired.cons _ _, hrest⟩
  | case5 table sections hnone =>
    rw [pairingAt] at h
    · exact absurd h (by simp)
    · exact hnone

/-! ## Conformance on the way down -/

/-- More sections stand below the section than its rule has entries for. -/
def Pairing.Overfull (q : Pairing) : Prop :=
  ∃ table, q.rule.sections = some table ∧ table.length < q.paired.sections.length

/-- Sections that are not more than the entries of a table conform to the rules at their
    positions if they fill it. -/
theorem conforms_of_fills {checker : Checker} {s : Section} {additional : Bool}
    {table : List (String × Rule)} (hfills : s.Fills checker additional table)
    (hfew : s.sections.length ≤ table.length) {entry : String × Rule} {child : Section}
    (hmem : (entry, child) ∈ table.zip s.sections) : child.Conforms checker entry.2 := by
  obtain ⟨-, -, hsections⟩ := hfills
  rw [dif_pos hfew] at hsections
  obtain ⟨i, hi, heq⟩ := List.getElem_of_mem hmem
  rw [List.getElem_zip] at heq
  obtain ⟨rfl, rfl⟩ := Prod.mk.inj heq
  rw [List.length_zip] at hi
  exact hsections i (by omega)

/-- Where more sections are there than entries and they fill the table, some section conforms
    to each required rule. -/
theorem exists_conforms_of_fills {checker : Checker} {s : Section} {additional : Bool}
    {table : List (String × Rule)} (hfills : s.Fills checker additional table)
    (hmore : table.length < s.sections.length) {entry : String × Rule} (hmem : entry ∈ table)
    (hrequired : entry.2.required = true) : ∃ child ∈ s.sections, child.Conforms checker entry.2 := by
  obtain ⟨-, -, hsections⟩ := hfills
  rw [dif_neg (by omega)] at hsections
  exact hsections entry hmem hrequired

theorem fills_of_conforms {checker : Checker} {s : Section} {r : Rule}
    (h : s.Conforms checker r) {table : List (String × Rule)} (htable : r.sections = some table) :
    s.Fills checker r.additionalSections table :=
  ((s.conforms_iff checker r).1 h).2.2 table htable

/-- If the pairs at the top conform and no pair on the way down is overfull, the pair at its
    end conforms. -/
theorem Paired.conforms {checker : Checker} {table : List (String × Rule)}
    {sections : List Section} {above : List Pairing} {p : Pairing}
    (h : Paired table sections above p)
    (htop : ∀ entry s, (entry, s) ∈ table.zip sections → s.Conforms checker entry.2)
    (hfew : ∀ q ∈ above, ¬ q.Overfull) : p.paired.Conforms checker p.rule := by
  induction h with
  | top hmem => exact htop _ _ hmem
  | @nested table table' sections name rule s above p hmem htable _ ih =>
    rw [List.forall_mem_cons] at hfew
    have hfits : s.sections.length ≤ table'.length := by
      apply Nat.le_of_not_lt
      exact fun hmore => hfew.1 ⟨table', htable, hmore⟩
    -- The rules of the next table hold by position because the section holds its own rule.
    have hs : s.Conforms checker rule := htop _ _ hmem
    apply ih
    · exact fun entry child hchild => conforms_of_fills (fills_of_conforms hs htable) hfits hchild
    · exact hfew.2

/-- In a clean document the sections at the top conform to the rules at their positions. -/
theorem conforms_of_checkDocument_eq_nil {checker : Checker} (hdecisive : checker.Decisive)
    {table : List (String × Rule)} {document : Document}
    (hclean : (checkDocument checker table document).result = .ok [])
    (entry : String × Rule) (s : Section) (hmem : (entry, s) ∈ table.zip document.sections) :
    s.Conforms checker entry.2 := by
  obtain ⟨-, hconforms⟩ := (checkDocument_eq_nil_iff hdecisive table document).1 hclean
  obtain ⟨i, hi, heq⟩ := List.getElem_of_mem hmem
  rw [List.getElem_zip] at heq
  obtain ⟨rfl, rfl⟩ := Prod.mk.inj heq
  rw [List.length_zip] at hi
  exact hconforms i (by omega) (by omega)

/-- **Explained rules are satisfied where sections are paired.** In a document in which a
    check finds nothing, let a rule be explained on a line. It stands at the position of its
    section, below pairs whose sections the line belongs to. If none of these has more
    sections than entries, a check of the section against the rule finds nothing. If only the
    innermost of them has, and the rule is required, this holds of one of its sections. -/
theorem explained_rule_is_satisfied {checker : Checker} (hdecisive : checker.Decisive)
    {table : List (String × Rule)} {document : Document}
    (hclean : (checkDocument checker table document).result = .ok []) {line : Nat}
    {p : Pairing} (hp : ruleAt document table line = some p) :
    ∃ above, Paired table document.sections above p ∧
      (∀ q ∈ above, coversLine q.paired.position (line + 1) = true) ∧
      ((∀ q ∈ above, ¬ q.Overfull) → (p.rule.check checker p.paired).result = .ok []) ∧
      ∀ outer q, above = outer ++ [q] → (∀ r ∈ outer, ¬ r.Overfull) → q.Overfull →
        p.rule.required = true →
          ∃ s ∈ q.paired.sections, (p.rule.check checker s).result = .ok [] := by
  obtain ⟨above, hpaired, -, habove⟩ := exists_paired_of_pairingAt hp
  have htop := conforms_of_checkDocument_eq_nil hdecisive hclean
  refine ⟨above, hpaired, habove, fun hfew => ?_, ?_⟩
  · exact (p.rule.check_ends hdecisive p.paired).result_eq_nil_iff.2 (hpaired.conforms htop hfew)
  · rintro outer q rfl hfew ⟨table', htable, hmore⟩ hrequired
    obtain ⟨hq, table'', htable', hmem⟩ := hpaired.last
    obtain rfl : table' = table'' := Option.some.inj (htable.symm.trans htable')
    have hfills := fills_of_conforms (hq.conforms htop hfew) htable
    obtain ⟨s, hs, hconforms⟩ :=
      exists_conforms_of_fills hfills hmore (List.of_mem_zip hmem).1 hrequired
    exact ⟨s, hs, (p.rule.check_ends hdecisive s).result_eq_nil_iff.2 hconforms⟩

/-- A section below another one, with as many sections as entries: the rule of the inner one
    is explained on its heading, and it passes the instruction of that rule. -/
theorem nested_rule_is_satisfied :
    let checker : Checker := fun content _ => if content = "Done." then .pass else .fail "no"
    let steps : Rule := { instructions := ["Say that it is done."] }
    let table : List (String × Rule) := [("guide", { sections := some [("steps", steps)] })]
    let document := Markdown.outline "# Guide\n\n## Steps\n\nDone.\n"
    checker.Decisive ∧ (checkDocument checker table document).result = .ok [] ∧
      ∃ child, ruleAt document table 2 = some ⟨"steps", steps, child⟩ ∧
        (steps.check checker child).result = .ok [] := by
  intro checker steps table document
  have hdecisive : checker.Decisive := by
    intro content instruction
    show (if content = "Done." then Answer.pass else .fail "no").IsVerdict
    split <;> trivial
  have hclean : (checkDocument checker table document).result = .ok [] := by decide +kernel
  obtain ⟨guide, child, hguide, hchild, hoff, hinside, hon⟩ : ∃ guide child,
      document.sections = [guide] ∧ guide.sections = [child] ∧
        (guide.heading.any fun h => coversLine h.position 3) = false ∧
        coversLine guide.position 3 = true ∧
        (child.heading.any fun h => coversLine h.position 3) = true :=
    ⟨_, _, rfl, rfl, rfl, rfl, rfl⟩
  have hp : ruleAt document table 2 = some ⟨"steps", steps, child⟩ := by
    rw [ruleAt, hguide, pairingAt_cons, if_neg (by simp [hoff]), if_pos hinside, hchild]
    show pairingAt 3 [("steps", steps)] [child] = _
    rw [pairingAt_cons, if_pos hon]
  obtain ⟨above, hpaired, -, hsatisfied, -⟩ := explained_rule_is_satisfied hdecisive hclean hp
  refine ⟨hdecisive, hclean, child, hp, hsatisfied ?_⟩
  -- Only `guide` has a table, and its one entry has one section to be paired with.
  rw [hguide] at hpaired
  cases hpaired with
  | top => simp
  | nested hmem htable hinner =>
    obtain ⟨hentry, rfl⟩ := Prod.mk.inj (List.mem_singleton.1 hmem)
    obtain ⟨rfl, rfl⟩ := Prod.mk.inj hentry
    obtain rfl := Option.some.inj htable
    cases hinner with
    | top =>
      rintro q hq ⟨table', htable', hmore⟩
      obtain rfl := List.mem_singleton.1 hq
      obtain rfl := Option.some.inj htable'
      simp [hchild] at hmore
    | nested hmem' htable' =>
      obtain ⟨rfl, rfl⟩ := Prod.mk.inj (List.mem_singleton.1 (List.of_mem_zip hmem').1)
      exact absurd htable' (by simp [steps])

/-- A check tries the sections below `Guide`, and `Steps` conforms to the only entry. The
    editor explains that entry on `Intro`, which stands at its position and does not. -/
theorem explained_rule_of_first_child :
    let steps : Rule := { heading := some { constant := some "Steps" } }
    let table : List (String × Rule) :=
      [("guide", { additionalSections := true, sections := some [("steps", steps)] })]
    let document := Markdown.outline "# Guide\n\n## Intro\n\n## Steps\n"
    Checker.skip.Decisive ∧ (checkDocument .skip table document).result = .ok [] ∧
      ∃ intro, ruleAt document table 2 = some ⟨"steps", steps, intro⟩ ∧
        intro.label? = some "Intro" ∧ (steps.check .skip intro).result ≠ .ok [] := by
  intro steps table document
  obtain ⟨guide, first, second, hguide, hbelow, hoff, hinside, hon, hlabel, hfails⟩ :
      ∃ guide first second,
        document.sections = [guide] ∧ guide.sections = [first, second] ∧
          (guide.heading.any fun h => coversLine h.position 3) = false ∧
          coversLine guide.position 3 = true ∧
          (first.heading.any fun h => coversLine h.position 3) = true ∧
          first.label? = some "Intro" ∧ (steps.check .skip first).result ≠ .ok [] :=
    ⟨_, _, _, rfl, rfl, rfl, rfl, rfl, rfl, by decide +kernel⟩
  refine ⟨fun _ _ => trivial, by decide +kernel, first, ?_, hlabel, hfails⟩
  rw [ruleAt, hguide, pairingAt_cons, if_neg (by simp [hoff]), if_pos hinside, hbelow]
  show pairingAt 3 [("steps", steps)] [first, second] = _
  rw [pairingAt_cons, if_pos hon]

end Rubric.Editor
