/-
  Rubric.Proofs.Conformance.Instructed

  Which templates can lead to a call.

  A checker is only ever asked about the instructions of rules. Where no rule has
  any, the dialogue on every document is over at once, and what the checker would
  have said makes no difference. Where some rule has one, there is a document that
  leads to it: the one that has a section for every rule, each at the place of its
  rule, so that sections and rules are paired all the way down.
-/
import Rubric.Proofs.Conformance.Dialogue
import Rubric.Proofs.Outline.Nesting

namespace Rubric

/-! ## Dialogues with and without questions -/

namespace Dialogue

variable {α β : Type}

/-- The dialogue is over without a query. -/
def IsSilent (d : Dialogue α) : Prop :=
  ∃ x, d = .done x

/-- The dialogue begins with a query. -/
def Asks (d : Dialogue α) : Prop :=
  ∃ query next, d = .ask query next

theorem isSilent_pure (x : α) : (pure x : Dialogue α).IsSilent := ⟨x, rfl⟩

theorem IsSilent.bind {first : Dialogue α} {next : α → Dialogue β} (h : first.IsSilent)
    (hnext : ∀ x, (next x).IsSilent) : (first >>= next).IsSilent := by
  obtain ⟨x, rfl⟩ := h
  exact hnext x

theorem Asks.bind {first : Dialogue α} (h : first.Asks) (next : α → Dialogue β) :
    (first >>= next).Asks := by
  obtain ⟨query, rest, rfl⟩ := h
  exact ⟨query, _, rfl⟩

/-- After a silent dialogue it is the next one that asks. -/
theorem IsSilent.bind_asks {first : Dialogue α} {next : α → Dialogue β} (h : first.IsSilent)
    (hnext : ∀ x, (next x).Asks) : (first >>= next).Asks := by
  obtain ⟨x, rfl⟩ := h
  exact hnext x

theorem IsSilent.run_eq {d : Dialogue α} (h : d.IsSilent) :
    ∃ x, ∀ checker, d.run checker = ⟨[], .ok x⟩ := by
  obtain ⟨x, rfl⟩ := h
  exact ⟨x, fun _ => rfl⟩

theorem Asks.calls_ne_nil {d : Dialogue α} (h : d.Asks) (checker : Checker) :
    (d.run checker).calls ≠ [] := by
  obtain ⟨query, next, rfl⟩ := h
  have hask : (Run.ask checker query.heading query.call.content query.call.instruction).calls
      ≠ [] := List.cons_ne_nil _ _
  rw [run]
  show (Run.andThen _ _).calls ≠ []
  unfold Run.andThen
  split
  · exact hask
  · exact fun hnil => hask (List.append_eq_nil_iff.1 hnil).1

end Dialogue

/-! ## Rules with and without instructions -/

theorem anyInstructions_eq_true_iff {table : List (String × Rule)} :
    anyInstructions table = true ↔ ∃ entry ∈ table, entry.2.hasInstructions = true := by
  induction table with
  | nil => simp [anyInstructions]
  | cons entry table ih =>
    obtain ⟨name, rule⟩ := entry
    rw [anyInstructions, Bool.or_eq_true, ih, List.exists_mem_cons_iff]

theorem anyInstructions_eq_false_iff {table : List (String × Rule)} :
    anyInstructions table = false ↔ ∀ entry ∈ table, entry.2.hasInstructions = false := by
  rw [← Bool.not_eq_true, anyInstructions_eq_true_iff]
  simp

theorem Rule.hasInstructions_eq (r : Rule) :
    r.hasInstructions = (!r.instructions.isEmpty || anyInstructions (r.sections.getD [])) := by
  obtain ⟨_, _, _, _, _, _, _, instructions, _, table⟩ := r
  cases table with
  | none => simp [hasInstructions, anyInstructions]
  | some table => simp [hasInstructions]

/-! ## Without instructions nothing is asked -/

theorem anyPasses_isSilent {check : Nat → Section → Dialogue (List Violation)}
    (hcheck : ∀ i s, (check i s).IsSilent) (i : Nat) (sections : List Section) :
    (anyPasses check i sections).IsSilent := by
  induction sections generalizing i with
  | nil => exact Dialogue.isSilent_pure false
  | cons s rest ih =>
    rw [anyPasses]
    refine (hcheck i s).bind fun violations => ?_
    split
    · exact Dialogue.isSilent_pure true
    · exact ih (i + 1)

section
variable {table : List (String × Rule)}
  (hcheck : ∀ entry ∈ table, ∀ s, (entry.2.dialogue s).IsSilent)
include hcheck

theorem examinePairs_isSilent (i : Nat) (sections : List Section) :
    (examinePairs .talking i table sections).IsSilent := by
  induction table generalizing i sections with
  | nil =>
    rw [examinePairs]
    · exact Dialogue.isSilent_pure []
    · simp
  | cons entry table ih =>
    rw [List.forall_mem_cons] at hcheck
    cases sections with
    | nil =>
      rw [examinePairs]
      · exact Dialogue.isSilent_pure []
      · simp
    | cons s rest =>
      rw [examinePairs]
      refine (hcheck.1 s).bind fun first => (ih hcheck.2 (i + 1) rest).bind fun others => ?_
      exact Dialogue.isSilent_pure _

theorem examineTrials_isSilent (j : Nat) (s : Section) :
    (examineTrials .talking j table s).IsSilent := by
  induction table generalizing j with
  | nil =>
    rw [examineTrials]
    exact Dialogue.isSilent_pure []
  | cons entry table ih =>
    rw [List.forall_mem_cons] at hcheck
    rw [examineTrials]
    refine (anyPasses_isSilent (fun _ => hcheck.1) 0 s.sections).bind fun found => ?_
    refine (ih hcheck.2 (j + 1)).bind fun others => ?_
    split
    · exact Dialogue.isSilent_pure _
    · exact Dialogue.isSilent_pure _

end

/-- Where a rule and those below it have no instructions, a check of whatever section asks
    nothing. -/
theorem Rule.dialogue_isSilent {r : Rule} (h : r.hasInstructions = false) (s : Section) :
    (r.dialogue s).IsSilent := by
  induction r using Rule.tableInduction generalizing s with
  | step r ih =>
    rw [hasInstructions_eq, Bool.or_eq_false_iff, anyInstructions_eq_false_iff] at h
    obtain ⟨hown, hbelow⟩ := h
    have hnone : r.instructions = [] := by simpa using hown
    rw [dialogue_eq, hnone]
    refine (Dialogue.isSilent_pure []).bind fun instructed => ?_
    refine Dialogue.IsSilent.bind ?_ fun below => Dialogue.isSilent_pure _
    cases hsections : r.sections with
    | none =>
      rw [examineTable]
      exact Dialogue.isSilent_pure []
    | some table =>
      rw [hsections, Option.getD_some] at hbelow
      have hcheck : ∀ entry ∈ table, ∀ s, (entry.2.dialogue s).IsSilent :=
        fun entry hentry s => ih table hsections entry hentry (hbelow entry hentry) s
      rw [examineTable]
      cases matching table r.additionalSections s.sections.length with
      | refused finding => exact Dialogue.isSilent_pure _
      | paired => exact examinePairs_isSilent hcheck 0 s.sections
      | tried => exact examineTrials_isSilent hcheck 0 s

/-! ## A section for every rule -/

mutual

/-- A section with one section below it for every rule below a rule. -/
def Rule.sample : Rule → Section
  | ⟨_, _, _, _, _, _, _, _, _, none⟩ => {}
  | ⟨_, _, _, _, _, _, _, _, _, some table⟩ => { sections := samples table }

/-- One such section for every rule of a table. -/
def samples : List (String × Rule) → List Section
  | [] => []
  | (_, rule) :: rest => rule.sample :: samples rest

end

theorem samples_eq_map (table : List (String × Rule)) :
    samples table = table.map fun entry => entry.2.sample := by
  induction table with
  | nil => rfl
  | cons entry table ih => rw [samples, ih, List.map_cons]

theorem Rule.sample_eq (r : Rule) : r.sample = { sections := samples (r.sections.getD []) } := by
  obtain ⟨_, _, _, _, _, _, _, _, _, table⟩ := r
  cases table <;> rfl

theorem Rule.sample_position (r : Rule) : r.sample.position = Span.zero := by
  rw [sample_eq]

/-- All samples are at one place that is no stretch, so they follow one another. -/
theorem samples_isChain (table : List (String × Rule)) :
    (samples table).IsChain Section.EndsBefore := by
  have hplace : ∀ s ∈ samples table, s.position = Span.zero := by
    rw [samples_eq_map]
    exact List.forall_mem_map.2 fun entry _ => entry.2.sample_position
  refine List.isChain_iff_getElem.2 fun i hi => ?_
  unfold Section.EndsBefore
  rw [hplace _ (List.getElem_mem _), hplace _ (List.getElem_mem _)]
  exact Nat.le_refl 0

theorem Rule.sample_misplaced? (r : Rule) : r.sample.misplaced? = none := by
  induction r using Rule.tableInduction with
  | step r ih =>
    rw [Section.misplaced?_eq_none_iff]
    have hsections : r.sample.sections = samples (r.sections.getD []) := by rw [sample_eq]
    rw [hsections, sample_position]
    refine ⟨fun child hchild => ?_, samples_isChain _⟩
    rw [samples_eq_map] at hchild
    obtain ⟨entry, hentry, rfl⟩ := List.mem_map.1 hchild
    rw [sample_position]
    refine ⟨Span.contains_refl _, ?_⟩
    cases hsome : r.sections with
    | none => simp [hsome] at hentry
    | some table =>
      rw [hsome, Option.getD_some] at hentry
      exact ih table hsome entry hentry

/-- With as many sections as rules they are paired. -/
theorem matching_length (table : List (String × Rule)) (additional : Bool) :
    matching table additional table.length = .paired := by
  have hrequired : requiredCount table ≤ table.length := List.countP_le_length
  unfold matching
  extract_lets required
  rw [if_neg (by omega), if_neg (by omega), if_neg (by omega)]

/-- The dialogue on a section for every rule of a table comes to the first rule that has
    instructions, or has one below that does. -/
theorem examinePairs_samples_asks {table : List (String × Rule)}
    (hcheck : ∀ entry ∈ table, entry.2.hasInstructions = true →
      (entry.2.dialogue entry.2.sample).Asks)
    (h : anyInstructions table = true) (i : Nat) :
    (examinePairs .talking i table (samples table)).Asks := by
  induction table generalizing i with
  | nil => simp [anyInstructions] at h
  | cons entry table ih =>
    obtain ⟨name, rule⟩ := entry
    rw [List.forall_mem_cons] at hcheck
    rw [samples, examinePairs]
    cases hrule : rule.hasInstructions with
    | true => exact (hcheck.1 hrule).bind _
    | false =>
      rw [anyInstructions, hrule, Bool.false_or] at h
      exact (Rule.dialogue_isSilent hrule _).bind_asks fun first => (ih hcheck.2 h (i + 1)).bind _

theorem Rule.dialogue_sample_asks {r : Rule} (h : r.hasInstructions = true) :
    (r.dialogue r.sample).Asks := by
  induction r using Rule.tableInduction with
  | step r ih =>
    rw [dialogue_eq]
    cases hown : r.instructions with
    | cons instruction rest => exact Dialogue.Asks.bind ⟨_, _, rfl⟩ _
    | nil =>
      -- The rule itself asks nothing, so it is a rule of its table that does.
      rw [hasInstructions_eq, hown, List.isEmpty_nil, Bool.not_true, Bool.false_or] at h
      refine Dialogue.IsSilent.bind_asks (Dialogue.isSilent_pure []) fun instructed => ?_
      refine Dialogue.Asks.bind ?_ _
      cases hsome : r.sections with
      | none => simp [hsome, anyInstructions] at h
      | some table =>
        rw [hsome, Option.getD_some] at h
        have hsections : r.sample.sections = samples table := by
          rw [sample_eq, hsome, Option.getD_some]
        have hlength : (samples table).length = table.length := by
          rw [samples_eq_map, List.length_map]
        rw [examineTable, hsections, hlength, matching_length]
        exact examinePairs_samples_asks (ih table hsome) h 0

/-! ## Templates -/

/-- The document that has a section for every rule of a template. -/
def Template.sample (template : Template) : Document :=
  { sections := samples template.sections }

theorem Template.sample_misplaced? (template : Template) : template.sample.misplaced? = none := by
  refine Document.misplaced?_eq_none_iff.2 ⟨fun s hs => ?_, samples_isChain _⟩
  change s ∈ samples template.sections at hs
  rw [samples_eq_map] at hs
  obtain ⟨entry, -, rfl⟩ := List.mem_map.1 hs
  exact entry.2.sample_misplaced?

theorem Template.sample_calls {template : Template} (h : template.hasInstructions = true)
    (checker : Checker) :
    (checkDocument checker template.sections template.sample).calls ≠ [] := by
  rw [checkDocument_eq_run checker _ template.sample_misplaced?]
  refine Dialogue.Asks.calls_ne_nil ?_ checker
  exact examinePairs_samples_asks (fun entry _ hentry => Rule.dialogue_sample_asks hentry) h 0

/-- Without instructions a check makes no call, and is the same with every checker. -/
theorem Template.checkDocument_of_not_hasInstructions {template : Template}
    (h : template.hasInstructions = false) (document : Document) (checker : Checker) :
    (checkDocument checker template.sections document).calls = [] ∧
      ∀ checker', checkDocument checker template.sections document
        = checkDocument checker' template.sections document := by
  cases hmisplaced : document.misplaced? with
  | some s => simp [checkDocument_eq, hmisplaced, Run.halt]
  | none =>
    have hsilent : (pairsDialogue template.sections document.sections).IsSilent :=
      examinePairs_isSilent
        (fun entry hentry s =>
          Rule.dialogue_isSilent (anyInstructions_eq_false_iff.1 h entry hentry) s) 0 _
    obtain ⟨found, hfound⟩ := hsilent.run_eq
    rw [checkDocument_eq_run checker _ hmisplaced, hfound]
    refine ⟨rfl, fun checker' => ?_⟩
    rw [checkDocument_eq_run checker' _ hmisplaced, hfound]

/-- **A template has instructions iff it can lead to a call.** If it has none, the check of
    every document makes no call and is the same with every two checkers, also with such as
    fail or never answer; if it has some, there is a document whose check makes a call with
    every checker. -/
theorem hasInstructions_iff_can_call (template : Template) :
    (template.hasInstructions = false ↔
      ∀ document checker, (checkDocument checker template.sections document).calls = [] ∧
        ∀ checker', checkDocument checker template.sections document
          = checkDocument checker' template.sections document) ∧
    (template.hasInstructions = true ↔
      ∃ document, ∀ checker, (checkDocument checker template.sections document).calls ≠ []) := by
  constructor
  · refine ⟨Template.checkDocument_of_not_hasInstructions, fun h => ?_⟩
    rw [← Bool.not_eq_true]
    intro hsome
    exact Template.sample_calls hsome .skip (h template.sample .skip).1
  · refine ⟨fun h => ⟨template.sample, Template.sample_calls h⟩, ?_⟩
    rintro ⟨document, hcalls⟩
    rw [← Bool.not_eq_false]
    intro hnone
    exact hcalls .skip (Template.checkDocument_of_not_hasInstructions hnone document .skip).1

end Rubric
