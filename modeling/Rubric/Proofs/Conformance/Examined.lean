/-
  Rubric.Proofs.Conformance.Examined

  Examinations whose examiners correspond.

  A map between the monads of two examinations that takes the parts of one examiner to those
  of the other takes the whole of one examination to the other. Where the second examiner
  does not look at positions, the first examination may count them from anywhere. So the
  check of a part of a table does not depend on what stands in front of the part.
-/
import Rubric.Conformance.Check

namespace Rubric

/-! ## Induction on rules -/

theorem sizeOf_lt_of_mem_table {r : Rule} {table : List (String × Rule)}
    {entry : String × Rule} (htable : r.sections = some table) (hentry : entry ∈ table) :
    sizeOf entry.2 < sizeOf r := by
  have hlt : sizeOf entry < sizeOf table := List.sizeOf_lt_of_mem hentry
  -- Both sizes are sums over the fields, with the table among those of the rule.
  obtain ⟨name, rule⟩ := entry
  obtain ⟨_, _, _, _, _, _, _, _, _, sections⟩ := r
  obtain rfl : sections = some table := htable
  simp only [Prod.mk.sizeOf_spec] at hlt
  simp only [Rule.mk.sizeOf_spec, Option.some.sizeOf_spec]
  omega

/-- Induction on rules: what holds of a rule if it holds of every rule in its table. -/
theorem Rule.tableInduction {motive : Rule → Prop}
    (step : ∀ r, (∀ table, r.sections = some table → ∀ entry ∈ table, motive entry.2) →
      motive r)
    (r : Rule) : motive r :=
  step r fun _ htable entry hentry =>
    have := sizeOf_lt_of_mem_table htable hentry
    Rule.tableInduction step entry.2
termination_by sizeOf r

/-! ## Corresponding examinations -/

section
variable {m n : Type → Type} [Monad m] [Monad n]

/-- An examination in three parts: the content, the instructions, the sections below. -/
theorem Rule.examine_eq (e : Examiner m) (r : Rule) (s : Section) :
    r.examine e s = (do
      let instructed ← e.instruct s r.instructions
      let below ← examineTable e r.additionalSections r.sections s
      pure (r.contentViolations s ++ instructed ++ below)) := by
  cases r
  rw [Rule.examine]
  rfl

/-- A map takes what an examiner does to what another one does, wherever both of them
    stand. -/
structure Examiner.Maps (e : Examiner m) (e' : Examiner n) (f : {α : Type} → m α → n α) :
    Prop where
  pure {α : Type} (x : α) : f (pure x : m α) = pure x
  bind {α β : Type} (first : m α) (next : α → m β) :
    f (first >>= next) = f first >>= fun x => f (next x)
  instruct (s : Section) (instructions : List String) :
    f (e.instruct s instructions) = e'.instruct s instructions
  below (i j i' j' : Nat) (examination : m (List Violation)) :
    f (e.below i j examination) = e'.below i' j' (f examination)

namespace Examiner.Maps

variable {e : Examiner m} {e' : Examiner n} {f : {α : Type} → m α → n α} (h : e.Maps e' f)
include h

theorem anyPasses {examine : Nat → Section → m (List Violation)}
    {examine' : Nat → Section → n (List Violation)}
    (hsame : ∀ i i' s, f (examine i s) = examine' i' s) (i i' : Nat) (sections : List Section) :
    f (anyPasses examine i sections) = Rubric.anyPasses examine' i' sections := by
  induction sections generalizing i i' with
  | nil => exact h.pure false
  | cons s rest ih =>
    rw [Rubric.anyPasses, Rubric.anyPasses, h.bind, hsame i i']
    refine congrArg _ (funext fun violations => ?_)
    split
    · exact h.pure true
    · exact ih _ _

section
variable {table : List (String × Rule)}
  (hsame : ∀ entry ∈ table, ∀ s, f (entry.2.examine e s) = entry.2.examine e' s)
include hsame

theorem examinePairs_of (i i' : Nat) (sections : List Section) :
    f (examinePairs e i table sections) = examinePairs e' i' table sections := by
  induction table generalizing i i' sections with
  | nil =>
    rw [examinePairs, examinePairs]
    · exact h.pure []
    · simp
    · simp
  | cons entry table ih =>
    obtain ⟨hfirst, hrest⟩ := List.forall_mem_cons.1 hsame
    cases sections with
    | nil =>
      rw [examinePairs, examinePairs]
      · exact h.pure []
      · simp
      · simp
    | cons s rest =>
      rw [examinePairs, examinePairs, h.bind, h.below i i i' i', hfirst]
      refine congrArg _ (funext fun first => ?_)
      rw [h.bind, ih hrest _ (i' + 1)]
      exact congrArg _ (funext fun others => h.pure _)

theorem examineTrials_of (j j' : Nat) (s : Section) :
    f (examineTrials e j table s) = examineTrials e' j' table s := by
  induction table generalizing j j' with
  | nil =>
    rw [examineTrials, examineTrials]
    exact h.pure []
  | cons entry table ih =>
    obtain ⟨hfirst, hrest⟩ := List.forall_mem_cons.1 hsame
    have hchild : ∀ i i' child, f (e.below i j (entry.2.examine e child)) =
        e'.below i' j' (entry.2.examine e' child) := fun i i' child => by
      rw [h.below i j i' j', hfirst]
    rw [examineTrials, examineTrials, h.bind, h.anyPasses hchild 0 0]
    refine congrArg _ (funext fun found => ?_)
    rw [h.bind, ih hrest _ (j' + 1)]
    refine congrArg _ (funext fun others => ?_)
    split <;> exact h.pure _

end

/-- The map takes the examination of a section to that of the section. -/
theorem examine (r : Rule) (s : Section) : f (r.examine e s) = r.examine e' s := by
  -- Every examination below is one by a rule in the table, of whatever section.
  induction r using Rule.tableInduction generalizing s with
  | step r ih =>
    rw [Rule.examine_eq, Rule.examine_eq, h.bind, h.instruct]
    refine congrArg _ (funext fun instructed => ?_)
    have hbelow : f (examineTable e r.additionalSections r.sections s) =
        examineTable e' r.additionalSections r.sections s := by
      cases hsections : r.sections with
      | none =>
        rw [examineTable, examineTable]
        exact h.pure []
      | some table =>
        rw [examineTable, examineTable]
        cases matching table r.additionalSections s.sections.length with
        | refused finding => exact h.pure _
        | paired => exact h.examinePairs_of (ih table hsections) 0 0 s.sections
        | tried => exact h.examineTrials_of (ih table hsections) 0 0 s
    rw [h.bind, hbelow]
    exact congrArg _ (funext fun below => h.pure _)

theorem examinePairs (i i' : Nat) (table : List (String × Rule)) (sections : List Section) :
    f (examinePairs e i table sections) = Rubric.examinePairs e' i' table sections :=
  h.examinePairs_of (fun entry _ s => h.examine entry.2 s) i i' sections

theorem examineTrials (j j' : Nat) (table : List (String × Rule)) (s : Section) :
    f (examineTrials e j table s) = Rubric.examineTrials e' j' table s :=
  h.examineTrials_of (fun entry _ s => h.examine entry.2 s) j j' s

/-- The map takes the examination of a document to that of the document. -/
theorem examineDocument {refuse : Halt → m (List Violation)} {refuse' : Halt → n (List Violation)}
    (hrefuse : ∀ halt, f (refuse halt) = refuse' halt) (table : List (String × Rule))
    (document : Document) :
    f (examineDocument e refuse table document) =
      Rubric.examineDocument e' refuse' table document := by
  rw [Rubric.examineDocument, Rubric.examineDocument]
  cases document.misplaced? with
  | some s => exact hrefuse _
  | none => exact h.examinePairs 0 0 table document.sections

end Examiner.Maps

end

/-! ## Checks -/

section
variable (checker : Checker)

/-- Checks are the same wherever they are made. -/
theorem Examiner.asking_maps : (asking checker).Maps (asking checker) fun run => run :=
  ⟨fun _ => rfl, fun _ _ => rfl, fun _ _ => rfl, fun _ _ _ _ _ => rfl⟩

/-- A check in three parts: the content, the instructions, the sections below. -/
theorem Rule.check_eq (r : Rule) (s : Section) :
    r.check checker s = (do
      let instructed ← askInstructions checker s r.instructions
      let below ← checkTable checker r.additionalSections r.sections s
      pure (r.contentViolations s ++ instructed ++ below)) :=
  examine_eq (.asking checker) r s

@[simp]
theorem checkTable_none (additional : Bool) (s : Section) :
    checkTable checker additional none s = pure [] := by
  rw [checkTable, examineTable]

theorem checkTable_some (additional : Bool) (table : List (String × Rule)) (s : Section) :
    checkTable checker additional (some table) s =
      match matching table additional s.sections.length with
      | .refused finding => pure [finding.toViolation s.label? s.position]
      | .paired => checkPairs checker table s.sections
      | .tried => checkTrials checker table s := by
  rw [checkTable, examineTable]
  rfl

@[simp]
theorem checkPairs_nil_table (sections : List Section) :
    checkPairs checker [] sections = pure [] := by
  rw [checkPairs, examinePairs]
  simp

@[simp]
theorem checkPairs_nil_sections (table : List (String × Rule)) :
    checkPairs checker table [] = pure [] := by
  rw [checkPairs, examinePairs]
  simp

theorem checkPairs_cons (entry : String × Rule) (table : List (String × Rule)) (s : Section)
    (rest : List Section) :
    checkPairs checker (entry :: table) (s :: rest) = (do
      let first ← entry.2.check checker s
      let others ← checkPairs checker table rest
      pure (first ++ others)) := by
  rw [checkPairs, examinePairs, (Examiner.asking_maps checker).examinePairs 1 0 table rest]
  rfl

@[simp]
theorem checkTrials_nil (s : Section) : checkTrials checker [] s = pure [] := by
  rw [checkTrials, examineTrials]

theorem checkTrials_cons (entry : String × Rule) (table : List (String × Rule)) (s : Section) :
    checkTrials checker (entry :: table) s = (do
      let found ← anyConforms (entry.2.check checker) s.sections
      let others ← checkTrials checker table s
      if !found && entry.2.required then
        pure ((Finding.missingSection entry.1).toViolation s.label? s.position :: others)
      else pure others) := by
  rw [checkTrials, examineTrials, (Examiner.asking_maps checker).examineTrials 1 0 table s]
  rfl

theorem checkDocument_eq (table : List (String × Rule)) (document : Document) :
    checkDocument checker table document =
      match document.misplaced? with
      | some s => Run.halt (.malformedTree (s.label?.getD "") s.position.start.line)
      | none => checkPairs checker table document.sections :=
  rfl

end

theorem anyConforms_cons (check : Section → Run (List Violation)) (s : Section)
    (rest : List Section) :
    anyConforms check (s :: rest) = (do
      let violations ← check s
      if violations.isEmpty then pure true else anyConforms check rest) := by
  have hrest := (Examiner.asking_maps .skip).anyPasses
    (fun _ _ s => Eq.refl (check s)) 1 0 rest
  exact congrArg _ (funext fun violations => by rw [anyConforms, hrest])

end Rubric
