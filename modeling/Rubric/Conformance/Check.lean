/-
  Rubric.Conformance.Check

  Holding a document against a template.

  A section is checked against a rule: first its own content, then the rule's
  instructions, then the sections below against the rule's table. Sections and
  rules are paired by position. Only where more sections are there than rules,
  and that is allowed, a rule is satisfied by whichever section conforms to it,
  and sections that no rule needs are left alone.

  The way through a document is the same whoever follows it. What is done about
  the instructions of a rule, and at the sections below, is left to an examiner;
  the check is the examination that puts instructions to a checker.
-/
import Rubric.Conformance.Content
import Rubric.Conformance.Checker
import Rubric.Outline.Misplaced

namespace Rubric

/-! ## Tables -/

/-- How the sections below a section are held against a table. -/
inductive Matching where
  /-- They are too few or too many to be looked at. -/
  | refused (finding : Finding)
  /-- By position. -/
  | paired
  /-- Every rule by trial. -/
  | tried
deriving DecidableEq, Repr, Inhabited

/-- The matching for a table and a number of sections. -/
def matching (table : List (String × Rule)) (additional : Bool) (found : Nat) : Matching :=
  let required := requiredCount table
  if found = 0 ∧ 0 < required then
    .refused (.missingSection ((table.map Prod.fst).headD ""))
  else if found < required ∨ (table.length < found ∧ additional = false) then
    .refused (.sectionCount required table.length found)
  else if additional = true ∧ table.length < found then .tried
  else .paired

/-! ## Examinations -/

/-- What an examination leaves open. -/
structure Examiner (m : Type → Type) where
  /-- Follows the instructions of a rule with a section. -/
  instruct : Section → List String → m (List Violation)
  /-- Makes the examination of section `i` below a section by rule `j` of its table. -/
  below : (i j : Nat) → m (List Violation) → m (List Violation)

section
variable {m : Type → Type} [Monad m] (e : Examiner m)

/-- Whether an examination finds nothing wrong with one of the sections, the first being
    number `i`. Sections after the first such one are not looked at. -/
def anyPasses (examine : Nat → Section → m (List Violation)) (i : Nat) : List Section → m Bool
  | [] => pure false
  | s :: rest => do
    let violations ← examine i s
    if violations.isEmpty then pure true else anyPasses examine (i + 1) rest

mutual

/-- Examines a section and everything below it by a rule. -/
def Rule.examine : Rule → Section → m (List Violation)
  | ⟨description, heading, required, paragraphs, codeBlocks, lists, sequence, instructions,
      additional, table⟩, s => do
    let content := Rule.contentViolations
      ⟨description, heading, required, paragraphs, codeBlocks, lists, sequence, instructions,
        additional, none⟩ s
    let instructed ← e.instruct s instructions
    let below ← examineTable additional table s
    pure (content ++ instructed ++ below)

/-- Examines the sections below a section by a table, if there is one. -/
def examineTable (additional : Bool) :
    Option (List (String × Rule)) → Section → m (List Violation)
  | none, _ => pure []
  | some table, s =>
    match matching table additional s.sections.length with
    | .refused finding => pure [finding.toViolation s.label? s.position]
    | .paired => examinePairs 0 table s.sections
    | .tried => examineTrials 0 table s

/-- Examines sections by the rules at the same positions, the first being number `i`. -/
def examinePairs (i : Nat) : List (String × Rule) → List Section → m (List Violation)
  | (_, rule) :: rules, s :: rest => do
    let first ← e.below i i (Rule.examine rule s)
    let others ← examinePairs (i + 1) rules rest
    pure (first ++ others)
  | _, _ => pure []

/-- Looks for a section below `s` for every rule, the first being number `j`. -/
def examineTrials (j : Nat) : List (String × Rule) → Section → m (List Violation)
  | [], _ => pure []
  | (name, rule) :: rules, s => do
    let found ← anyPasses (fun i child => e.below i j (Rule.examine rule child)) 0 s.sections
    let others ← examineTrials (j + 1) rules s
    if !found && rule.required then
      pure ((Finding.missingSection name).toViolation s.label? s.position :: others)
    else pure others

end

/-- Examines a document by the table of a template. A document whose sections are not nested
    in order is refused before anything else. -/
def examineDocument (refuse : Halt → m (List Violation)) (table : List (String × Rule))
    (document : Document) : m (List Violation) :=
  match document.misplaced? with
  | some s => refuse (.malformedTree (s.label?.getD "") s.position.start.line)
  | none => examinePairs e 0 table document.sections

end

/-- Follows instructions with a section one after another. -/
def followInstructions {m : Type → Type} [Monad m] (ask : Section → String → m (Option String))
    (s : Section) : List String → m (List Violation)
  | [] => pure []
  | instruction :: rest => do
    let missing ← ask s instruction
    let others ← followInstructions ask s rest
    match missing with
    | some explanation =>
      pure ((Finding.instruction instruction explanation).toViolation s.label? s.position
        :: others)
    | none => pure others

/-! ## Checks -/

section
variable (checker : Checker)

/-- Puts instructions to a checker one after another. -/
def askInstructions : Section → List String → Run (List Violation) :=
  followInstructions fun s instruction =>
    Run.ask checker (s.label?.getD "") s.rawContent instruction

/-- The examiner that puts instructions to a checker. Positions are nothing to it. -/
def Examiner.asking : Examiner Run where
  instruct := askInstructions checker
  below _ _ run := run

/-- Checks a section and everything below it against a rule. -/
def Rule.check (rule : Rule) (s : Section) : Run (List Violation) :=
  rule.examine (.asking checker) s

/-- Checks the sections below a section against a table, if there is one. -/
def checkTable (additional : Bool) (table : Option (List (String × Rule))) (s : Section) :
    Run (List Violation) :=
  examineTable (.asking checker) additional table s

/-- Checks sections against the rules at the same positions. -/
def checkPairs (table : List (String × Rule)) (sections : List Section) : Run (List Violation) :=
  examinePairs (.asking checker) 0 table sections

/-- Looks for a section below `s` for every rule. -/
def checkTrials (table : List (String × Rule)) (s : Section) : Run (List Violation) :=
  examineTrials (.asking checker) 0 table s

/-- Whether a check finds nothing wrong with one of the sections. -/
def anyConforms (check : Section → Run (List Violation)) (sections : List Section) : Run Bool :=
  anyPasses (fun _ => check) 0 sections

/-- Checks a document against the table of a template. -/
def checkDocument (table : List (String × Rule)) (document : Document) : Run (List Violation) :=
  examineDocument (.asking checker) Run.halt table document

end

end Rubric
