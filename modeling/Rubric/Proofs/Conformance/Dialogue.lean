/-
  Rubric.Proofs.Conformance.Dialogue

  A check as a dialogue with its checker.

  What a check asks next depends on the answers it has had and on nothing else. A
  dialogue is the tree of all that may be asked: at each query stands the section
  that is asked about, and below it what follows each answer. The dialogue of a
  check is the same for every checker, which only chooses the way through it, and
  the check is the run of its dialogue.

  So what holds of all dialogues holds of all checks, and is proved by induction on
  dialogues instead of along the loops of the check.
-/
import Rubric.Proofs.Conformance.Conforms

namespace Rubric

/-! ## Runs one after another -/

namespace Run

variable {α β γ : Type}

theorem map_id (run : Run α) : id <$> run = run := by
  obtain ⟨calls, result⟩ := run
  cases result <;> simp [Functor.map, andThen, done]

theorem done_andThen (x : α) (next : α → Run β) : (done x).andThen next = next x := by
  simp [done, andThen]

theorem andThen_assoc (first : Run α) (next : α → Run β) (last : β → Run γ) :
    (first.andThen next).andThen last = first.andThen fun x => (next x).andThen last := by
  obtain ⟨calls, result⟩ := first
  cases result with
  | error halt => rfl
  | ok x =>
    simp only [andThen]
    cases (next x).result <;> simp

instance : LawfulMonad Run := LawfulMonad.mk' Run map_id done_andThen andThen_assoc

end Run

/-! ## Dialogues -/

/-- What a checker is asked: whether the text of a section follows an instruction. -/
structure Query where
  about : Section
  instruction : String

/-- The call that puts a query. -/
def Query.call (query : Query) : Call :=
  ⟨query.about.rawContent, query.instruction⟩

/-- The heading of the section that is asked about, which is empty where there is none. -/
def Query.heading (query : Query) : String :=
  query.about.label?.getD ""

/-- What a checker answers to a call. -/
def Checker.answer (checker : Checker) (call : Call) : Answer :=
  checker call.content call.instruction

/-- Whether a checker judges a call. -/
def Checker.judges (checker : Checker) (call : Call) : Bool :=
  decide (checker.answer call).IsVerdict

/-- What is missing according to an answer. -/
def Answer.explanation? : Answer → Option String
  | .fail explanation => some explanation
  | _ => none

/-- All that may be asked on the way to a result. After a query the dialogue goes on
    with what is missing, if anything is. -/
inductive Dialogue (α : Type) where
  | done (x : α)
  | ask (query : Query) (next : Option String → Dialogue α)

namespace Dialogue

variable {α β : Type}

/-- One dialogue after the other. -/
def andThen (first : Dialogue α) (next : α → Dialogue β) : Dialogue β :=
  match first with
  | .done x => next x
  | .ask query rest => .ask query fun missing => (rest missing).andThen next

instance : Monad Dialogue where
  pure := done
  bind := andThen

/-- The dialogue with a checker. -/
def run (checker : Checker) : Dialogue α → Run α
  | .done x => pure x
  | .ask query next => do
    let missing ← Run.ask checker query.heading query.call.content query.call.instruction
    (next missing).run checker

/-- The queries that are put to a checker. One that is not judged is the last. -/
def queries (checker : Checker) : Dialogue α → List Query
  | .done _ => []
  | .ask query next =>
    query :: if checker.judges query.call
      then (next (checker.answer query.call).explanation?).queries checker else []

theorem run_bind (checker : Checker) (first : Dialogue α) (next : α → Dialogue β) :
    (first >>= next).run checker = first.run checker >>= fun x => (next x).run checker := by
  induction first with
  | done x => exact (pure_bind x fun x => (next x).run checker).symm
  | ask query rest ih =>
    show (Run.ask checker _ _ _ >>= fun missing => (rest missing >>= next).run checker) = _
    rw [run, bind_assoc]
    exact congrArg _ (funext ih)

end Dialogue

/-! ## The dialogue of a check -/

/-- The examiner that asks in a dialogue. -/
def Examiner.talking : Examiner Dialogue where
  instruct := followInstructions fun s instruction => .ask ⟨s, instruction⟩ .done
  below _ _ dialogue := dialogue

/-- The dialogue on a section and everything below it. -/
def Rule.dialogue (r : Rule) (s : Section) : Dialogue (List Violation) :=
  r.examine .talking s

/-- The dialogue on sections with the rules at the same positions. -/
def pairsDialogue (table : List (String × Rule)) (sections : List Section) :
    Dialogue (List Violation) :=
  examinePairs .talking 0 table sections

theorem Rule.dialogue_eq (r : Rule) (s : Section) :
    r.dialogue s = (do
      let instructed ← Examiner.talking.instruct s r.instructions
      let below ← examineTable .talking r.additionalSections r.sections s
      pure (r.contentViolations s ++ instructed ++ below)) :=
  examine_eq .talking r s

/-! ## Checks are runs of dialogues -/

section
variable (checker : Checker)

theorem Dialogue.run_ask_done (query : Query) :
    (Dialogue.ask query .done).run checker =
      Run.ask checker query.heading query.call.content query.call.instruction := by
  rw [Dialogue.run]
  exact bind_pure _

theorem askInstructions_eq_run (s : Section) (instructions : List String) :
    (Examiner.talking.instruct s instructions).run checker =
      askInstructions checker s instructions := by
  induction instructions with
  | nil => rfl
  | cons instruction rest ih =>
    refine (Dialogue.run_bind checker _ _).trans ?_
    rw [Dialogue.run_ask_done]
    refine congrArg _ (funext fun missing => ?_)
    refine (Dialogue.run_bind checker _ _).trans (congrArg₂ _ ih (funext fun others => ?_))
    cases missing <;> rfl

/-- A dialogue with a checker asks what the check asks. -/
theorem Examiner.talking_maps :
    talking.Maps (.asking checker) fun dialogue => dialogue.run checker where
  pure _ := rfl
  bind := Dialogue.run_bind checker
  instruct := askInstructions_eq_run checker
  below _ _ _ _ _ := rfl

/-- The check of a document whose sections are in place is the run of a dialogue. -/
theorem checkDocument_eq_run (table : List (String × Rule)) {document : Document}
    (h : document.misplaced? = none) :
    checkDocument checker table document
      = (pairsDialogue table document.sections).run checker := by
  rw [checkDocument_eq, h]
  exact ((Examiner.talking_maps checker).examinePairs 0 0 table document.sections).symm

end

end Rubric
