/-
  Rubric.Proofs.Conformance.Tour

  Which sections a check holds against which rules.

  A section is visited when its check against a rule begins. A tour is the examination
  that writes its visits down: for each the paths of the section and of the rule, and the
  calls that were made for the rule's own instructions before going further down. The way
  is that of the check, and without the paths a tour is the check again.
-/
import Rubric.Proofs.Conformance.Dialogue

namespace Rubric

/-! ## Visits and tours -/

/-- A section that is held against a rule, with the calls for the rule's instructions. -/
structure Visit where
  sectionPath : List Nat
  rulePath : List Nat
  calls : List Call

/-- The section and the rule of a visit. -/
def Visit.place (v : Visit) : List Nat × List Nat :=
  (v.sectionPath, v.rulePath)

/-- A visit as it looks from one level above, where it lies below section `i` and
    rule `j`. -/
def Visit.below (i j : Nat) (v : Visit) : Visit :=
  ⟨i :: v.sectionPath, j :: v.rulePath, v.calls⟩

/-- The visits that were made and what came of them. -/
structure Tour (α : Type) where
  visits : List Visit
  result : Except Halt α

namespace Tour

variable {α β : Type}

/-- One tour after the other. The second one is not made if the first has no result. -/
def andThen (first : Tour α) (next : α → Tour β) : Tour β :=
  match first.result with
  | .error h => ⟨first.visits, .error h⟩
  | .ok x => ⟨first.visits ++ (next x).visits, (next x).result⟩

instance : Monad Tour where
  pure x := ⟨[], .ok x⟩
  bind := andThen

/-- The tour of one visit, whose calls a run makes. -/
def visit (run : Run α) : Tour α :=
  ⟨[⟨[], [], run.calls⟩], run.result⟩

/-- A tour as it looks from one level above. -/
def below (i j : Nat) (tour : Tour α) : Tour α :=
  ⟨tour.visits.map (Visit.below i j), tour.result⟩

/-- The run that makes the calls of a tour. -/
def toRun (tour : Tour α) : Run α :=
  ⟨tour.visits.flatMap Visit.calls, tour.result⟩

theorem toRun_visit (run : Run α) : (visit run).toRun = run := by
  show Run.mk (run.calls ++ []) run.result = run
  rw [List.append_nil]

theorem toRun_below (i j : Nat) (tour : Tour α) : (tour.below i j).toRun = tour.toRun := by
  show Run.mk ((tour.visits.map (Visit.below i j)).flatMap Visit.calls) tour.result = tour.toRun
  rw [List.flatMap_map]
  rfl

theorem toRun_bind (first : Tour α) (next : α → Tour β) :
    (first >>= next).toRun = first.toRun >>= fun x => (next x).toRun := by
  obtain ⟨visits, result⟩ := first
  cases result with
  | error halt => rfl
  | ok x =>
    show Run.mk ((visits ++ (next x).visits).flatMap Visit.calls) (next x).result = _
    rw [List.flatMap_append]
    rfl

end Tour

/-! ## The tour of a check -/

section
variable (checker : Checker)

/-- The examiner that writes down where it follows instructions. -/
def Examiner.touring : Examiner Tour where
  instruct s instructions := .visit (askInstructions checker s instructions)
  below := Tour.below

/-- The tour of the check of a section and everything below it. -/
def Rule.tour (r : Rule) (s : Section) : Tour (List Violation) :=
  r.examine (.touring checker) s

/-- The tour of the check of a document. -/
def documentTour (table : List (String × Rule)) (document : Document) : Tour (List Violation) :=
  examineDocument (.touring checker) (fun halt => ⟨[], .error halt⟩) table document

theorem Rule.tour_eq (r : Rule) (s : Section) :
    r.tour checker s = (do
      let instructed ← Tour.visit (askInstructions checker s r.instructions)
      let below ← examineTable (.touring checker) r.additionalSections r.sections s
      pure (r.contentViolations s ++ instructed ++ below)) :=
  examine_eq (.touring checker) r s

/-! ## Without its paths a tour is the check -/

theorem Examiner.touring_maps : (touring checker).Maps (.asking checker) Tour.toRun where
  pure _ := rfl
  bind := Tour.toRun_bind
  instruct s instructions := Tour.toRun_visit (askInstructions checker s instructions)
  below i j _ _ tour := Tour.toRun_below i j tour

/-- The tour of a document makes the calls of its check and comes to the same result. -/
theorem documentTour_toRun (table : List (String × Rule)) (document : Document) :
    (documentTour checker table document).toRun = checkDocument checker table document :=
  (Examiner.touring_maps checker).examineDocument (fun _ => rfl) table document

end

end Rubric
