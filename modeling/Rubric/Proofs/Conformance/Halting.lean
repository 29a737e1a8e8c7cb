/-
  Rubric.Proofs.Conformance.Halting

  How a check comes to have no result.

  Only a misplaced section makes a document malformed, and this is found before the
  first call. Any other check follows a dialogue and ends either with violations
  after calls that were all judged, or at the first call that was not: that call is
  the last, and what came of it is what comes of the check. Two checkers that agree
  on judgements go the same way until then.
-/
import Rubric.Conformance.Limit
import Rubric.Proofs.Conformance.Dialogue

namespace Rubric

/-! ## Malformed trees -/

/-- The run does not find a tree malformed. -/
def Run.WellFormed {α : Type} (run : Run α) : Prop :=
  ∀ heading line, run.result ≠ .error (.malformedTree heading line)

/-! ## Calls that are judged -/

/-- The items up to and including the first that does not satisfy `p`. -/
def throughFirst {α : Type} (p : α → Bool) (items : List α) : List α :=
  items.takeWhile p ++ (items.dropWhile p).take 1

theorem throughFirst_cons {α : Type} (p : α → Bool) (x : α) (items : List α) :
    throughFirst p (x :: items) = if p x then x :: throughFirst p items else [x] := by
  cases h : p x <;> simp [throughFirst, h]

theorem throughFirst_map {α β : Type} (f : α → β) (p : β → Bool) (items : List α) :
    throughFirst p (items.map f) = (throughFirst (p ∘ f) items).map f := by
  simp [throughFirst, List.takeWhile_map, List.dropWhile_map, List.map_take]

theorem Run.ask_of_isVerdict {checker : Checker} {content instruction : String}
    (h : (checker content instruction).IsVerdict) (heading : String) :
    Run.ask checker heading content instruction =
      ⟨[⟨content, instruction⟩], .ok (checker content instruction).explanation?⟩ := by
  unfold Run.ask
  cases hanswer : checker content instruction with
  | pass => rfl
  | fail explanation => rfl
  | error reason => rw [hanswer] at h; exact h.elim
  | stall => rw [hanswer] at h; exact h.elim

namespace Dialogue

variable {α : Type} {checker : Checker} {query : Query} {next : Option String → Dialogue α}

theorem queries_ask_of_judges (h : checker.judges query.call) :
    (ask query next).queries checker =
      query :: (next (checker.answer query.call).explanation?).queries checker := by
  rw [queries, if_pos h]

theorem queries_ask_of_not_judges (h : ¬ checker.judges query.call) :
    (ask query next).queries checker = [query] := by
  rw [queries, if_neg h]

theorem run_ask_of_judges (h : checker.judges query.call) :
    (ask query next).run checker =
      ⟨query.call :: ((next (checker.answer query.call).explanation?).run checker).calls,
        ((next (checker.answer query.call).explanation?).run checker).result⟩ := by
  rw [run, Run.ask_of_isVerdict (of_decide_eq_true h)]
  rfl

/-- At a call that is not judged a run stops. -/
theorem run_ask_of_not_judges (h : ¬ checker.judges query.call)
    (next : Option String → Dialogue α) :
    (∃ reason, checker.answer query.call = .error reason ∧
      (ask query next).run checker = ⟨[query.call], .error (.checker query.heading reason)⟩) ∨
    (checker.answer query.call = .stall ∧
      (ask query next).run checker = ⟨[query.call], .error .stalled⟩) := by
  have hverdict : ¬ (checker.answer query.call).IsVerdict := fun hv => h (decide_eq_true hv)
  rw [run]
  unfold Run.ask
  change ¬ (checker query.call.content query.call.instruction).IsVerdict at hverdict
  cases hanswer : checker query.call.content query.call.instruction with
  | pass => rw [hanswer] at hverdict; exact absurd trivial hverdict
  | fail explanation => rw [hanswer] at hverdict; exact absurd trivial hverdict
  | error reason => exact Or.inl ⟨reason, hanswer, rfl⟩
  | stall => exact Or.inr ⟨hanswer, rfl⟩

theorem run_calls (checker : Checker) (d : Dialogue α) :
    (d.run checker).calls = (d.queries checker).map Query.call := by
  induction d with
  | done x => rfl
  | ask query next ih =>
    by_cases h : checker.judges query.call
    · rw [run_ask_of_judges h, queries_ask_of_judges h, List.map_cons, ih]
    · rw [queries_ask_of_not_judges h]
      obtain ⟨reason, -, hrun⟩ | ⟨-, hrun⟩ := run_ask_of_not_judges h next
      · rw [hrun]; rfl
      · rw [hrun]; rfl

/-- A run gets to a result if every call is judged, and otherwise ends at the first call
    that is not, with what came of it. -/
theorem run_cases (checker : Checker) (d : Dialogue α) :
    ((∀ query ∈ d.queries checker, checker.judges query.call) ∧
      ∃ x, (d.run checker).result = .ok x) ∨
    ∃ before query, d.queries checker = before ++ [query] ∧
      (∀ earlier ∈ before, checker.judges earlier.call) ∧
      ((∃ reason, checker.answer query.call = .error reason ∧
          (d.run checker).result = .error (.checker query.heading reason)) ∨
        (checker.answer query.call = .stall ∧ (d.run checker).result = .error .stalled)) := by
  -- Down the branch of each answer, for as long as calls are judged.
  induction d with
  | done x => exact Or.inl ⟨by simp [queries], x, rfl⟩
  | ask query next ih =>
    by_cases h : checker.judges query.call
    · rw [queries_ask_of_judges h, run_ask_of_judges h]
      obtain ⟨hall, x, hx⟩ | ⟨before, last, hqueries, hbefore, hlast⟩ :=
        ih (checker.answer query.call).explanation?
      · exact Or.inl ⟨List.forall_mem_cons.2 ⟨h, hall⟩, x, hx⟩
      · refine Or.inr ⟨query :: before, last, ?_, List.forall_mem_cons.2 ⟨h, hbefore⟩, hlast⟩
        rw [hqueries, List.cons_append]
    · rw [queries_ask_of_not_judges h]
      refine Or.inr ⟨[], query, rfl, by simp, ?_⟩
      obtain ⟨reason, hanswer, hrun⟩ | ⟨hanswer, hrun⟩ := run_ask_of_not_judges h next
      · exact Or.inl ⟨reason, hanswer, congrArg Run.result hrun⟩
      · exact Or.inr ⟨hanswer, congrArg Run.result hrun⟩

theorem run_wellFormed (checker : Checker) (d : Dialogue α) : (d.run checker).WellFormed := by
  intro heading line
  obtain ⟨-, x, hx⟩ | ⟨_, _, -, -, ⟨_, -, hx⟩ | ⟨-, hx⟩⟩ := run_cases checker d
  · simp [hx]
  · simp [hx]
  · simp [hx]

end Dialogue

/-- A document is found malformed only if one of its sections is misplaced. -/
theorem checkDocument_wellFormed (checker : Checker) (table : List (String × Rule))
    {document : Document} (h : document.misplaced? = none) :
    (checkDocument checker table document).WellFormed := by
  rw [checkDocument_eq_run checker table h]
  exact Dialogue.run_wellFormed checker _

/-! ## Two checkers -/

/-- A checker judges as another one does wherever that one judges. -/
def Checker.Follows (checker' checker : Checker) : Prop :=
  ∀ content instruction, (checker content instruction).IsVerdict →
    checker' content instruction = checker content instruction

namespace Dialogue

variable {α : Type} {checker checker' : Checker} (hfollows : checker'.Follows checker)
include hfollows

theorem answer_eq_of_follows {call : Call} (h : checker.judges call) :
    checker'.answer call = checker.answer call :=
  hfollows call.content call.instruction (of_decide_eq_true h)

theorem judges_of_follows {call : Call} (h : checker.judges call) : checker'.judges call := by
  unfold Checker.judges at h ⊢
  rwa [answer_eq_of_follows hfollows h]

/-- What is put to the first checker is what is put to the one that follows it, up to and
    including the first call that the first checker does not judge. -/
theorem queries_eq_throughFirst (d : Dialogue α) :
    d.queries checker = throughFirst (checker.judges ∘ Query.call) (d.queries checker') := by
  -- Both take the same branch below a call that the first checker judges.
  induction d with
  | done x => rfl
  | ask query next ih =>
    by_cases h : checker.judges query.call
    · have h' := judges_of_follows hfollows h
      rw [queries_ask_of_judges h, queries_ask_of_judges h', throughFirst_cons, ih,
        answer_eq_of_follows hfollows h]
      exact (if_pos h).symm
    · rw [queries_ask_of_not_judges h, queries, throughFirst_cons]
      exact (if_neg h).symm

/-- Where the first checker judges everything it is asked, both runs are the same. -/
theorem run_eq_of_judges (d : Dialogue α)
    (hall : ∀ query ∈ d.queries checker, checker.judges query.call) :
    d.run checker = d.run checker' := by
  induction d with
  | done x => rfl
  | ask query next ih =>
    have h : checker.judges query.call := hall query (by simp [queries])
    rw [queries_ask_of_judges h, List.forall_mem_cons] at hall
    rw [run_ask_of_judges h, run_ask_of_judges (judges_of_follows hfollows h),
      answer_eq_of_follows hfollows h, ih _ hall.2]

end Dialogue

/-! ## Documents -/

/-- The queries that the check of a document puts. -/
def documentQueries (checker : Checker) (table : List (String × Rule)) (document : Document) :
    List Query :=
  match document.misplaced? with
  | some _ => []
  | none => (pairsDialogue table document.sections).queries checker

theorem checkDocument_calls (checker : Checker) (table : List (String × Rule))
    (document : Document) :
    (checkDocument checker table document).calls
      = (documentQueries checker table document).map Query.call := by
  unfold documentQueries
  cases hmisplaced : document.misplaced? with
  | some s => simp [checkDocument_eq, hmisplaced, Run.halt]
  | none => rw [checkDocument_eq_run checker table hmisplaced, Dialogue.run_calls]

theorem documentQueries_eq_throughFirst {checker checker' : Checker}
    (hfollows : checker'.Follows checker) (table : List (String × Rule)) (document : Document) :
    documentQueries checker table document =
      throughFirst (checker.judges ∘ Query.call) (documentQueries checker' table document) := by
  unfold documentQueries
  cases document.misplaced? with
  | some s => rfl
  | none => exact Dialogue.queries_eq_throughFirst hfollows _

/-- A check ends with violations or with a misplaced section if every call is judged, and
    otherwise with what came of the first call that is not. -/
theorem checkDocument_cases (checker : Checker) (table : List (String × Rule))
    (document : Document) :
    ((∀ query ∈ documentQueries checker table document, checker.judges query.call) ∧
      ((∃ found, (checkDocument checker table document).result = .ok found) ∨
        ∃ heading line,
          (checkDocument checker table document).result = .error (.malformedTree heading line))) ∨
    ∃ before query, documentQueries checker table document = before ++ [query] ∧
      (∀ earlier ∈ before, checker.judges earlier.call) ∧
      ((∃ reason, checker.answer query.call = .error reason ∧
          (checkDocument checker table document).result
            = .error (.checker query.heading reason)) ∨
        (checker.answer query.call = .stall ∧
          (checkDocument checker table document).result = .error .stalled)) := by
  unfold documentQueries
  cases hmisplaced : document.misplaced? with
  | some s =>
    refine Or.inl ⟨by simp, Or.inr ⟨s.label?.getD "", s.position.start.line, ?_⟩⟩
    simp [checkDocument_eq, hmisplaced, Run.halt]
  | none =>
    rw [checkDocument_eq_run checker table hmisplaced]
    obtain ⟨hall, hfound⟩ | hlast := Dialogue.run_cases checker (pairsDialogue table _)
    · exact Or.inl ⟨hall, Or.inl hfound⟩
    · exact Or.inr hlast

/-- Where the first checker judges everything it is asked about a document, the checker that
    follows it gets the same run. -/
theorem checkDocument_eq_of_judges {checker checker' : Checker}
    (hfollows : checker'.Follows checker) (table : List (String × Rule)) (document : Document)
    (hall : ∀ query ∈ documentQueries checker table document, checker.judges query.call) :
    checkDocument checker table document = checkDocument checker' table document := by
  unfold documentQueries at hall
  cases hmisplaced : document.misplaced? with
  | some s => simp [checkDocument_eq, hmisplaced]
  | none =>
    rw [hmisplaced] at hall
    rw [checkDocument_eq_run checker table hmisplaced,
      checkDocument_eq_run checker' table hmisplaced]
    exact Dialogue.run_eq_of_judges hfollows _ hall

/-- **The first call that is not judged decides.** Let a second checker judge as the first one
    does wherever that one judges. The calls of the first are those of the second up to and
    including the first one that the first checker does not judge. If all are judged, both runs
    are the same, and no limit changes their outcome. If the last is not, then none before it is
    left unjudged. Where the checker fails on it, the run fails under the heading of the section
    that was asked about, whatever the limit; where it is not answered, every limit runs out. -/
theorem first_unjudged_call_decides {checker checker' : Checker}
    (hfollows : checker'.Follows checker) (table : List (String × Rule)) (document : Document) :
    let run := checkDocument checker table document
    let queries := documentQueries checker table document
    run.calls = queries.map Query.call ∧
    run.calls = throughFirst checker.judges (checkDocument checker' table document).calls ∧
    (((∀ query ∈ queries, checker.judges query.call) ∧
        run = checkDocument checker' table document ∧
        ((∃ found, run.result = .ok found ∧
            ∀ limit, checkWithin limit checker table document = some (.ok found)) ∨
          ∃ heading line, run.result = .error (.malformedTree heading line) ∧
            ∀ limit, checkWithin limit checker table document
              = some (.error ⟨[], .malformedTree heading line⟩))) ∨
      ∃ before query, queries = before ++ [query] ∧
        (∀ earlier ∈ before, checker.judges earlier.call) ∧
        ((∃ reason, checker.answer query.call = .error reason ∧
            run.result = .error (.checker query.heading reason) ∧
            ∀ limit, checkWithin limit checker table document
              = some (.error ⟨[], .checker query.heading reason⟩)) ∨
          (checker.answer query.call = .stall ∧ run.result = .error .stalled ∧
            ∀ limit, checkWithin (some limit) checker table document
              = some (.error
                  (Failure.ofText s!"Validation timed out after {limit.toText}"))))) := by
  intro run queries
  have hcalls : run.calls = queries.map Query.call := checkDocument_calls checker table document
  refine ⟨hcalls, ?_, ?_⟩
  · rw [hcalls, checkDocument_calls, throughFirst_map]
    exact congrArg _ (documentQueries_eq_throughFirst hfollows table document)
  · -- A limit only looks at the result.
    have hwithin : ∀ limit, checkWithin limit checker table document = run.within limit :=
      fun _ => rfl
    obtain ⟨hall, hresult⟩ | ⟨before, query, hqueries, hbefore, hlast⟩ :=
      checkDocument_cases checker table document
    · refine Or.inl ⟨hall, checkDocument_eq_of_judges hfollows table document hall, ?_⟩
      obtain ⟨found, hfound⟩ | ⟨heading, line, hmalformed⟩ := hresult
      · exact Or.inl ⟨found, hfound, fun limit => by rw [hwithin, Run.within, hfound]⟩
      · exact Or.inr ⟨heading, line, hmalformed,
          fun limit => by rw [hwithin, Run.within, hmalformed]⟩
    · refine Or.inr ⟨before, query, hqueries, hbefore, ?_⟩
      obtain ⟨reason, hanswer, hfailed⟩ | ⟨hanswer, hstalled⟩ := hlast
      · exact Or.inl ⟨reason, hanswer, hfailed,
          fun limit => by rw [hwithin, Run.within, hfailed]⟩
      · exact Or.inr ⟨hanswer, hstalled,
          fun limit => by rw [hwithin, Run.within, hstalled]; rfl⟩

/-- Three sections are tried for one rule. The first does not follow its instruction, on the
    second the checker fails, and the third is reached only by the checker that follows. -/
theorem failure_ends_trials :
    let checker : Checker := fun content _ =>
      if content = "a" then .fail "long" else if content = "b" then .error "down" else .pass
    let checker' : Checker := fun content _ =>
      if content = "a" ∨ content = "b" then .fail "long" else .pass
    let child : String → Section := fun name =>
      { heading := some ⟨2, name ++ "!", .zero⟩, rawContent := name }
    let table : List (String × Rule) :=
      [("guide",
        { additionalSections := true
          sections := some [("brief", { instructions := ["Be brief."] })] })]
    let document : Document := { sections := [{ sections := [child "a", child "b", child "c"] }] }
    checker'.Follows checker ∧
      (checkDocument checker' table document).calls
        = [⟨"a", "Be brief."⟩, ⟨"b", "Be brief."⟩, ⟨"c", "Be brief."⟩] ∧
      (checkDocument checker table document).calls = [⟨"a", "Be brief."⟩, ⟨"b", "Be brief."⟩] ∧
      ∀ limit, checkWithin limit checker table document
        = some (.error ⟨[], .checker "b!" "down"⟩) := by
  intro checker checker' child table document
  have hfollows : checker'.Follows checker := by
    intro content instruction hverdict
    simp only [checker, checker'] at hverdict ⊢
    by_cases ha : content = "a"
    · simp [ha]
    by_cases hb : content = "b"
    · simp [hb, Answer.IsVerdict] at hverdict
    · simp [ha, hb]
  have hcalls' : (checkDocument checker' table document).calls
      = [⟨"a", "Be brief."⟩, ⟨"b", "Be brief."⟩, ⟨"c", "Be brief."⟩] := by decide
  obtain ⟨-, hcalls, hend⟩ := first_unjudged_call_decides hfollows table document
  rw [hcalls'] at hcalls
  refine ⟨hfollows, hcalls', hcalls.trans (by decide), ?_⟩
  have hqueries : documentQueries checker table document
      = [⟨child "a", "Be brief."⟩] ++ [⟨child "b", "Be brief."⟩] := by rfl
  obtain ⟨hall, -⟩ | ⟨before, query, hlast, -, hend⟩ := hend
  · exact absurd (hall ⟨child "b", "Be brief."⟩ (by simp [hqueries])) (by decide)
  · obtain ⟨-, rfl⟩ := List.append_singleton_inj.1 (hqueries.symm.trans hlast)
    obtain ⟨reason, hanswer, -, hwithin⟩ | ⟨hanswer, -⟩ := hend
    · obtain rfl : "down" = reason := Answer.error.inj hanswer
      exact hwithin
    · exact absurd hanswer (by decide)

end Rubric
