/-
  Rubric.Proofs.Editor.Interleaving

  What is shown when handlers overlap.

  A handler checks copies of a document and of the rules, and publishes the result
  whenever the check ends. In the meantime the text may be changed, the document
  closed or the templates replaced, and nothing keeps the result back. An action that
  does one of these touches the document. From the last touch on, copies that are taken
  are those of the final text and templates, and the process that touched the document
  publishes what is due. What else is published about it is the same, or comes from a
  process that held an outdated copy when the document was touched last.
-/
import Rubric.Proofs.Editor.Process

namespace Rubric.Editor

/-- What should be shown of a document: the diagnostics of its text by the template in
    force, and the empty list if it is closed. -/
def Session.due? (setting : Setting) (s : Session) (uri : String) : Option (List Diagnostic) :=
  match s.document? uri with
  | none => some []
  | some _ => s.diagnoses? setting uri

namespace Action

/-- An action changes the text of a document, closes it, or replaces the templates while
    it is open. -/
def Touches (s : Session) (uri : String) : Action → Prop
  | .store other _ => other = uri
  | .remove other => other = uri
  | .install (.ok _) _ => (s.document? uri).isSome
  | _ => False

/-- What an action holds about a document is not outdated: copies are those of its text and
    of the rules in force, and diagnostics are those that should be shown. -/
def Current (setting : Setting) (s : Session) (uri : String) : Action → Prop
  | .copyRules other d => other = uri → s.document? uri = some d
  | .judge other d table => other = uri → s.document? uri = some d ∧ s.rules setting = .table table
  | .say (.diagnostics other items) => other = uri → s.due? setting uri = some items
  | _ => True

/-- An action leads to the diagnostics that should be shown of a document. -/
def Owes (setting : Setting) (s : Session) (uri : String) : Action → Prop
  | .checkAll _ => (s.document? uri).isSome
  | .copyDocument other => other = uri ∧ (s.document? uri).isSome
  | .copyRules other d => other = uri ∧ s.document? uri = some d
  | .judge other d table => other = uri ∧ s.document? uri = some d ∧ s.rules setting = .table table
  | .say (.diagnostics other items) => other = uri ∧ s.due? setting uri = some items
  | _ => False

end Action

/-! ## Actions that do not touch a document -/

/-- Two sessions have the same to say about a document. -/
structure Session.Agree (uri : String) (s t : Session) : Prop where
  document : t.document? uri = s.document? uri
  registry : (s.document? uri).isSome → t.registry = s.registry

section Agree

variable {setting : Setting} {s t : Session} {uri : String}

theorem Session.Agree.refl (uri : String) (s : Session) : s.Agree uri s :=
  ⟨rfl, fun _ => rfl⟩

theorem Session.Agree.trans {u : Session} (h : s.Agree uri t) (h' : t.Agree uri u) :
    s.Agree uri u where
  document := h'.document.trans h.document
  registry hopen := (h'.registry (by rwa [h.document])).trans (h.registry hopen)

theorem Session.Agree.rules (h : s.Agree uri t) (hopen : (s.document? uri).isSome) :
    t.rules setting = s.rules setting := by
  rw [Session.rules, Session.rules, h.registry hopen]

theorem Session.Agree.due? (h : s.Agree uri t) : t.due? setting uri = s.due? setting uri := by
  rw [Session.due?, Session.due?, h.document]
  cases hd : s.document? uri with
  | none => rfl
  | some d => exact diagnoses?_congr h.document (h.registry (by rw [hd]; rfl))

theorem verdict?_eq_diagnostics_iff {other : String} {d : OpenDocument}
    {table : List (String × Rule)} {items : List Diagnostic} :
    Session.verdict? setting other d table = some (.diagnostics uri items) ↔
      other = uri ∧ ∃ violations,
        checkWithin setting.limit setting.checker table d.outline = some (.ok violations) ∧
        violations.map (Diagnostic.ofViolation d.source) = items := by
  rw [Session.verdict?]
  cases checkWithin setting.limit setting.checker table d.outline with
  | none => simp
  | some result => cases result <;> simp

/-- What should be shown of an open document is what its check by the rules in force gives. -/
theorem due?_eq_some_iff {d : OpenDocument} (hd : s.document? uri = some d)
    {items : List Diagnostic} :
    s.due? setting uri = some items ↔ ∃ table, s.rules setting = .table table ∧
      Session.verdict? setting uri d table = some (.diagnostics uri items) := by
  rw [Session.due?, Session.diagnoses?, hd]
  cases s.rules setting with
  | none => simp
  | missing name => simp
  | table table =>
    simp only [verdict?_eq_diagnostics_iff, true_and, Session.Rules.table.injEq, exists_eq_left']
    cases checkWithin setting.limit setting.checker table d.outline with
    | none => simp
    | some result => cases result <;> simp

namespace Action

theorem perform_agree {action : Action} (h : ¬ action.Touches s uri) :
    s.Agree uri (action.perform setting s).session := by
  cases action with
  | store other text =>
    exact ⟨(Scene.document?_store s other uri text).trans (if_neg h), fun _ => rfl⟩
  | remove other =>
    exact ⟨(Scene.document?_forget s other uri).trans (if_neg h), fun _ => rfl⟩
  | install outcome order =>
    cases outcome with
    | ok registry => exact ⟨rfl, fun hopen => absurd hopen h⟩
    | error failure => exact .refl uri s
  | checkAll order => exact .refl uri s
  | copyDocument other => exact .refl uri s
  | copyRules other d =>
    rw [perform]
    cases s.rules setting <;> exact .refl uri s
  | judge other d table =>
    rw [perform]
    cases Session.verdict? setting other d table <;> exact .refl uri s
  | say message => exact .refl uri s

theorem Current.of_agree {action : Action} (hcurrent : action.Current setting s uri)
    (h : s.Agree uri t) : action.Current setting t uri := by
  cases action with
  | copyRules other d =>
    intro heq
    rw [h.document]
    exact hcurrent heq
  | judge other d table =>
    intro heq
    obtain ⟨hd, htable⟩ := hcurrent heq
    rw [h.document, h.rules (by rw [hd]; rfl)]
    exact ⟨hd, htable⟩
  | say message =>
    cases message with
    | log urgency text => trivial
    | diagnostics other items =>
      intro heq
      rw [h.due?]
      exact hcurrent heq
  | _ => trivial

theorem Owes.of_agree {action : Action} (howes : action.Owes setting s uri)
    (h : s.Agree uri t) : action.Owes setting t uri := by
  cases action with
  | checkAll order => exact (congrArg Option.isSome h.document).trans howes
  | copyDocument other => exact ⟨howes.1, h.document ▸ howes.2⟩
  | copyRules other d => exact ⟨howes.1, h.document.trans howes.2⟩
  | judge other d table =>
    obtain ⟨heq, hd, htable⟩ := howes
    exact ⟨heq, h.document.trans hd, (h.rules (by rw [hd]; rfl)).trans htable⟩
  | say message =>
    cases message with
    | log urgency text => exact howes.elim
    | diagnostics other items => exact ⟨howes.1, h.due?.trans howes.2⟩
  | _ => exact howes.elim

/-! ## What follows from an action -/

/-- An action that is not outdated says what is due. -/
theorem Current.said {action : Action} (hcurrent : action.Current setting s uri)
    {items : List Diagnostic}
    (hsaid : .diagnostics uri items ∈ (action.perform setting s).said) :
    s.due? setting uri = some items := by
  cases action with
  | say message =>
    obtain rfl : .diagnostics uri items = message := List.mem_singleton.1 hsaid
    exact hcurrent rfl
  | copyRules other d =>
    rw [perform] at hsaid
    cases h : s.rules setting <;> simp [h] at hsaid
  | judge other d table =>
    rw [perform] at hsaid
    cases h : Session.verdict? setting other d table <;> simp [h] at hsaid
  | _ => cases hsaid

/-- What follows from an action that is not outdated, and does not touch the document, is
    not outdated. -/
theorem Current.next {action : Action} (hcurrent : action.Current setting s uri)
    (hcalm : ¬ action.Touches s uri) :
    ∀ following ∈ (action.perform setting s).next, following.Current setting s uri := by
  cases action with
  | store other text => exact List.forall_mem_singleton.2 trivial
  | remove other => exact List.forall_mem_singleton.2 fun heq => absurd heq hcalm
  | install outcome order =>
    cases outcome with
    | ok registry => exact List.forall_mem_cons.2 ⟨trivial, List.forall_mem_singleton.2 trivial⟩
    | error failure => exact List.forall_mem_singleton.2 trivial
  | checkAll order =>
    intro following hfollowing
    obtain ⟨other, -, rfl⟩ := List.mem_map.1 hfollowing
    trivial
  | copyDocument other =>
    intro following hfollowing
    simp only [perform, Option.mem_toList, Option.map_eq_some_iff] at hfollowing
    obtain ⟨d, hd, rfl⟩ := hfollowing
    exact fun heq => heq ▸ hd
  | copyRules other d =>
    rw [perform]
    cases h : s.rules setting with
    | none => exact List.forall_mem_nil _
    | missing name => exact List.forall_mem_singleton.2 trivial
    | table table => exact List.forall_mem_singleton.2 fun heq => ⟨hcurrent heq, h⟩
  | judge other d table =>
    rw [perform]
    cases h : Session.verdict? setting other d table with
    | none => exact List.forall_mem_singleton.2 hcurrent
    | some message =>
      refine List.forall_mem_singleton.2 ?_
      cases message with
      | log urgency text => trivial
      | diagnostics about items =>
        rintro rfl
        obtain ⟨rfl, -⟩ := verdict?_eq_diagnostics_iff.1 h
        obtain ⟨hd, htable⟩ := hcurrent rfl
        exact (due?_eq_some_iff hd).2 ⟨table, htable, h⟩
  | say message => exact List.forall_mem_nil _

/-- An action that leads to what is due says it, or is followed by one that leads to it. -/
theorem Owes.next {action : Action} (howes : action.Owes setting s uri) {items : List Diagnostic}
    (hdue : s.due? setting uri = some items) :
    .diagnostics uri items ∈ (action.perform setting s).said ∨
      ∃ following ∈ (action.perform setting s).next, following.Owes setting s uri := by
  cases action with
  | checkAll order =>
    have hlisted : uri ∈ order.arrange s.uris := (order.mem_arrange s.uris).2 (mem_uris_iff.2 howes)
    exact .inr ⟨.copyDocument uri, List.mem_map_of_mem hlisted, rfl, howes⟩
  | copyDocument other =>
    obtain ⟨rfl, hopen⟩ := howes
    obtain ⟨d, hd⟩ := Option.isSome_iff_exists.1 hopen
    exact .inr ⟨.copyRules other d, by simp [perform, hd], rfl, hd⟩
  | copyRules other d =>
    obtain ⟨rfl, hd⟩ := howes
    obtain ⟨table, htable, -⟩ := (due?_eq_some_iff hd).1 hdue
    exact .inr ⟨.judge other d table, by simp [perform, htable], rfl, hd, htable⟩
  | judge other d table =>
    obtain ⟨rfl, hd, htable⟩ := howes
    obtain ⟨table', htable', hverdict⟩ := (due?_eq_some_iff hd).1 hdue
    obtain rfl : table = table' := by
      rw [htable] at htable'
      exact Session.Rules.table.inj htable'
    exact .inr ⟨.say (.diagnostics other items), by simp [perform, hverdict], rfl, hdue⟩
  | say message =>
    cases message with
    | log urgency text => exact howes.elim
    | diagnostics other others =>
      obtain ⟨rfl, hothers⟩ := howes
      obtain rfl : others = items := Option.some.inj (hothers.symm.trans hdue)
      exact .inl (List.mem_singleton_self _)
  | _ => exact howes.elim

/-- An action that touches a document is followed by one that leads to what is due. -/
theorem Touches.next (setting : Setting) {action : Action} (htouches : action.Touches s uri) :
    ∃ following ∈ (action.perform setting s).next,
      following.Owes setting (action.perform setting s).session uri := by
  cases action with
  | store other text =>
    obtain rfl : other = uri := htouches
    have hstored := (Scene.document?_store s other other text).trans (if_pos rfl)
    exact ⟨.copyDocument other, List.mem_singleton_self _, rfl, by rw [perform, hstored]; rfl⟩
  | remove other =>
    obtain rfl : other = uri := htouches
    have hremoved := (Scene.document?_forget s other other).trans (if_pos rfl)
    exact ⟨.say (.diagnostics other []), List.mem_singleton_self _, rfl,
      by rw [perform, Session.due?, hremoved]⟩
  | install outcome order =>
    cases outcome with
    | ok registry => exact ⟨.checkAll order, List.mem_cons_of_mem _ (List.mem_singleton_self _),
        htouches⟩
    | error failure => exact htouches.elim
  | _ => exact htouches.elim

end Action

end Agree

/-! ## Turns that do not touch a document -/

namespace World

variable {setting : Setting} {w : World} {i j : Nat} {uri : String} {items : List Diagnostic}

/-- The next action of a process touches a document. -/
def Touches (w : World) (i : Nat) (uri : String) : Prop :=
  ∃ action rest, w.tasks[i]? = some (action :: rest) ∧ action.Touches w.session uri

/-- No action of a run touches a document. -/
def Untouched (setting : Setting) (uri : String) : World → List Nat → Prop
  | _, [] => True
  | w, i :: rest => ¬ w.Touches i uri ∧ Untouched setting uri (w.step setting i) rest

/-- Nothing that a process holds about a document is outdated. -/
def Current (setting : Setting) (w : World) (i : Nat) (uri : String) : Prop :=
  ∀ task, w.tasks[i]? = some task → ∀ action ∈ task, action.Current setting w.session uri

/-- A process has an action to do that leads to what should be shown of a document. -/
def Owes (setting : Setting) (w : World) (i : Nat) (uri : String) : Prop :=
  ∃ task, w.tasks[i]? = some task ∧ ∃ action ∈ task, action.Owes setting w.session uri

theorem tasks_step_self (setting : Setting) {action : Action} {rest : List Action}
    (h : w.tasks[i]? = some (action :: rest)) :
    (w.step setting i).tasks[i]? = some ((action.perform setting w.session).next ++ rest) := by
  rw [step_of_next setting h]
  exact List.getElem?_set_self (List.getElem?_eq_some_iff.1 h).1

theorem tasks_step_of_ne (setting : Setting) (hne : i ≠ j) :
    (w.step setting i).tasks[j]? = w.tasks[j]? := by
  obtain ⟨action, rest, hnext⟩ | ⟨hstep, -⟩ := exists_next_or_idle setting w i
  · rw [step_of_next setting hnext]
    exact List.getElem?_set_ne hne
  · rw [hstep]

theorem step_agree (setting : Setting) (hcalm : ¬ w.Touches i uri) :
    w.session.Agree uri (w.step setting i).session := by
  obtain ⟨action, rest, hnext⟩ | ⟨hstep, -⟩ := exists_next_or_idle setting w i
  · rw [step_of_next setting hnext]
    exact Action.perform_agree fun h => hcalm ⟨action, rest, hnext, h⟩
  · rw [hstep]
    exact .refl uri w.session

theorem step_current (hcalm : ¬ w.Touches i uri) (hcurrent : w.Current setting j uri) :
    (w.step setting i).Current setting j uri := by
  have hagree := step_agree setting hcalm
  intro task htask action haction
  by_cases hij : i = j
  · subst hij
    obtain ⟨first, rest, hnext⟩ | ⟨hstep, -⟩ := exists_next_or_idle setting w i
    · have hheld := hcurrent _ hnext
      rw [tasks_step_self setting hnext] at htask
      obtain rfl : _ ++ rest = task := Option.some.inj htask
      -- The action follows from the one that was done, or the process held it before.
      obtain hfollows | hrest := List.mem_append.1 haction
      · have hfirst : ¬ first.Touches w.session uri := fun h => hcalm ⟨first, rest, hnext, h⟩
        exact ((hheld first List.mem_cons_self).next hfirst action hfollows).of_agree hagree
      · exact (hheld action (List.mem_cons_of_mem _ hrest)).of_agree hagree
    · rw [hstep] at htask ⊢
      exact hcurrent task htask action haction
  · rw [tasks_step_of_ne setting hij] at htask
    exact (hcurrent task htask action haction).of_agree hagree

/-- A process that is not outdated says what is due. -/
theorem said_of_current (hcurrent : w.Current setting i uri)
    (hsaid : .diagnostics uri items ∈ w.saidBy setting i) :
    w.session.due? setting uri = some items := by
  obtain ⟨action, rest, hnext⟩ | ⟨-, hnone⟩ := exists_next_or_idle setting w i
  · rw [saidBy_of_next hnext] at hsaid
    exact (hcurrent _ hnext action List.mem_cons_self).said hsaid
  · rw [hnone] at hsaid
    cases hsaid

/-- What a process owes is said with its next action, or is still owed afterwards. -/
theorem step_owes (hcalm : ¬ w.Touches i uri) (howes : w.Owes setting j uri)
    (hdue : w.session.due? setting uri = some items) :
    (j = i ∧ .diagnostics uri items ∈ w.saidBy setting i) ∨
      (w.step setting i).Owes setting j uri := by
  have hagree := step_agree setting hcalm
  obtain ⟨task, htask, action, haction, hleads⟩ := howes
  by_cases hij : i = j
  · subst hij
    obtain ⟨first, rest, hnext⟩ | ⟨hstep, -⟩ := exists_next_or_idle setting w i
    · have hafter := tasks_step_self setting hnext
      obtain rfl : first :: rest = task := Option.some.inj (hnext.symm.trans htask)
      obtain rfl | hrest := List.mem_cons.1 haction
      · obtain hsaid | ⟨following, hfollows, hlater⟩ := hleads.next hdue
        · exact .inl ⟨rfl, by rwa [saidBy_of_next hnext]⟩
        · exact .inr ⟨_, hafter, following, List.mem_append_left _ hfollows,
            hlater.of_agree hagree⟩
      · exact .inr ⟨_, hafter, action, List.mem_append_right _ hrest, hleads.of_agree hagree⟩
    · rw [hstep]
      exact .inr ⟨task, htask, action, haction, hleads⟩
  · rw [← tasks_step_of_ne setting hij] at htask
    exact .inr ⟨task, htask, action, haction, hleads.of_agree hagree⟩

/-- A process that touches a document owes what is due from then on. -/
theorem owes_of_touches (htouches : w.Touches i uri) :
    (w.step setting i).Owes setting i uri := by
  obtain ⟨action, rest, hnext, haction⟩ := htouches
  obtain ⟨following, hfollows, hleads⟩ := haction.next setting
  refine ⟨_, tasks_step_self setting hnext, following, List.mem_append_left _ hfollows, ?_⟩
  rw [step_of_next setting hnext]
  exact hleads

/-! ## Runs that do not touch a document -/

theorem run_agree {schedule : List Nat} (h : w.Untouched setting uri schedule) :
    w.session.Agree uri (w.run setting schedule).session := by
  induction schedule generalizing w with
  | nil => exact .refl uri w.session
  | cons i schedule ih => exact (step_agree setting h.1).trans (ih h.2)

/-- What a process that is not outdated publishes is what is due. -/
theorem heard_of_current {schedule : List Nat} (h : w.Untouched setting uri schedule)
    (hcurrent : w.Current setting j uri)
    (hheard : (j, .diagnostics uri items) ∈ w.heard setting schedule) :
    w.session.due? setting uri = some items := by
  induction schedule generalizing w with
  | nil => cases hheard
  | cons i schedule ih =>
    rw [heard, List.mem_append] at hheard
    obtain hnow | hlater := hheard
    · obtain ⟨message, hsaid, heq⟩ := List.mem_map.1 hnow
      obtain ⟨rfl, rfl⟩ := Prod.mk.inj heq
      exact said_of_current hcurrent hsaid
    · rw [← (step_agree setting h.1).due?]
      exact ih h.2 (step_current h.1 hcurrent) hlater

/-- What a process owes it publishes before it has finished. -/
theorem heard_of_owes {schedule : List Nat} (h : w.Untouched setting uri schedule)
    (howes : w.Owes setting j uri) (hdue : w.session.due? setting uri = some items)
    (hdone : (w.run setting schedule).Done) :
    (j, .diagnostics uri items) ∈ w.heard setting schedule := by
  induction schedule generalizing w with
  | nil =>
    obtain ⟨task, htask, action, haction, -⟩ := howes
    have hempty := List.isEmpty_iff.1 (hdone task (List.mem_of_getElem? htask))
    rw [hempty] at haction
    cases haction
  | cons i schedule ih =>
    rw [heard, List.mem_append]
    obtain ⟨rfl, hsaid⟩ | hlater := step_owes h.1 howes hdue
    · exact .inl (List.mem_map_of_mem hsaid)
    · rw [← (step_agree setting h.1).due?] at hdue
      exact .inr (ih h.2 hlater hdue hdone)

/-! ## The last touch -/

/-- A run does not touch a document, or there is a last action that does. -/
theorem untouched_or_last_touch (setting : Setting) (w : World) (uri : String)
    (schedule : List Nat) :
    w.Untouched setting uri schedule ∨
      ∃ before i after, schedule = before ++ i :: after ∧ (w.run setting before).Touches i uri ∧
        (w.run setting (before ++ [i])).Untouched setting uri after := by
  induction schedule generalizing w with
  | nil => exact .inl trivial
  | cons i schedule ih =>
    obtain hcalm | ⟨before, k, after, rfl, htouches, hafter⟩ := ih (w.step setting i)
    · by_cases htouches : w.Touches i uri
      · exact .inr ⟨[], i, schedule, rfl, htouches, hcalm⟩
      · exact .inl ⟨htouches, hcalm⟩
    · exact .inr ⟨i :: before, k, after, rfl, htouches, hafter⟩

/-- Closing a document remains to be done as long as nothing touches the document. -/
theorem remove_mem_run {schedule : List Nat} (h : w.Untouched setting uri schedule)
    (hremove : ∃ task ∈ w.tasks, .remove uri ∈ task) :
    ∃ task ∈ (w.run setting schedule).tasks, .remove uri ∈ task := by
  induction schedule generalizing w with
  | nil => exact hremove
  | cons i schedule ih =>
    refine ih h.2 ?_
    obtain ⟨task, htask, hremove⟩ := hremove
    obtain ⟨j, hj⟩ := List.mem_iff_getElem?.1 htask
    by_cases hij : i = j
    · subst hij
      obtain ⟨first, rest, hnext⟩ | ⟨hstep, -⟩ := exists_next_or_idle setting w i
      · obtain rfl : first :: rest = task := Option.some.inj (hnext.symm.trans hj)
        -- Doing the removal itself would touch the document.
        obtain rfl | hrest := List.mem_cons.1 hremove
        · exact absurd ⟨_, _, hnext, rfl⟩ h.1
        · have hafter := List.mem_of_getElem? (tasks_step_self setting hnext)
          exact ⟨_, hafter, List.mem_append_right _ hrest⟩
      · rw [hstep]
        exact ⟨task, htask, hremove⟩
    · rw [← tasks_step_of_ne setting hij] at hj
      exact ⟨task, List.mem_of_getElem? hj, hremove⟩

/-- Where all that is published about a document is the same, and something is, it is what
    is shown. -/
theorem hearAll_eq_some {shown : Shown} {messages : List Message}
    (hall : ∀ others, .diagnostics uri others ∈ messages → others = items)
    (h : shown uri = some items ∨ .diagnostics uri items ∈ messages) :
    shown.hearAll messages uri = some items := by
  induction messages generalizing shown with
  | nil => exact h.resolve_right List.not_mem_nil
  | cons message rest ih =>
    change (shown.hear message).hearAll rest uri = some items
    refine ih (fun others hmem => hall others (List.mem_cons_of_mem _ hmem)) ?_
    cases message with
    | log urgency text => simpa [Shown.hear] using h
    | diagnostics other others =>
      by_cases heq : uri = other
      · subst heq
        left
        rw [hall others List.mem_cons_self]
        exact if_pos rfl
      · have hsame : shown.hear (.diagnostics other others) uri = shown uri := if_neg heq
        rw [hsame]
        simpa [heq] using h

/-! ## What is shown at the end -/

/-- Processes that have not begun, while no document is open. -/
def start (registry : Registry) (processes : List Process) : World :=
  ofProcesses { registry := registry } processes

/-- A document is open in the end, or one of the processes closed it. -/
def Attended (processes : List Process) (s : Session) (uri : String) : Prop :=
  (s.document? uri).isSome ∨ ∃ process ∈ processes, ∃ job ∈ process, job.event = .closed uri

/-- When all processes have finished, what is shown of each document is the diagnostics of its
    text by the template in force, and the empty list if it is closed. -/
def ShowsDue (setting : Setting) (registry : Registry) (processes : List Process)
    (schedule : List Nat) : Prop :=
  let final := (start registry processes).run setting schedule
  final.Done → ∀ uri items, Attended processes final.session uri →
    final.session.due? setting uri = some items →
      (start registry processes).shown setting schedule uri = some items

/-- An attended document is touched before all processes have finished. -/
theorem not_untouched {registry : Registry} {processes : List Process} {schedule : List Nat}
    (hdone : ((start registry processes).run setting schedule).Done)
    (hattended : Attended processes ((start registry processes).run setting schedule).session uri) :
    ¬ (start registry processes).Untouched setting uri schedule := by
  intro h
  obtain hopen | ⟨process, hprocess, job, hjob, hclosed⟩ := hattended
  · rw [(run_agree h).document] at hopen
    simp [start, ofProcesses, Session.document?, Fields.get?] at hopen
  · have hbegin : .remove uri ∈ process.actions :=
      List.mem_flatMap.2 ⟨job, hjob, by simp [Job.actions, hclosed]⟩
    obtain ⟨task, htask, hremove⟩ :=
      remove_mem_run h ⟨process.actions, List.mem_map_of_mem hprocess, hbegin⟩
    rw [List.isEmpty_iff.1 (hdone task htask)] at hremove
    cases hremove

/-- Let processes run in any order until all have finished, and let `items` be what should be
    shown of a document then. After the last touch of the document its process publishes
    `items`. What else is published about the document from then on is `items` too, or comes
    from a process that held something outdated about it at the touch. If none did, `items` is
    what is shown. -/
theorem due_published_after_last_touch (setting : Setting) (registry : Registry)
    (processes : List Process) (schedule : List Nat) (uri : String) (items : List Diagnostic)
    (hdone : ((start registry processes).run setting schedule).Done)
    (hattended : Attended processes ((start registry processes).run setting schedule).session uri)
    (hdue : ((start registry processes).run setting schedule).session.due?
      setting uri = some items) :
    ∃ before i after, schedule = before ++ i :: after ∧
      let touched := (start registry processes).run setting (before ++ [i])
      ((start registry processes).run setting before).Touches i uri ∧
      touched.Untouched setting uri after ∧
      (i, .diagnostics uri items) ∈ touched.heard setting after ∧
      (∀ j others, (j, .diagnostics uri others) ∈ touched.heard setting after →
        others = items ∨ ¬ touched.Current setting j uri) ∧
      ((∀ j, touched.Current setting j uri) →
        (start registry processes).shown setting schedule uri = some items) := by
  obtain huntouched | ⟨before, i, after, rfl, htouches, hafter⟩ := untouched_or_last_touch setting
    (start registry processes) uri schedule
  · exact absurd huntouched (not_untouched hdone hattended)
  have hsplit : before ++ i :: after = (before ++ [i]) ++ after := by
    rw [List.append_assoc, List.singleton_append]
  rw [hsplit, run_append] at hdone hdue
  rw [(run_agree hafter).due?] at hdue
  have howes : ((start registry processes).run setting (before ++ [i])).Owes setting i uri := by
    rw [run_append]
    exact owes_of_touches htouches
  have hpublished := heard_of_owes hafter howes hdue hdone
  refine ⟨before, i, after, rfl, htouches, hafter, hpublished, ?_, ?_⟩
  · intro j others hheard
    rw [or_iff_not_imp_right, not_not]
    intro hcurrent
    exact Option.some.inj ((heard_of_current hafter hcurrent hheard).symm.trans hdue)
  · -- Whatever was shown at the touch is replaced by what is published after it.
    intro hcurrent
    rw [shown, hsplit, heard_append, List.map_append, hearAll_append]
    refine hearAll_eq_some ?_ (.inr (List.mem_map_of_mem (f := Prod.snd) hpublished))
    intro others hmem
    obtain ⟨⟨j, message⟩, hheard, rfl⟩ := List.mem_map.1 hmem
    exact Option.some.inj ((heard_of_current hafter (hcurrent j) hheard).symm.trans hdue)

/-- A document with a wrong heading is opened. -/
def draftOpening : Process :=
  [{ event := .opened "a.md" "# Draft\n" }]

/-- Its heading is corrected. -/
def headingChange : Process :=
  [{ event := .changed "a.md" ["# Guide\n"] }]

/-- A change that leaves the heading as it is. -/
def draftChange : Process :=
  [{ event := .changed "a.md" ["# Draft\n"] }]

/-- The document is closed. -/
def draftClosing : Process :=
  [{ event := .closed "a.md" }]

/-- The template comes to accept any heading. -/
def templatesRelaxed : Process :=
  [{ event := .templatesChanged "t.json" (.ok ⟨[⟨"t", none, [("guide", {})]⟩]⟩) }]

/-- Two handlers that take turns: both take their copies after the last change. -/
def alternating : World :=
  start Scene.guideTemplates [draftOpening, headingChange]

theorem alternating_handlers_publish_due :
    (alternating.run {} [0, 1, 0, 1, 0, 1, 0, 1, 0, 1]).Done ∧
    (alternating.run {} [0, 1, 0, 1, 0, 1, 0, 1, 0, 1]).session.due? {} "a.md" = some [] ∧
    ∃ before i after, [0, 1, 0, 1, 0, 1, 0, 1, 0, 1] = before ++ i :: after ∧
      (alternating.run {} (before ++ [i])).Untouched {} "a.md" after ∧
      (i, .diagnostics "a.md" []) ∈ (alternating.run {} (before ++ [i])).heard {} after := by
  have hdone : (alternating.run {} [0, 1, 0, 1, 0, 1, 0, 1, 0, 1]).Done := by decide +kernel
  have hdue : (alternating.run {} [0, 1, 0, 1, 0, 1, 0, 1, 0, 1]).session.due? {} "a.md" =
      some [] := by
    decide +kernel
  obtain ⟨before, i, after, hsplit, -, hafter, hpublished, -⟩ := due_published_after_last_touch {}
    Scene.guideTemplates [draftOpening, headingChange] [0, 1, 0, 1, 0, 1, 0, 1, 0, 1] "a.md" []
    hdone (.inl (by decide +kernel)) hdue
  exact ⟨hdone, hdue, before, i, after, hsplit, hafter, hpublished⟩

theorem not_showsDue {registry : Registry} {processes : List Process} {schedule : List Nat}
    (uri : String) (items others : List Diagnostic)
    (hdone : ((start registry processes).run setting schedule).Done)
    (hattended : Attended processes ((start registry processes).run setting schedule).session uri)
    (hdue : ((start registry processes).run setting schedule).session.due?
      setting uri = some items)
    (hshown : (start registry processes).shown setting schedule uri =
      some others) (hne : others ≠ items) : ¬ ShowsDue setting registry processes schedule := by
  intro h
  have hdueShown := h hdone uri items hattended hdue
  rw [hshown] at hdueShown
  exact hne (Option.some.inj hdueShown)

/-- A check that ends after the heading was corrected, the templates were replaced or the
    document was closed publishes what it found in its copies. A change whose text is kept
    after the document was closed opens the document again, and its diagnostics stay. -/
theorem overlapping_handlers_end_outdated :
    ¬ ShowsDue {} Scene.guideTemplates [draftOpening, headingChange]
      [0, 0, 0, 0, 1, 1, 1, 1, 1, 0] ∧
    ¬ ShowsDue {} Scene.guideTemplates [draftOpening, templatesRelaxed]
      [0, 0, 0, 0, 1, 1, 1, 1, 1, 1, 1, 1, 0] ∧
    ¬ ShowsDue {} Scene.guideTemplates [draftOpening, draftClosing] [0, 0, 0, 0, 1, 1, 0] ∧
    ((start Scene.guideTemplates [draftOpening, draftChange, draftClosing]).run {}
      [0, 0, 0, 0, 0, 2, 2, 1, 1, 1, 1, 1]).Done ∧
    (start Scene.guideTemplates [draftOpening, draftChange, draftClosing]).shown {}
      [0, 0, 0, 0, 0, 2, 2, 1, 1, 1, 1, 1] "a.md" = some [Scene.draftDiagnostic] := by
  refine ⟨?_, ?_, ?_, by decide +kernel, by decide +kernel⟩
  · apply not_showsDue "a.md" [] [Scene.draftDiagnostic]
    · decide +kernel
    · exact .inl (by decide +kernel)
    · decide +kernel
    · decide +kernel
    · exact List.cons_ne_nil _ _
  · apply not_showsDue "a.md" [] [Scene.draftDiagnostic]
    · decide +kernel
    · exact .inl (by decide +kernel)
    · decide +kernel
    · decide +kernel
    · exact List.cons_ne_nil _ _
  · apply not_showsDue "a.md" [] [Scene.draftDiagnostic]
    · decide +kernel
    · exact .inr ⟨draftClosing, by simp, _, List.mem_singleton_self _, rfl⟩
    · decide +kernel
    · decide +kernel
    · exact List.cons_ne_nil _ _

end World

end Rubric.Editor
