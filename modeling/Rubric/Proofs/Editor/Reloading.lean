/-
  Rubric.Proofs.Editor.Reloading

  What a reload of the templates has to wait for.

  Changes of the template file are queued. One process takes them up one after
  another: it installs the templates of a change, checks all open documents by them,
  and looks at the queue again when that is done. The handlers of an editor's notices
  run beside it; however long their checks take, it need not wait for them. But the
  checks that follow a reload are its own. While a call of one of these is not
  answered, it takes up no further change.
-/
import Rubric.Proofs.Conformance.Halting
import Rubric.Proofs.Conformance.Instructed
import Rubric.Proofs.Editor.Interleaving
import Rubric.Proofs.Editor.Kept

namespace Rubric.Editor

/-! ## A world with a queue -/

/-- A change of the template file: what loading the templates again gives, and the order
    in which the open documents are then checked. -/
structure Change where
  path : String
  outcome : Except Failure Registry
  order : Arrangement := .listed

/-- The job of taking up a change. -/
def Change.job (change : Change) : Job :=
  ⟨.templatesChanged change.path change.outcome, change.order⟩

/-- Processes that share a session, and the changes that are not taken up yet. The first
    process takes them up; the others handle notices. -/
structure Watched where
  world : World
  queue : List Change := []

/-- What can happen next. -/
inductive Move where
  /-- The template file changes. -/
  | change (change : Change)
  /-- The editor tells something, and a handler begins with it. -/
  | tell (notice : Notice)
  /-- The first process takes up the first change, if it has nothing else to do. -/
  | receive
  /-- A process does its next action. -/
  | advance (i : Nat)

/-- How the handler of a notice begins. -/
def Notice.actions (notice : Notice) : List Action :=
  match notice.event? with
  | some event => Job.actions { event }
  | none => []

/-- An action consults the checker: it is a check that makes a call. -/
def Action.consults (setting : Setting) : Action → Bool
  | .judge _ d table => !(checkDocument setting.checker table d.outline).calls.isEmpty
  | _ => false

namespace Watched

/-- The changes and the processes after a move. -/
def move (setting : Setting) (w : Watched) : Move → Watched
  | .change change => { w with queue := w.queue ++ [change] }
  | .tell notice => { w with world := { w.world with tasks := w.world.tasks ++ [notice.actions] } }
  | .receive =>
    match w.world.tasks, w.queue with
    | [] :: handlers, change :: rest =>
      ⟨{ w.world with tasks := change.job.actions :: handlers }, rest⟩
    | _, _ => w
  | .advance i => { w with world := w.world.step setting i }

/-- The changes and the processes after moves. -/
def run (setting : Setting) (w : Watched) (moves : List Move) : Watched :=
  moves.foldl (move setting) w

/-- A server with some templates, before anything has happened. -/
def start (registry : Registry) : Watched :=
  ⟨⟨{ registry := registry }, [[]]⟩, []⟩

/-- Some moves lead there from the start. -/
def Reachable (setting : Setting) (registry : Registry) (w : Watched) : Prop :=
  ∃ moves, (start registry).run setting moves = w

/-- A process waits for the checker: its next action consults it. -/
def waits (setting : Setting) (w : Watched) (i : Nat) : Bool :=
  match w.world.tasks[i]? with
  | some (action :: _) => action.consults setting
  | _ => false

end Watched

/-- A move has the calls answered that a process waits for. -/
def Move.answers (setting : Setting) (w : Watched) : Move → Bool
  | .advance i => w.waits setting i
  | _ => false

/-- A move is one of the process that takes up the changes. -/
def Move.isReload : Move → Bool
  | .receive => true
  | .advance i => i == 0
  | _ => false

namespace Watched

/-- No move has calls answered. -/
def unanswered (setting : Setting) : Watched → List Move → Bool
  | _, [] => true
  | w, m :: rest => !m.answers setting w && unanswered setting (w.move setting m) rest

/-- The process that takes up the changes gets there by itself, without an answer. -/
def ReloadsTo (setting : Setting) (w w' : Watched) : Prop :=
  ∃ moves, moves.all Move.isReload ∧ w.unanswered setting moves ∧ w.run setting moves = w'

variable {setting : Setting} {w : Watched}

theorem run_append (setting : Setting) (w : Watched) (first second : List Move) :
    w.run setting (first ++ second) = (w.run setting first).run setting second :=
  List.foldl_append

theorem unanswered_append {first second : List Move} :
    w.unanswered setting (first ++ second) =
      (w.unanswered setting first && (w.run setting first).unanswered setting second) := by
  induction first generalizing w with
  | nil => rfl
  | cons m first ih => rw [List.cons_append, unanswered, unanswered, ih, Bool.and_assoc]; rfl

theorem ReloadsTo.refl (setting : Setting) (w : Watched) : w.ReloadsTo setting w :=
  ⟨[], rfl, rfl, rfl⟩

theorem ReloadsTo.trans {w' w'' : Watched} (h : w.ReloadsTo setting w')
    (h' : w'.ReloadsTo setting w'') : w.ReloadsTo setting w'' := by
  obtain ⟨first, hfirst, hfree, rfl⟩ := h
  obtain ⟨second, hsecond, hfree', rfl⟩ := h'
  refine ⟨first ++ second, ?_, ?_, run_append setting w first second⟩
  · rw [List.all_append, hfirst, hsecond]
    rfl
  · rw [unanswered_append, hfree, hfree']
    rfl

/-- An action of the process that does not consult the checker needs no answer. -/
theorem reloadsTo_advance {action : Action} {rest : List Action}
    (h : w.world.tasks[0]? = some (action :: rest)) (hfree : action.consults setting = false) :
    w.ReloadsTo setting { w with world := w.world.step setting 0 } := by
  refine ⟨[.advance 0], rfl, ?_, rfl⟩
  simp [unanswered, Move.answers, waits, h, hfree]

/-! ## Getting actions done -/

/-- The process that takes up the changes gets some actions done by itself and without an
    answer, unless it comes to wait for the checker. -/
def GetsDone (setting : Setting) (actions : List Action) : Prop :=
  ∀ (w : Watched) rest, w.world.tasks[0]? = some (actions ++ rest) →
    ∃ w', w.ReloadsTo setting w' ∧ w'.queue = w.queue ∧
      (w'.world.tasks[0]? = some rest ∨ w'.waits setting 0)

theorem getsDone_nil (setting : Setting) : GetsDone setting [] :=
  fun w _ h => ⟨w, .refl setting w, rfl, .inl h⟩

theorem GetsDone.append {first second : List Action} (hfirst : GetsDone setting first)
    (hsecond : GetsDone setting second) : GetsDone setting (first ++ second) := by
  intro w rest h
  rw [List.append_assoc] at h
  obtain ⟨w', hreloads, hqueue, hdone | hwaits⟩ := hfirst w (second ++ rest) h
  · obtain ⟨w'', hreloads', hqueue', hend⟩ := hsecond w' rest hdone
    exact ⟨w'', hreloads.trans hreloads', hqueue'.trans hqueue, hend⟩
  · exact ⟨w', hreloads, hqueue, .inr hwaits⟩

/-- All of some actions get done if each of them does. -/
theorem getsDone_of_forall {actions : List Action}
    (h : ∀ action ∈ actions, GetsDone setting [action]) : GetsDone setting actions := by
  induction actions with
  | nil => exact getsDone_nil setting
  | cons action rest ih =>
    rw [List.forall_mem_cons] at h
    exact h.1.append (ih h.2)

/-- An action gets done if what follows from it does, unless it consults the checker. -/
theorem getsDone_of_next {action : Action}
    (hnext : action.consults setting = false →
      ∀ s, GetsDone setting (action.perform setting s).next) :
    GetsDone setting [action] := by
  intro w rest h
  cases hfree : action.consults setting with
  | true =>
    refine ⟨w, .refl setting w, rfl, .inr ?_⟩
    rw [waits, h]
    exact hfree
  | false =>
    have hstep := reloadsTo_advance h hfree
    obtain ⟨w', hreloads, hqueue, hend⟩ := hnext hfree w.world.session
      { w with world := w.world.step setting 0 } rest (World.tasks_step_self setting h)
    exact ⟨w', hstep.trans hreloads, hqueue, hend⟩

theorem getsDone_say (message : Message) : GetsDone setting [.say message] :=
  getsDone_of_next fun _ _ => getsDone_nil setting

/-- A check that makes no call comes to an end. -/
theorem exists_verdict_of_not_consults {uri : String} {d : OpenDocument}
    {table : List (String × Rule)} (h : (Action.judge uri d table).consults setting = false) :
    ∃ message, Session.verdict? setting uri d table = some message := by
  have hcalls : (checkDocument setting.checker table d.outline).calls = [] := by
    simpa [Action.consults] using h
  rw [Session.verdict?, checkWithin, Run.within]
  obtain ⟨-, ⟨found, hfound⟩ | ⟨heading, line, hmalformed⟩⟩ | ⟨before, query, hqueries, -⟩ :=
    checkDocument_cases setting.checker table d.outline
  · rw [hfound]
    exact ⟨_, rfl⟩
  · rw [hmalformed]
    exact ⟨_, rfl⟩
  · rw [checkDocument_calls, hqueries] at hcalls
    simp at hcalls

theorem getsDone_judge (uri : String) (d : OpenDocument) (table : List (String × Rule)) :
    GetsDone setting [.judge uri d table] := by
  refine getsDone_of_next fun hfree s => ?_
  obtain ⟨message, hmessage⟩ := exists_verdict_of_not_consults hfree
  rw [Action.perform, hmessage]
  exact getsDone_say message

theorem getsDone_copyRules (uri : String) (d : OpenDocument) :
    GetsDone setting [.copyRules uri d] := by
  refine getsDone_of_next fun _ s => ?_
  rw [Action.perform]
  cases s.rules setting with
  | none => exact getsDone_nil setting
  | missing name => exact getsDone_say _
  | table table => exact getsDone_judge uri d table

theorem getsDone_copyDocument (uri : String) : GetsDone setting [.copyDocument uri] := by
  refine getsDone_of_next fun _ s => ?_
  rw [Action.perform]
  cases s.document? uri with
  | none => exact getsDone_nil setting
  | some d => exact getsDone_copyRules uri d

theorem getsDone_checkAll (order : Arrangement) : GetsDone setting [.checkAll order] := by
  refine getsDone_of_next fun _ s => getsDone_of_forall fun action haction => ?_
  obtain ⟨uri, -, rfl⟩ := List.mem_map.1 haction
  exact getsDone_copyDocument uri

theorem getsDone_install (outcome : Except Failure Registry) (order : Arrangement) :
    GetsDone setting [.install outcome order] := by
  refine getsDone_of_next fun _ s => ?_
  cases outcome with
  | ok registry => exact (getsDone_say _).append (getsDone_checkAll order)
  | error failure => exact getsDone_say _

/-- Whatever the process has to do gets done, unless it comes to wait for the checker. -/
theorem getsDone (setting : Setting) (actions : List Action) : GetsDone setting actions := by
  refine getsDone_of_forall fun action _ => ?_
  cases action with
  | store uri text => exact getsDone_of_next fun _ _ => getsDone_copyDocument uri
  | remove uri => exact getsDone_of_next fun _ _ => getsDone_say _
  | install outcome order => exact getsDone_install outcome order
  | checkAll order => exact getsDone_checkAll order
  | copyDocument uri => exact getsDone_copyDocument uri
  | copyRules uri d => exact getsDone_copyRules uri d
  | judge uri d table => exact getsDone_judge uri d table
  | say message => exact getsDone_say message

/-- An idle process receives the first change. -/
theorem move_receive {handlers : List (List Action)} (htasks : w.world.tasks = [] :: handlers)
    {change : Change} {rest : List Change} (hqueue : w.queue = change :: rest) :
    w.move setting .receive =
      ⟨⟨w.world.session, change.job.actions :: handlers⟩, rest⟩ := by
  rw [move, htasks, hqueue]

theorem reloadsTo_receive (setting : Setting) (w : Watched) :
    w.ReloadsTo setting (w.move setting .receive) :=
  ⟨[.receive], rfl, rfl, rfl⟩

/-- An idle process takes up the first change without waiting for anything. -/
theorem takes_up_of_idle (hidle : w.world.tasks[0]? = some []) {change : Change}
    {rest : List Change} (hqueue : w.queue = change :: rest) :
    ∃ w', w.ReloadsTo setting w' ∧ w'.queue = rest ∧
      ∀ registry, change.outcome = .ok registry → w'.world.session.registry = registry := by
  obtain ⟨handlers, htasks⟩ : ∃ handlers, w.world.tasks = [] :: handlers := by
    cases htasks : w.world.tasks with
    | nil => simp [htasks] at hidle
    | cons first handlers =>
      obtain rfl : first = [] := by simpa [htasks] using hidle
      exact ⟨handlers, rfl⟩
  have hreceived := reloadsTo_receive setting w
  rw [move_receive htasks hqueue] at hreceived
  -- The job is announced and its templates are installed; none of both consults the checker.
  have hannounced := hreceived.trans (reloadsTo_advance rfl rfl)
  have hinstalled := hannounced.trans (reloadsTo_advance rfl rfl)
  refine ⟨_, hinstalled, rfl, fun registry houtcome => ?_⟩
  simp [World.step, Change.job, Job.actions, Action.perform, Session.reloaded, houtcome]

/-- The process takes up the next change by itself, unless it comes to wait first. -/
theorem takes_up_or_waits {task : List Action} (htask : w.world.tasks[0]? = some task)
    {change : Change} {rest : List Change} (hqueue : w.queue = change :: rest) :
    ∃ w', w.ReloadsTo setting w' ∧
      (w'.queue = rest ∧
          (∀ registry, change.outcome = .ok registry → w'.world.session.registry = registry) ∨
        w'.queue = w.queue ∧ w'.waits setting 0) := by
  rw [← List.append_nil task] at htask
  obtain ⟨idle, hidle, hsame, hempty | hwaits⟩ := getsDone setting task w [] htask
  · obtain ⟨w', htaken, hdone⟩ := takes_up_of_idle hempty (hsame.trans hqueue)
    exact ⟨w', hidle.trans htaken, .inl hdone⟩
  · exact ⟨idle, hidle, .inr ⟨hsame, hwaits⟩⟩

end Watched

/-! ## Waiting for an answer -/

/-- An action leaves the templates as they are. -/
def Action.LeavesTemplates : Action → Prop
  | .install _ _ => False
  | _ => True

theorem Action.LeavesTemplates.perform {setting : Setting} {s : Session} {action : Action}
    (h : action.LeavesTemplates) :
    (action.perform setting s).session.registry = s.registry ∧
      ∀ following ∈ (action.perform setting s).next, following.LeavesTemplates := by
  cases action with
  | store uri text => exact ⟨rfl, List.forall_mem_singleton.2 trivial⟩
  | remove uri => exact ⟨rfl, List.forall_mem_singleton.2 trivial⟩
  | install outcome order => exact h.elim
  | checkAll order =>
    refine ⟨rfl, fun following hfollowing => ?_⟩
    obtain ⟨uri, -, rfl⟩ := List.mem_map.1 hfollowing
    trivial
  | copyDocument uri =>
    refine ⟨rfl, fun following hfollowing => ?_⟩
    simp only [Action.perform, Option.mem_toList, Option.map_eq_some_iff] at hfollowing
    obtain ⟨d, -, rfl⟩ := hfollowing
    trivial
  | copyRules uri d =>
    rw [Action.perform]
    cases s.rules setting with
    | none => exact ⟨rfl, List.forall_mem_nil _⟩
    | missing name => exact ⟨rfl, List.forall_mem_singleton.2 trivial⟩
    | table table => exact ⟨rfl, List.forall_mem_singleton.2 trivial⟩
  | judge uri d table =>
    rw [Action.perform]
    cases Session.verdict? setting uri d table with
    | none => exact ⟨rfl, List.forall_mem_singleton.2 trivial⟩
    | some message => exact ⟨rfl, List.forall_mem_singleton.2 trivial⟩
  | say message => exact ⟨rfl, List.forall_mem_nil _⟩

/-- The handlers of notices do not install templates. -/
theorem Notice.actions_leaveTemplates (notice : Notice) :
    ∀ action ∈ notice.actions, action.LeavesTemplates := by
  cases notice with
  | changed uri texts =>
    intro action haction
    obtain ⟨text, -, rfl⟩ := Option.map_eq_some_iff.1 (Option.mem_toList.1 haction)
    trivial
  | saved uri text => cases text <;> exact List.forall_mem_singleton.2 trivial
  | initialized => exact List.forall_mem_nil _
  | exit => exact List.forall_mem_nil _
  | _ => exact List.forall_mem_singleton.2 trivial

namespace Watched

variable {setting : Setting} {w : Watched}

/-- There is a process that takes up the changes, and only it installs templates. -/
structure IsWatched (w : Watched) : Prop where
  watch : ∃ task, w.world.tasks[0]? = some task
  handlers : ∀ i task, w.world.tasks[i + 1]? = some task →
    ∀ action ∈ task, action.LeavesTemplates

theorem tasks_tell (setting : Setting) {i : Nat} (hi : i < w.world.tasks.length)
    (notice : Notice) :
    (w.move setting (.tell notice)).world.tasks[i]? = w.world.tasks[i]? :=
  List.getElem?_append_left hi

theorem IsWatched.pos_length (h : w.IsWatched) : 0 < w.world.tasks.length := by
  obtain ⟨task, htask⟩ := h.watch
  exact (List.getElem?_eq_some_iff.1 htask).1

theorem move_isWatched (h : w.IsWatched) (m : Move) : (w.move setting m).IsWatched := by
  cases m with
  | change change => exact ⟨h.watch, h.handlers⟩
  | tell notice =>
    refine ⟨?_, fun i task htask => ?_⟩
    · rw [tasks_tell setting h.pos_length]
      exact h.watch
    · by_cases hi : i + 1 < w.world.tasks.length
      · rw [tasks_tell setting hi] at htask
        exact h.handlers i task htask
      · have hnew : [notice.actions][i + 1 - w.world.tasks.length]? = some task := by
          rwa [← List.getElem?_append_right (Nat.le_of_not_lt hi)]
        obtain rfl := List.mem_singleton.1 (List.mem_of_getElem? hnew)
        exact notice.actions_leaveTemplates
  | receive =>
    rw [move]
    split
    next handlers change rest htasks hqueue =>
      refine ⟨⟨_, rfl⟩, fun i task htask => h.handlers i task ?_⟩
      rw [htasks]
      exact htask
    next => exact h
  | advance i =>
    obtain ⟨action, rest, hnext⟩ | ⟨hidle, -⟩ := World.exists_next_or_idle setting w.world i
    · have hself := World.tasks_step_self setting hnext
      refine ⟨?_, fun j task htask => ?_⟩
      · by_cases hi : i = 0
        · subst hi
          exact ⟨_, hself⟩
        · obtain ⟨task, htask⟩ := h.watch
          exact ⟨task, (World.tasks_step_of_ne setting hi).trans htask⟩
      · by_cases hi : i = j + 1
        · subst hi
          obtain rfl := Option.some.inj (hself.symm.trans htask)
          have hheld := List.forall_mem_cons.1 (h.handlers j _ hnext)
          exact List.forall_mem_append.2 ⟨hheld.1.perform.2, hheld.2⟩
        · exact h.handlers j task ((World.tasks_step_of_ne setting hi).symm.trans htask)
    · rw [move, hidle]
      exact h

theorem Reachable.isWatched {registry : Registry} (h : w.Reachable setting registry) :
    w.IsWatched := by
  obtain ⟨moves, rfl⟩ := h
  induction moves using List.reverseRecOn with
  | nil => exact ⟨⟨[], rfl⟩, fun i task htask => by simp [start, run] at htask⟩
  | append_singleton moves m ih =>
    rw [run_append]
    exact move_isWatched ih m

theorem waits_congr {w' : Watched} {i : Nat} (h : w'.world.tasks[i]? = w.world.tasks[i]?) :
    w'.waits setting i = w.waits setting i := by
  rw [waits, waits, h]

/-- While the process waits, no move but an answer to it changes what it waits for; no change
    is taken up and the templates stay. -/
theorem move_of_waits (h : w.IsWatched) (hwaits : w.waits setting 0) {m : Move}
    (hunanswered : m.answers setting w = false) :
    (w.move setting m).waits setting 0 ∧ w.queue <+: (w.move setting m).queue ∧
      (w.move setting m).world.session.registry = w.world.session.registry := by
  cases m with
  | change change => exact ⟨hwaits, List.prefix_append _ _, rfl⟩
  | tell notice =>
    rw [waits_congr (tasks_tell setting h.pos_length notice)]
    exact ⟨hwaits, List.prefix_rfl, rfl⟩
  | receive =>
    rw [move]
    split
    next handlers change rest htasks hqueue => simp [waits, htasks] at hwaits
    next => exact ⟨hwaits, List.prefix_rfl, rfl⟩
  | advance i =>
    have hi : i ≠ 0 := by
      rintro rfl
      rw [Move.answers, hwaits] at hunanswered
      cases hunanswered
    have hsame : (w.move setting (.advance i)).waits setting 0 = w.waits setting 0 :=
      waits_congr (World.tasks_step_of_ne setting hi)
    refine ⟨hsame.trans hwaits, List.prefix_rfl, ?_⟩
    obtain ⟨action, rest, hnext⟩ | ⟨hidle, -⟩ := World.exists_next_or_idle setting w.world i
    · obtain ⟨j, rfl⟩ := Nat.exists_eq_succ_of_ne_zero hi
      have hheld := h.handlers j _ hnext action List.mem_cons_self
      rw [move, World.step_of_next setting hnext]
      exact hheld.perform.1
    · rw [move, hidle]

/-- Without an answer the process goes on waiting, whatever happens. -/
theorem run_of_waits (h : w.IsWatched) (hwaits : w.waits setting 0) {moves : List Move}
    (hunanswered : w.unanswered setting moves) :
    (w.run setting moves).waits setting 0 ∧ w.queue <+: (w.run setting moves).queue ∧
      (w.run setting moves).world.session.registry = w.world.session.registry := by
  induction moves generalizing w with
  | nil => exact ⟨hwaits, List.prefix_rfl, rfl⟩
  | cons m moves ih =>
    rw [unanswered, Bool.and_eq_true, Bool.not_eq_true'] at hunanswered
    obtain ⟨hstill, hqueue, hregistry⟩ := move_of_waits h hwaits hunanswered.1
    obtain ⟨hstill', hqueue', hregistry'⟩ := ih (move_isWatched h m) hstill hunanswered.2
    exact ⟨hstill', hqueue.trans hqueue', hregistry'.trans hregistry⟩

/-- The process waits only in a check by rules of which some have instructions. -/
theorem anyInstructions_of_waits {i : Nat} (h : w.waits setting i) :
    ∃ uri d table rest, w.world.tasks[i]? = some (.judge uri d table :: rest) ∧
      anyInstructions table = true := by
  unfold waits at h
  split at h
  next action rest htask =>
    cases action with
    | judge uri d table =>
      refine ⟨uri, d, table, rest, htask, ?_⟩
      rw [← Bool.not_eq_false]
      intro hnone
      have htemplate : (Template.mk "" none table).hasInstructions = false := hnone
      obtain ⟨hcalls, -⟩ :=
        Template.checkDocument_of_not_hasInstructions htemplate d.outline setting.checker
      simp [Action.consults, hcalls] at h
    | _ => cases h
  next => cases h

/-! ## Changes that are queued -/

/-- Every queued change can be taken up without an answer of the checker. -/
def NeverHeldUp (setting : Setting) (registry : Registry) : Prop :=
  ∀ w, Reachable setting registry w → ∀ change rest, w.queue = change :: rest →
    ∃ moves, w.unanswered setting moves ∧ (w.run setting moves).queue = rest ∧
      ∀ installed, change.outcome = .ok installed →
        (w.run setting moves).world.session.registry = installed

/-- **What a queued change waits for.** The process that takes up changes takes up the next
    one by itself, however long the calls of handlers are not answered, unless it comes to wait
    for the checker first. It waits only in a check of its own, by rules of which some have
    instructions. While it waits, whatever else happens, no change is taken up and no templates
    are installed. -/
theorem change_waits_only_for_own_checks {registry : Registry} (hw : w.Reachable setting registry)
    {change : Change} {rest : List Change} (hqueue : w.queue = change :: rest) :
    (∃ w', w.ReloadsTo setting w' ∧
      (w'.queue = rest ∧ (∀ installed, change.outcome = .ok installed →
          w'.world.session.registry = installed) ∨
        w'.queue = w.queue ∧ w'.waits setting 0)) ∧
    (w.waits setting 0 →
      (∃ uri d table rest, w.world.tasks[0]? = some (.judge uri d table :: rest) ∧
        anyInstructions table = true) ∧
      ∀ moves, w.unanswered setting moves →
        (w.run setting moves).waits setting 0 ∧ w.queue <+: (w.run setting moves).queue ∧
          (w.run setting moves).world.session.registry = w.world.session.registry) := by
  obtain ⟨task, htask⟩ := hw.isWatched.watch
  exact ⟨takes_up_or_waits htask hqueue, fun hwaits => ⟨anyInstructions_of_waits hwaits,
    fun moves hunanswered => run_of_waits hw.isWatched hwaits hunanswered⟩⟩

/-- A setting whose checker never answers. -/
def stalledSetting : Setting where
  checker := fun _ _ => .stall

/-- Templates without instructions. -/
def plainTemplates : Registry :=
  ⟨[⟨"t", none, [("a", {})]⟩]⟩

/-- The template comes to have an instruction. -/
def instructionAdded : Change where
  path := "t.yaml"
  outcome := .ok ⟨[⟨"t", none, [("a", { instructions := ["Be brief."] })]⟩]⟩

/-- The template has no instruction any more. -/
def instructionRemoved : Change where
  path := "t.yaml"
  outcome := .ok plainTemplates

/-- A document is opened and checked. The instruction is added, and the process that takes up
    changes gets to its check of the document. Then the instruction is removed. -/
def heldUp : Watched :=
  (start plainTemplates).run stalledSetting
    ([.tell (.opened "a.md" "# A\n\nBody.\n")] ++ List.replicate 5 (.advance 1)
      ++ [.change instructionAdded, .receive] ++ List.replicate 6 (.advance 0)
      ++ [.change instructionRemoved])

theorem heldUp_waits : heldUp.waits stalledSetting 0 ∧ heldUp.queue.length = 1 := by
  decide +kernel

/-- Whatever happens without an answer, the change that removes the instruction stays queued. -/
theorem heldUp_stays_queued :
    heldUp.Reachable stalledSetting plainTemplates ∧ ∃ change, heldUp.queue = [change] ∧
      ∀ moves, heldUp.unanswered stalledSetting moves →
        heldUp.queue <+: (heldUp.run stalledSetting moves).queue := by
  have hreachable : heldUp.Reachable stalledSetting plainTemplates := ⟨_, rfl⟩
  obtain ⟨change, hqueue⟩ := List.length_eq_one_iff.1 heldUp_waits.2
  refine ⟨hreachable, change, hqueue, fun moves hunanswered => ?_⟩
  obtain ⟨-, hheld⟩ := change_waits_only_for_own_checks hreachable hqueue
  exact ((hheld heldUp_waits.1).2 moves hunanswered).2.1

/-- A change can be held up by a check that follows the change before it. -/
theorem reload_is_held_up :
    ¬ NeverHeldUp stalledSetting plainTemplates ∧
    ∃ w : Watched, w.Reachable stalledSetting plainTemplates ∧ w.queue ≠ [] ∧
      w.waits stalledSetting 0 := by
  have hreachable : heldUp.Reachable stalledSetting plainTemplates := ⟨_, rfl⟩
  obtain ⟨change, hqueue⟩ := List.length_eq_one_iff.1 heldUp_waits.2
  constructor
  · intro h
    obtain ⟨moves, hunanswered, htaken, -⟩ := h heldUp hreachable change [] hqueue
    obtain ⟨-, hprefix, -⟩ := run_of_waits hreachable.isWatched heldUp_waits.1 hunanswered
    rw [htaken, hqueue] at hprefix
    simp at hprefix
  · exact ⟨heldUp, hreachable, by simp [hqueue], heldUp_waits.1⟩

end Watched

end Rubric.Editor
