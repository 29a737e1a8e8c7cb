/-
  Rubric.Proofs.Editor.Process

  The handlers of a server as processes that take turns.

  Handlers run at the same time and share the documents and the templates. What a
  process does from one point where it waits to the next is an action: it keeps a
  text, copies a document, copies the rules, checks its copies, or says something.
  The actions that follow from an action are done next, before what else the process
  has to do. Processes take turns in any order. A process that is alone does what a
  session does when it handles the events one at a time.
-/
import Rubric.Proofs.Editor.Shown

namespace Rubric.Editor

/-! ## Actions -/

/-- What a process does without waiting. -/
inductive Action where
  | store (uri text : String)
  | remove (uri : String)
  /-- Takes the outcome of loading the templates again. -/
  | install (outcome : Except Failure Registry) (order : Arrangement)
  /-- Lists the open documents, which are then checked in an order. -/
  | checkAll (order : Arrangement)
  | copyDocument (uri : String)
  | copyRules (uri : String) (d : OpenDocument)
  /-- Checks a copy of a document against a copy of the rules. -/
  | judge (uri : String) (d : OpenDocument) (table : List (String × Rule))
  | say (message : Message)

/-- What comes of an action: the session, what is said, and what its process does next. -/
structure Progress where
  session : Session
  said : List Message := []
  next : List Action := []

/-- Does an action. A check that never ends stays what its process does next. -/
def Action.perform (setting : Setting) (s : Session) : Action → Progress
  | .store uri text => { session := s.store uri text, next := [.copyDocument uri] }
  | .remove uri => { session := s.forget uri, next := [.say (.diagnostics uri [])] }
  | .install outcome order =>
    let (s, message, isNew) := s.reloaded outcome
    { session := s, next := .say message :: (if isNew then [.checkAll order] else []) }
  | .checkAll order => { session := s, next := (order.arrange s.uris).map .copyDocument }
  | .copyDocument uri =>
    { session := s, next := ((s.document? uri).map (.copyRules uri)).toList }
  | .copyRules uri d =>
    match s.rules setting with
    | .none => { session := s }
    | .missing name =>
      { session := s, next := [.say (.log .warning s!"Template \"{name}\" not found")] }
    | .table table => { session := s, next := [.judge uri d table] }
  | .judge uri d table =>
    match Session.verdict? setting uri d table with
    | none => { session := s, next := [.judge uri d table] }
    | some message => { session := s, next := [.say message] }
  | .say message => { session := s, said := [message] }

/-! ## Processes -/

/-- An event for a process, with the order in which the open documents are taken up if
    they are all checked. -/
structure Job where
  event : Event
  order : Arrangement := .listed

/-- The handler of an event is a process with one job. The watch of the template file is
    one that takes up the changes of the file one after another. -/
abbrev Process := List Job

/-- How a process begins with a job. -/
def Job.actions (job : Job) : List Action :=
  match job.event with
  | .opened uri text => [.store uri text]
  | .changed uri texts => (texts.getLast?.map (.store uri)).toList
  | .saved uri (some text) => [.store uri text]
  | .saved uri none => [.copyDocument uri]
  | .closed uri => [.remove uri]
  | .templatesChanged path outcome =>
    [.say (.log .info s!"Template file changed: {path}"), .install outcome job.order]

/-- What a process has to do. -/
def Process.actions (process : Process) : List Action :=
  process.flatMap Job.actions

/-- Processes that share a session. -/
structure World where
  session : Session
  /-- What each process still has to do. -/
  tasks : List (List Action)

namespace World

/-- Processes that have not begun. -/
def ofProcesses (s : Session) (processes : List Process) : World :=
  ⟨s, processes.map Process.actions⟩

/-- A process does its next action. -/
def step (setting : Setting) (w : World) (i : Nat) : World :=
  match w.tasks[i]? with
  | some (action :: rest) =>
    let progress := action.perform setting w.session
    ⟨progress.session, w.tasks.set i (progress.next ++ rest)⟩
  | _ => w

/-- What a process says with its next action. -/
def saidBy (setting : Setting) (w : World) (i : Nat) : List Message :=
  match w.tasks[i]? with
  | some (action :: _) => (action.perform setting w.session).said
  | _ => []

/-- Processes do their next actions in an order. -/
def run (setting : Setting) (w : World) (schedule : List Nat) : World :=
  schedule.foldl (step setting) w

/-- What is said in a run, and by which process. -/
def heard (setting : Setting) : World → List Nat → List (Nat × Message)
  | _, [] => []
  | w, i :: rest => (w.saidBy setting i).map (i, ·) ++ heard setting (w.step setting i) rest

/-- What is shown of a document after a run. -/
def shown (setting : Setting) (w : World) (schedule : List Nat) : Shown :=
  Shown.hearAll (fun _ => none) ((w.heard setting schedule).map Prod.snd)

/-- All processes have finished. -/
def Done (w : World) : Prop :=
  ∀ task ∈ w.tasks, task.isEmpty

instance (w : World) : Decidable w.Done :=
  inferInstanceAs (Decidable (∀ task ∈ w.tasks, task.isEmpty))

variable {setting : Setting} {w : World} {i : Nat} {action : Action} {rest : List Action}

theorem step_of_next (setting : Setting) (h : w.tasks[i]? = some (action :: rest)) :
    w.step setting i =
      ⟨(action.perform setting w.session).session,
        w.tasks.set i ((action.perform setting w.session).next ++ rest)⟩ := by
  rw [step, h]

theorem saidBy_of_next (h : w.tasks[i]? = some (action :: rest)) :
    w.saidBy setting i = (action.perform setting w.session).said := by
  rw [saidBy, h]

/-- A process has a next action, or its turn changes nothing. -/
theorem exists_next_or_idle (setting : Setting) (w : World) (i : Nat) :
    (∃ action rest, w.tasks[i]? = some (action :: rest)) ∨
      w.step setting i = w ∧ w.saidBy setting i = [] := by
  rw [step, saidBy]
  match w.tasks[i]? with
  | some (action :: rest) => exact .inl ⟨action, rest, rfl⟩
  | some [] => exact .inr ⟨rfl, rfl⟩
  | none => exact .inr ⟨rfl, rfl⟩

theorem run_cons (setting : Setting) (w : World) (i : Nat) (schedule : List Nat) :
    w.run setting (i :: schedule) = (w.step setting i).run setting schedule :=
  rfl

theorem run_append (setting : Setting) (w : World) (first second : List Nat) :
    w.run setting (first ++ second) = (w.run setting first).run setting second :=
  List.foldl_append

theorem heard_append (setting : Setting) (w : World) (first second : List Nat) :
    w.heard setting (first ++ second) =
      w.heard setting first ++ (w.run setting first).heard setting second := by
  induction first generalizing w with
  | nil => rfl
  | cons i first ih => rw [List.cons_append, heard, heard, ih, List.append_assoc]; rfl

end World

/-! ## A process alone -/

/-- What something comes to with all that follows from it: the session, and what is said.
    `none` says that a check never ends. -/
abbrev Outcome := Option (Session × List Message)

/-- One thing after another: the second goes on with the session of the first. -/
def Outcome.followedBy (first : Outcome) (second : Session → Outcome) : Outcome :=
  first.bind fun done => (second done.1).map fun more => (more.1, done.2 ++ more.2)

namespace Outcome

theorem followedBy_assoc (first : Outcome) (second third : Session → Outcome) :
    (first.followedBy second).followedBy third =
      first.followedBy fun s => (second s).followedBy third := by
  cases first with
  | none => rfl
  | some done =>
    cases hsecond : second done.1 with
    | none => simp [followedBy, hsecond]
    | some more => simp [followedBy, hsecond, Function.comp_def]

@[simp]
theorem nothing_followedBy (s : Session) (second : Session → Outcome) :
    followedBy (some (s, [])) second = second s := by
  cases h : second s <;> simp [followedBy, h]

@[simp]
theorem followedBy_nothing (first : Outcome) :
    first.followedBy (fun s => some (s, [])) = first := by
  cases first with
  | none => rfl
  | some done => simp [followedBy]

end Outcome

/-- The session and what is said when jobs are done one at a time. -/
def Session.handleAll (setting : Setting) (s : Session) : List Job → Session × List Message
  | [] => (s, [])
  | job :: rest =>
    let done := s.handle { setting with order := job.order } job.event
    let more := done.1.handleAll setting rest
    (more.1, done.2 ++ more.2)

/-- What checking an open document comes to. -/
def Session.checked (setting : Setting) (s : Session) (uri : String) : Outcome :=
  if s.stalls setting uri then none else some (s, s.publish setting uri)

/-- What checking documents one after another comes to. -/
def Session.checkedAll (setting : Setting) (s : Session) : List String → Outcome
  | [] => some (s, [])
  | uri :: rest => (s.checked setting uri).followedBy fun s => s.checkedAll setting rest

/-- What an action comes to with all that follows from it, if nothing else happens. -/
def Action.outcome (setting : Setting) (s : Session) : Action → Outcome
  | .store uri text => (s.store uri text).checked setting uri
  | .remove uri => some (s.closed uri)
  | .install outcome order =>
    let (s, message, isNew) := s.reloaded outcome
    Outcome.followedBy (some (s, [message])) fun s =>
      if isNew then s.checkedAll setting (order.arrange s.uris) else some (s, [])
  | .checkAll order => s.checkedAll setting (order.arrange s.uris)
  | .copyDocument uri => s.checked setting uri
  | .copyRules uri d =>
    match s.rules setting with
    | .none => some (s, [])
    | .missing name => some (s, [.log .warning s!"Template \"{name}\" not found"])
    | .table table => (Session.verdict? setting uri d table).map fun message => (s, [message])
  | .judge uri d table =>
    (Session.verdict? setting uri d table).map fun message => (s, [message])
  | .say message => some (s, [message])

/-- What actions come to one after another. -/
def Action.outcomes (setting : Setting) : List Action → Session → Outcome
  | [], s => some (s, [])
  | action :: rest, s => (action.outcome setting s).followedBy (outcomes setting rest)

/-- A check that ends leaves the session and says what it publishes. -/
theorem checked_eq_some_iff {setting : Setting} {s : Session} {uri : String}
    {done : Session × List Message} :
    s.checked setting uri = some done ↔
      s.stalls setting uri = false ∧ done = (s, s.publish setting uri) := by
  rw [Session.checked]
  cases s.stalls setting uri <;> simp [eq_comm]

/-- Checks that all end publish one after another. -/
theorem checkedAll_eq_some {setting : Setting} {s : Session} {uris : List String}
    {done : Session × List Message} (h : s.checkedAll setting uris = some done) :
    (∀ uri ∈ uris, s.stalls setting uri = false) ∧
      done = (s, uris.flatMap (s.publish setting)) := by
  induction uris generalizing done with
  | nil => exact ⟨List.forall_mem_nil _, (Option.some.inj h).symm⟩
  | cons uri rest ih =>
    obtain ⟨first, hfirst, hrest⟩ := Option.bind_eq_some_iff.1 h
    obtain ⟨hends, rfl⟩ := checked_eq_some_iff.1 hfirst
    obtain ⟨more, hmore, rfl⟩ := Option.map_eq_some_iff.1 hrest
    obtain ⟨hall, rfl⟩ := ih hmore
    exact ⟨List.forall_mem_cons.2 ⟨hends, hall⟩, rfl⟩

namespace Action

variable {setting : Setting} {s : Session}

theorem outcomes_append (first second : List Action) :
    outcomes setting (first ++ second) s =
      (outcomes setting first s).followedBy (outcomes setting second) := by
  induction first generalizing s with
  | nil => simp [outcomes, Outcome.followedBy]
  | cons action first ih =>
    rw [List.cons_append, outcomes, outcomes, Outcome.followedBy_assoc]
    exact congrArg (Outcome.followedBy _) (funext fun s => ih)

theorem outcomes_singleton (action : Action) :
    outcomes setting [action] s = action.outcome setting s :=
  Outcome.followedBy_nothing _

theorem outcomes_copyDocuments (uris : List String) :
    outcomes setting (uris.map .copyDocument) s = s.checkedAll setting uris := by
  induction uris generalizing s with
  | nil => rfl
  | cons uri rest ih =>
    rw [List.map_cons, outcomes, Session.checkedAll]
    exact congrArg (Outcome.followedBy _) (funext fun s => ih)

/-- Checking an open document comes to what checking its copy does. -/
theorem checked_of_open {uri : String} {d : OpenDocument} (hdocument : s.document? uri = some d) :
    s.checked setting uri = outcome setting s (.copyRules uri d) := by
  cases hrules : s.rules setting with
  | none => simp [Session.checked, Session.stalls, Session.publish, outcome, hdocument, hrules]
  | missing name =>
    simp [Session.checked, Session.stalls, Session.publish, outcome, hdocument, hrules]
  | table table =>
    cases hverdict : Session.verdict? setting uri d table <;>
      simp [Session.checked, Session.stalls, Session.publish, outcome, hdocument, hrules, hverdict]

/-- Doing an action and then what follows from it comes to the same. -/
theorem outcome_eq_perform (action : Action) :
    action.outcome setting s =
      Outcome.followedBy
        (some ((action.perform setting s).session, (action.perform setting s).said))
        (outcomes setting (action.perform setting s).next) := by
  cases action with
  | store uri text =>
    exact ((Outcome.nothing_followedBy _ _).trans (outcomes_singleton (.copyDocument uri))).symm
  | remove uri => rfl
  | install result order =>
    cases result with
    | ok registry =>
      simp [perform, outcome, Session.reloaded, outcomes]
    | error failure => rfl
  | checkAll order =>
    exact ((Outcome.nothing_followedBy _ _).trans (outcomes_copyDocuments _)).symm
  | copyDocument uri =>
    rw [outcome, perform, Outcome.nothing_followedBy]
    cases hdocument : s.document? uri with
    | none => simp [Session.checked, Session.stalls, Session.publish, hdocument, outcomes]
    | some d => exact (checked_of_open hdocument).trans (outcomes_singleton (.copyRules uri d)).symm
  | copyRules uri d =>
    simp only [perform, outcome]
    cases s.rules setting with
    | none => rfl
    | missing name => rfl
    | table table =>
      exact ((Outcome.nothing_followedBy _ _).trans (outcomes_singleton (.judge uri d table))).symm
  | judge uri d table =>
    simp only [perform, outcome]
    cases h : Session.verdict? setting uri d table with
    | none =>
      have hsame : outcomes setting [.judge uri d table] s = _ := outcomes_singleton _
      rw [outcome, h] at hsame
      exact ((Outcome.nothing_followedBy _ _).trans hsame).symm
    | some message => rfl
  | say message => rfl

end Action

/-- A document that is brought comes to what opening it does. -/
theorem outcomes_store {setting : Setting} {s : Session} {uri text : String}
    {done : Session × List Message}
    (h : Action.outcomes setting [.store uri text] s = some done) :
    done = s.opened setting uri text := by
  rw [Action.outcomes_singleton] at h
  exact (checked_eq_some_iff.1 h).2

/-- Templates that are taken up come to the checks of the open documents. -/
theorem outcomes_installed {setting : Setting} {s : Session} {path : String} {registry : Registry}
    {order : Arrangement} {done : Session × List Message}
    (h : Action.outcomes setting
      (Job.actions ⟨.templatesChanged path (.ok registry), order⟩) s = some done) :
    ∃ more,
      ({ s with registry := registry } : Session).checkedAll setting
        (order.arrange ({ s with registry := registry } : Session).uris) = some more ∧
      done = (more.1, .log .info s!"Template file changed: {path}"
        :: .log .info s!"Reloaded {registry.size} template(s)" :: more.2) := by
  rw [Job.actions, Action.outcomes] at h
  obtain ⟨first, hfirst, hrest⟩ := Option.bind_eq_some_iff.1 h
  obtain rfl := Option.some.inj hfirst
  obtain ⟨checks, hchecks, rfl⟩ := Option.map_eq_some_iff.1 hrest
  rw [Action.outcomes_singleton] at hchecks
  obtain ⟨more, hmore, rfl⟩ := Option.map_eq_some_iff.1 hchecks
  exact ⟨more, hmore, rfl⟩

/-- A job that comes to something comes to what handling its event does. -/
theorem Job.outcomes_actions {setting : Setting} {s : Session} (hfree : s.held = false)
    {job : Job} {done : Session × List Message}
    (h : Action.outcomes setting job.actions s = some done) :
    done = s.handle { setting with order := job.order } job.event ∧ done.1.held = false := by
  obtain ⟨event, order⟩ := job
  cases event with
  | opened uri text =>
    obtain rfl := outcomes_store h
    exact ⟨rfl, hfree⟩
  | changed uri texts =>
    simp only [Job.actions, Session.handle, Session.changed] at h ⊢
    cases htexts : texts.getLast? with
    | none =>
      rw [htexts] at h
      obtain rfl := Option.some.inj h
      exact ⟨rfl, hfree⟩
    | some text =>
      rw [htexts] at h
      obtain rfl := outcomes_store h
      exact ⟨rfl, hfree⟩
  | saved uri text =>
    cases text with
    | none =>
      rw [Job.actions, Action.outcomes_singleton] at h
      obtain ⟨-, rfl⟩ := checked_eq_some_iff.1 h
      exact ⟨rfl, hfree⟩
    | some text =>
      obtain rfl := outcomes_store h
      exact ⟨rfl, hfree⟩
  | closed uri =>
    obtain rfl := Option.some.inj h
    exact ⟨rfl, hfree⟩
  | templatesChanged path outcome =>
    rw [Session.handle]
    cases outcome with
    | ok registry =>
      obtain ⟨more, hmore, rfl⟩ := outcomes_installed h
      obtain ⟨hends, rfl⟩ := checkedAll_eq_some hmore
      obtain ⟨after, hregistry, hdocuments, hheld, hafter⟩ :=
        Scene.templatesChanged_ok { setting with order := order } hfree path registry
      -- All checks end, so the session is not held.
      have hall : ({ s with registry := registry } : Session).uris.any
          (({ s with registry := registry } : Session).stalls setting) = false := by
        rw [List.any_eq_false]
        exact fun uri huri => Bool.not_eq_true _ ▸ hends uri ((order.mem_arrange _).2 huri)
      obtain rfl : after = { s with registry := registry } := by
        obtain ⟨_, _, held⟩ := after
        cases hregistry
        cases hdocuments
        obtain rfl : held = s.held := hheld.trans (hall.trans hfree.symm)
        rfl
      refine ⟨?_, hfree⟩
      rw [hafter, Session.publishAll, @reached_eq_self { setting with order := order } _ _ hends]
      rfl
    | error failure =>
      rw [Scene.templatesChanged_error _ hfree]
      obtain rfl := Option.some.inj h
      exact ⟨rfl, hfree⟩

/-- Jobs that come to something come to what doing them one at a time does. -/
theorem Process.outcomes_actions {setting : Setting} {s : Session} (hfree : s.held = false)
    {process : Process} {done : Session × List Message}
    (h : Action.outcomes setting process.actions s = some done) :
    done = s.handleAll setting process := by
  induction process generalizing s done with
  | nil => exact (Option.some.inj h).symm
  | cons job rest ih =>
    rw [Process.actions, List.flatMap_cons, Action.outcomes_append] at h
    obtain ⟨first, hfirst, hrest⟩ := Option.bind_eq_some_iff.1 h
    obtain ⟨more, hmore, rfl⟩ := Option.map_eq_some_iff.1 hrest
    obtain ⟨rfl, hheld⟩ := Job.outcomes_actions hfree hfirst
    rw [Session.handleAll, ← ih hheld hmore]

namespace World

/-- While a process is alone, what it has said and what it comes to from here are together
    what it comes to from the start. -/
theorem outcomes_run (setting : Setting) {w : World} {task : List Action} (schedule : List Nat)
    (h : w.tasks = [task]) :
    ∃ left, (w.run setting schedule).tasks = [left] ∧
      Action.outcomes setting task w.session =
        Outcome.followedBy
          (some ((w.run setting schedule).session, (w.heard setting schedule).map Prod.snd))
          (Action.outcomes setting left) := by
  induction schedule generalizing w task with
  | nil => exact ⟨task, h, (Outcome.nothing_followedBy _ _).symm⟩
  | cons i schedule ih =>
    obtain ⟨action, rest, hnext⟩ | ⟨hstep, hsaid⟩ := exists_next_or_idle setting w i
    · obtain rfl : i = 0 := by
        have hlt := (List.getElem?_eq_some_iff.1 hnext).1
        rw [h] at hlt
        simpa using hlt
      obtain rfl : task = action :: rest := by
        simpa [h] using hnext
      have hstep := step_of_next setting hnext
      have htasks : (w.step setting 0).tasks =
          [(action.perform setting w.session).next ++ rest] := by
        rw [hstep, h]
        rfl
      obtain ⟨left, hleft, houtcomes⟩ := ih htasks
      refine ⟨left, hleft, ?_⟩
      have hfirst : Action.outcomes setting (action :: rest) w.session =
          Outcome.followedBy (some ((w.step setting 0).session, w.saidBy setting 0))
            (Action.outcomes setting ((action.perform setting w.session).next ++ rest)) := by
        rw [hstep, saidBy_of_next hnext, Action.outcomes, Action.outcome_eq_perform,
          Outcome.followedBy_assoc]
        exact congrArg (Outcome.followedBy _)
          (funext fun s => (Action.outcomes_append _ rest).symm)
      rw [hfirst, Outcome.followedBy, Option.bind_some, houtcomes, run_cons, heard,
        List.map_append, List.map_map]
      simp [Outcome.followedBy, Function.comp_def]
    · rw [run_cons, heard, hstep, hsaid]
      exact ih h

/-- A process that is alone and finishes leaves the session and has said what doing its jobs
    one at a time does. -/
theorem run_alone (setting : Setting) {s : Session} (hfree : s.held = false) (process : Process)
    (schedule : List Nat) (hdone : ((ofProcesses s [process]).run setting schedule).Done) :
    (((ofProcesses s [process]).run setting schedule).session,
        ((ofProcesses s [process]).heard setting schedule).map Prod.snd) =
      s.handleAll setting process := by
  obtain ⟨left, hleft, houtcomes⟩ :=
    outcomes_run setting (w := ofProcesses s [process]) schedule rfl
  obtain rfl : left = [] := by
    have hempty := hdone left (by rw [hleft]; exact List.mem_singleton_self _)
    exact List.isEmpty_iff.1 hempty
  exact Process.outcomes_actions hfree (houtcomes.trans (Outcome.followedBy_nothing _))

end World

end Rubric.Editor
