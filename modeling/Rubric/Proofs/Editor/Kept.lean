/-
  Rubric.Proofs.Editor.Kept

  What a running server keeps and says, whatever happens to it.

  Events are handled one at a time, and questions are answered in between. A document
  is open as long as it was not closed after its text was brought last, and has that
  text; the templates are those that were loaded last. What an event makes the server
  say about a document is what the text and the templates of that moment give. Each
  occurrence is looked at by itself; what holds after all of them follows by induction
  from the last one backwards.
-/
import Mathlib.Data.List.Induction
import Rubric.Editor.Server
import Rubric.Proofs.Editor.Shown

namespace Rubric.Editor

/-! ## What happens -/

/-- What happens to a running server: it handles an event, or it answers a question. -/
inductive Occurrence where
  | turn (turn : Turn)
  | hover (uri : String) (line : Nat)
  | symbols (uri : String)

namespace Occurrence

/-- The text that an occurrence brings for a document. -/
def text? (uri : String) : Occurrence → Option String
  | .turn ⟨.opened other text, _, _⟩ => if other = uri then some text else none
  | .turn ⟨.changed other texts, _, _⟩ => if other = uri then texts.getLast? else none
  | .turn ⟨.saved other text, _, _⟩ => if other = uri then text else none
  | _ => none

/-- Whether an occurrence closes a document. -/
def closes (uri : String) : Occurrence → Bool
  | .turn ⟨.closed other, _, _⟩ => other == uri
  | _ => false

/-- The templates that an occurrence brings. -/
def registry? : Occurrence → Option Registry
  | .turn ⟨.templatesChanged _ (.ok registry), _, _⟩ => some registry
  | _ => none

/-- What an occurrence makes of a document, if it does something to it. -/
def leaves? (uri : String) (o : Occurrence) : Option (Option OpenDocument) :=
  if o.closes uri then some none else (o.text? uri).map fun text => some (.ofText text)

end Occurrence

/-- The event that a notice is about. -/
def Notice.event? : Notice → Option Event
  | .opened uri text => some (.opened uri text)
  | .changed uri texts => some (.changed uri texts)
  | .saved uri text => some (.saved uri text)
  | .closed uri => some (.closed uri)
  | .initialized | .exit => none

namespace Server

/-- The server after an event, and what it says. -/
def handle (server : Server) : Event → Server × List Message
  | .templatesChanged path outcome => server.templatesChanged path outcome
  | event => server.after (server.session.handle server.setting event)

/-- The server after an occurrence, and what it says without being asked. -/
def meet (server : Server) : Occurrence → Server × List Message
  | .turn turn => { server with setting := server.setting.during turn }.handle turn.event
  | .hover uri line => ((server.ask (.hover uri line)).1, [])
  | .symbols uri => ((server.ask (.symbols uri)).1, [])

/-- The server after occurrences. -/
def meetAll (server : Server) (occurrences : List Occurrence) : Server :=
  occurrences.foldl (fun server o => (server.meet o).1) server

theorem meetAll_concat (server : Server) (occurrences : List Occurrence) (o : Occurrence) :
    server.meetAll (occurrences ++ [o]) = ((server.meetAll occurrences).meet o).1 :=
  List.foldl_concat _ _ _ _

/-! ### The server's own handlers -/

section
variable {m : Type → Type} [Monad m] (host : Host m) {server : Server}

/-- Taking notice of an event is handling it. -/
theorem tell_eq_handle (hrunning : server.phase = .running) {notice : Notice} {event : Event}
    (h : notice.event? = some event) : server.tell host notice = pure (server.handle event) := by
  cases notice with
  | initialized => cases h
  | exit => cases h
  | _ =>
    obtain rfl := Option.some.inj h
    unfold tell
    rw [hrunning]
    rfl

/-- A change of the watched file is handled with what loading the templates again gives. -/
theorem fileChanged_eq_handle (hfree : server.session.held = false) {path : String}
    (hwatch : server.watch.any (fun w => w.filePath == path) = true) :
    server.fileChanged host path = (do
      let outcome ← Registry.loadOrBuiltIn host server.templatePath
      return server.handle (.templatesChanged path outcome)) := by
  rw [fileChanged, hfree, hwatch]
  rfl

end

/-! ### What does not change -/

theorem ask_hover (server : Server) (uri : String) (line : Nat) :
    (server.ask (.hover uri line)).1 = server := by
  unfold ask
  cases server.phase <;> rfl

theorem ask_symbols (server : Server) (uri : String) :
    (server.ask (.symbols uri)).1 = server := by
  unfold ask
  cases server.phase <;> rfl

theorem handle_phase (server : Server) (event : Event) :
    (server.handle event).1.phase = server.phase := by
  cases event <;> rfl

theorem handle_setting (server : Server) (event : Event) :
    (server.handle event).1.setting = server.setting := by
  cases event <;> rfl

theorem handle_session (server : Server) (event : Event) :
    (server.handle event).1.session = (server.session.handle server.setting event).1 := by
  cases event <;> rfl

/-- What a running server says reaches the editor. -/
theorem handle_said (server : Server) (hrunning : server.phase = .running) (event : Event) :
    (server.handle event).2 = (server.session.handle server.setting event).2 := by
  cases event with
  | templatesChanged path outcome =>
    simp only [handle, templatesChanged, after, heard, hrunning, Session.handle]
  | _ => rfl

theorem meet_phase (server : Server) (o : Occurrence) :
    (server.meet o).1.phase = server.phase := by
  cases o with
  | turn turn => exact handle_phase _ turn.event
  | hover uri line => exact congrArg phase (ask_hover server uri line)
  | symbols uri => exact congrArg phase (ask_symbols server uri)

/-- From one occurrence to the next only what turns bring with them is another. -/
theorem meet_setting (server : Server) (o : Occurrence) (turn : Turn) :
    (server.meet o).1.setting.during turn = server.setting.during turn := by
  cases o with
  | turn turn =>
    rw [meet, handle_setting]
    rfl
  | hover uri line => rw [meet, ask_hover]
  | symbols uri => rw [meet, ask_symbols]

theorem meet_turn_session (server : Server) (turn : Turn) :
    (server.meet (.turn turn)).1.session =
      (server.session.handle (server.setting.during turn) turn.event).1 :=
  handle_session _ turn.event

/-- What holds of a server and is kept by every occurrence holds after all of them. -/
theorem meetAll_induction {p : Server → Prop} (hstart : p server)
    (hkept : ∀ server o, p server → p (server.meet o).1) (occurrences : List Occurrence) :
    p (server.meetAll occurrences) := by
  induction occurrences using List.reverseRecOn with
  | nil => exact hstart
  | append_singleton occurrences o ih =>
    rw [meetAll_concat]
    exact hkept _ o ih

theorem meetAll_phase (server : Server) (occurrences : List Occurrence) :
    (server.meetAll occurrences).phase = server.phase :=
  meetAll_induction (p := fun after => after.phase = server.phase) rfl
    (fun after o h => (meet_phase after o).trans h) occurrences

theorem meetAll_setting (server : Server) (occurrences : List Occurrence) (turn : Turn) :
    (server.meetAll occurrences).setting.during turn = server.setting.during turn :=
  meetAll_induction (p := fun after => after.setting.during turn = server.setting.during turn) rfl
    (fun after o h => (meet_setting after o turn).trans h) occurrences

/-! ### What is seen last -/

/-- Where an occurrence gives what is seen of a server, or leaves it, the last one that gives
    something gives what is seen in the end. -/
theorem meetAll_seen {α : Type} (seen : Server → α) {gives? : Occurrence → Option α}
    (hstep : ∀ server o, seen (server.meet o).1 = (gives? o).getD (seen server))
    (server : Server) (occurrences : List Occurrence) :
    seen (server.meetAll occurrences) =
      (occurrences.reverse.findSome? gives?).getD (seen server) := by
  induction occurrences using List.reverseRecOn with
  | nil => rfl
  | append_singleton occurrences o ih =>
    rw [meetAll_concat, hstep, ih, List.reverse_concat, List.findSome?_cons]
    cases gives? o <;> rfl

/-- A document that gets a text has this text, and the others stay. -/
theorem document?_opened (setting : Setting) (s : Session) (uri other text : String) :
    (s.opened setting other text).1.document? uri =
      ((if other = uri then some text else none).map fun text =>
        some (OpenDocument.ofText text)).getD (s.document? uri) := by
  refine (Scene.document?_store s other uri text).trans ?_
  split <;> rfl

theorem documents_templatesChanged (setting : Setting) (s : Session) (path : String)
    (outcome : Except Failure Registry) :
    (s.templatesChanged setting path outcome).1.documents = s.documents := by
  cases hheld : s.held with
  | true => rw [Scene.templatesChanged_held setting hheld]
  | false =>
    cases outcome with
    | ok registry =>
      obtain ⟨after, -, hdocuments, -, hafter⟩ :=
        Scene.templatesChanged_ok setting hheld path registry
      rw [hafter, hdocuments]
    | error failure => rw [Scene.templatesChanged_error setting hheld]

theorem document?_templatesChanged (setting : Setting) (s : Session) (path : String)
    (outcome : Except Failure Registry) (uri : String) :
    (s.templatesChanged setting path outcome).1.document? uri = s.document? uri :=
  congrArg (Fields.get? uri) (documents_templatesChanged setting s path outcome)

theorem meet_document? (server : Server) (o : Occurrence) (uri : String) :
    (server.meet o).1.session.document? uri =
      (o.leaves? uri).getD (server.session.document? uri) := by
  cases o with
  | hover other line =>
    rw [meet, ask_hover]
    rfl
  | symbols other =>
    rw [meet, ask_symbols]
    rfl
  | turn turn =>
    obtain ⟨event, checker, order⟩ := turn
    rw [meet_turn_session]
    cases event with
    | opened other text => exact document?_opened _ _ uri other text
    | changed other texts =>
      simp only [Session.handle, Session.changed, Occurrence.leaves?, Occurrence.closes,
        Occurrence.text?]
      cases texts.getLast? with
      | none => simp
      | some text => exact document?_opened _ _ uri other text
    | saved other text =>
      cases text with
      | none => simp [Session.handle, Session.saved, Occurrence.leaves?, Occurrence.closes,
          Occurrence.text?]
      | some text => exact document?_opened _ _ uri other text
    | closed other =>
      refine (Scene.document?_forget server.session other uri).trans ?_
      by_cases h : other = uri
      · simp [Occurrence.leaves?, Occurrence.closes, h]
      · simp [Occurrence.leaves?, Occurrence.closes, Occurrence.text?, h]
    | templatesChanged path outcome => exact document?_templatesChanged _ _ path outcome uri

/-- No address has two open documents. -/
theorem meet_nodup {server : Server} (o : Occurrence)
    (h : (Fields.names server.session.documents).Nodup) :
    (Fields.names (server.meet o).1.session.documents).Nodup := by
  cases o with
  | hover uri line => rwa [meet, ask_hover]
  | symbols uri => rwa [meet, ask_symbols]
  | turn turn =>
    obtain ⟨event, checker, order⟩ := turn
    rw [meet_turn_session]
    have hstore : ∀ uri text,
        (Fields.names (server.session.store uri text).documents).Nodup :=
      fun uri text => Fields.nodup_names_insert h uri _
    cases event with
    | opened uri text => exact hstore uri text
    | changed uri texts =>
      rw [Session.handle, Session.changed]
      cases texts.getLast? with
      | none => exact h
      | some text => exact hstore uri text
    | saved uri text =>
      cases text with
      | none => exact h
      | some text => exact hstore uri text
    | closed uri => exact h.sublist (List.filter_sublist.map Prod.fst)
    | templatesChanged path outcome =>
      rw [Session.handle, documents_templatesChanged]
      exact h

/-! ### Templates -/

/-- Whether a server takes an occurrence up. A change of the templates is left alone if a
    check that followed an earlier change never ends. -/
def takesUp (server : Server) : Occurrence → Bool
  | .turn ⟨.templatesChanged _ _, _, _⟩ => !server.session.held
  | _ => true

/-- Those of some occurrences that a server takes up. -/
def takenUp (server : Server) : List Occurrence → List Occurrence
  | [] => []
  | o :: rest =>
    let later := (server.meet o).1.takenUp rest
    if server.takesUp o then o :: later else later

/-- A check that never ends, after a change of the templates, is what keeps a session from
    taking up another one. -/
theorem held_handle {setting : Setting} {s : Session} (hfree : s.held = false) (event : Event)
    (hends : ∀ (after : Session) uri, after.stalls setting uri = false) :
    (s.handle setting event).1.held = false := by
  cases event with
  | opened uri text => exact hfree
  | changed uri texts =>
    rw [Session.handle, Session.changed]
    cases texts.getLast? <;> exact hfree
  | saved uri text => cases text <;> exact hfree
  | closed uri => exact hfree
  | templatesChanged path outcome =>
    rw [Session.handle]
    cases outcome with
    | ok registry =>
      obtain ⟨after, -, -, hheld, hafter⟩ :=
        Scene.templatesChanged_ok setting hfree path registry
      rw [hafter, hheld, List.any_eq_false]
      exact fun uri _ => by rw [hends]; exact Bool.false_ne_true
    | error failure =>
      rw [Scene.templatesChanged_error setting hfree]
      exact hfree

theorem meet_registry (server : Server) (o : Occurrence) :
    (server.meet o).1.session.registry =
      if server.takesUp o then o.registry?.getD server.session.registry
      else server.session.registry := by
  cases o with
  | hover uri line =>
    rw [meet, ask_hover]
    rfl
  | symbols uri =>
    rw [meet, ask_symbols]
    rfl
  | turn turn =>
    obtain ⟨event, checker, order⟩ := turn
    rw [meet_turn_session]
    cases event with
    | opened uri text => rfl
    | changed uri texts =>
      rw [Session.handle, Session.changed]
      cases texts.getLast? <;> rfl
    | saved uri text => cases text <;> rfl
    | closed uri => rfl
    | templatesChanged path outcome =>
      rw [Session.handle, takesUp]
      cases hheld : server.session.held with
      | true => rw [Scene.templatesChanged_held _ hheld]; rfl
      | false =>
        cases outcome with
        | ok registry =>
          obtain ⟨after, hregistry, -, -, hafter⟩ := Scene.templatesChanged_ok
            (server.setting.during ⟨.templatesChanged path (.ok registry), checker, order⟩)
            hheld path registry
          rw [hafter, hregistry]
          rfl
        | error failure => rw [Scene.templatesChanged_error _ hheld]; rfl

/-- The templates are those that were loaded last, by a change that is taken up. -/
theorem meetAll_registry (server : Server) (occurrences : List Occurrence) :
    (server.meetAll occurrences).session.registry =
      ((server.takenUp occurrences).reverse.findSome? Occurrence.registry?).getD
        server.session.registry := by
  induction occurrences generalizing server with
  | nil => rfl
  | cons o rest ih =>
    rw [meetAll, List.foldl_cons, ← meetAll, ih, meet_registry, takenUp]
    split
    · rw [List.reverse_cons, List.findSome?_append, Option.getD_or, List.findSome?_singleton]
    · rfl

/-- Where every check ends, everything is taken up. -/
theorem takenUp_eq_self {server : Server} (hfree : server.session.held = false)
    {occurrences : List Occurrence}
    (hends : ∀ turn, .turn turn ∈ occurrences →
      ∀ (s : Session) uri, s.stalls (server.setting.during turn) uri = false) :
    server.takenUp occurrences = occurrences := by
  induction occurrences generalizing server with
  | nil => rfl
  | cons o rest ih =>
    have htakes : server.takesUp o = true := by
      unfold takesUp
      split
      · rw [hfree]
        rfl
      · rfl
    have hmet : (server.meet o).1.session.held = false := by
      cases o with
      | hover uri line => rwa [meet, ask_hover]
      | symbols uri => rwa [meet, ask_symbols]
      | turn turn =>
        rw [meet_turn_session]
        exact held_handle hfree turn.event (hends turn List.mem_cons_self)
    have hrest := ih hmet fun turn hturn => by
      rw [meet_setting]
      exact hends turn (List.mem_cons_of_mem o hturn)
    rw [takenUp, htakes, hrest]
    rfl

end Server

/-! ## What is said -/

/-- The diagnostics that a message gives for a document. -/
def Message.items? (uri : String) : Message → Option (List Diagnostic)
  | .diagnostics other items => if other = uri then some items else none
  | .log _ _ => none

theorem mem_filterMap_items? {said : List Message} {uri : String} {items : List Diagnostic} :
    items ∈ said.filterMap (Message.items? uri) ↔ .diagnostics uri items ∈ said := by
  rw [List.mem_filterMap]
  constructor
  · rintro ⟨message, hmessage, hitems⟩
    cases message with
    | log urgency text => cases hitems
    | diagnostics other others =>
      rw [Message.items?, Option.ite_none_right_eq_some] at hitems
      obtain ⟨rfl, rfl⟩ := hitems.imp id Option.some.inj
      exact hmessage
  · exact fun hmem => ⟨_, hmem, if_pos rfl⟩

theorem filterMap_items?_eq_nil {said : List Message} {uri : String}
    (h : ∀ message ∈ said, ∃ urgency text, message = .log urgency text) :
    said.filterMap (Message.items? uri) = [] := by
  rw [List.filterMap_eq_nil_iff]
  intro message hmessage
  obtain ⟨urgency, text, rfl⟩ := h message hmessage
  rfl

/-- A check publishes the diagnostics it gives; where it gives none, it publishes nothing. -/
theorem publish_cases (setting : Setting) (s : Session) (uri : String) :
    (∃ items, s.diagnoses? setting uri = some items ∧
      s.publish setting uri = [.diagnostics uri items]) ∨
    (s.diagnoses? setting uri = none ∧
      ∀ message ∈ s.publish setting uri, ∃ urgency text, message = .log urgency text) := by
  rw [Session.publish, Session.diagnoses?]
  cases s.document? uri with
  | none => exact .inr ⟨rfl, List.forall_mem_nil _⟩
  | some d =>
    cases s.rules setting with
    | none => exact .inr ⟨rfl, List.forall_mem_nil _⟩
    | missing name => exact .inr ⟨rfl, List.forall_mem_singleton.2 ⟨_, _, rfl⟩⟩
    | table table =>
      simp only [Session.verdict?]
      cases checkWithin setting.limit setting.checker table d.outline with
      | none => exact .inr ⟨rfl, List.forall_mem_nil _⟩
      | some result =>
        cases result with
        | ok violations => exact .inl ⟨_, rfl, rfl⟩
        | error failure => exact .inr ⟨rfl, List.forall_mem_singleton.2 ⟨_, _, rfl⟩⟩

theorem filterMap_publish (setting : Setting) (s : Session) (uri other : String) :
    (s.publish setting other).filterMap (Message.items? uri) =
      if other = uri then (s.diagnoses? setting uri).toList else [] := by
  obtain ⟨items, hitems, hsaid⟩ | ⟨hnone, hlogs⟩ := publish_cases setting s other
  · rw [hsaid]
    by_cases h : other = uri
    · subst h
      simp [Message.items?, hitems]
    · simp [Message.items?, h]
  · rw [filterMap_items?_eq_nil hlogs]
    split
    next h =>
      subst h
      rw [hnone]
      rfl
    next => rfl

theorem nodup_uris {s : Session} (h : (Fields.names s.documents).Nodup) : s.uris.Nodup :=
  (List.mergeSort_perm _ _).nodup_iff.2 h

/-- Checking documents one after another publishes the diagnostics of each once. -/
theorem filterMap_flatMap_publish (setting : Setting) (s : Session) (uri : String)
    {uris : List String} (h : uris.Nodup) :
    (uris.flatMap (s.publish setting)).filterMap (Message.items? uri) =
      if uri ∈ uris then (s.diagnoses? setting uri).toList else [] := by
  induction uris with
  | nil => rfl
  | cons other rest ih =>
    obtain ⟨hother, hrest⟩ := List.nodup_cons.1 h
    rw [List.flatMap_cons, List.filterMap_append, ih hrest, filterMap_publish]
    by_cases heq : other = uri
    · subst heq
      rw [if_pos rfl, if_neg hother, List.append_nil, if_pos List.mem_cons_self]
    · rw [if_neg heq, List.nil_append]
      simp [Ne.symm heq]

/-! ## What an event does -/

/-- What becomes of a session by an event, and what is said. -/
structure Event.Effect (setting : Setting) (event : Event) (before after : Session)
    (said : List Message) : Prop where
  /-- Whatever is published but for a closed document is what its text and the template in
      force give. -/
  current : ∀ uri items, .diagnostics uri items ∈ said →
    event = .closed uri ∨ after.diagnoses? setting uri = some items
  /-- A document that is to be checked, and is come to, is published once, if the check gives
      diagnostics. -/
  checked : ∀ uri, event.Demands before uri → event.Reaches setting after uri →
    said.filterMap (Message.items? uri) = (after.diagnoses? setting uri).toList
  /-- Nothing is published about other documents, unless they are closed. -/
  unchecked : ∀ uri, ¬ (event.Demands before uri ∧ event.Reaches setting after uri) →
    event ≠ .closed uri → said.filterMap (Message.items? uri) = []
  closed : ∀ uri, event = .closed uri → said = [.diagnostics uri []]
  failed : ∀ path failure, event = .templatesChanged path (.error failure) →
    after = before ∧ ∀ uri items, .diagnostics uri items ∉ said
  /-- With new templates each open document is checked once, up to the first whose check never
      ends. If there is one, the session is held. -/
  reloaded : ∀ path registry, event = .templatesChanged path (.ok registry) →
    before.held = false →
    after.registry = registry ∧ after.documents = before.documents ∧
    (after.held = true ↔ ∃ uri, after.stalls setting uri = true) ∧
    ∃ uris : List String, uris.Nodup ∧ (∀ uri, uri ∈ uris ↔ (after.document? uri).isSome) ∧
      said = .log .info s!"Template file changed: {path}"
        :: .log .info s!"Reloaded {registry.size} template(s)"
        :: (after.reached setting uris).flatMap (after.publish setting) ∧
      (after.held = false → after.reached setting uris = uris)
  /-- A session that is held does not take templates up. -/
  held : ∀ path outcome, event = .templatesChanged path outcome → before.held = true →
    after = before ∧ said = []

section
variable {setting : Setting} {s : Session} {uri : String}

theorem isSome_document?_of_stalls (h : s.stalls setting uri = true) :
    (s.document? uri).isSome := by
  rw [Session.stalls] at h
  cases hdocument : s.document? uri with
  | none => simp [hdocument] at h
  | some d => rfl

/-- Some check never ends if and only if that of an open document does not. -/
theorem any_stalls_iff :
    s.uris.any (s.stalls setting) = true ↔ ∃ uri, s.stalls setting uri = true := by
  rw [List.any_eq_true]
  exact exists_congr fun uri => and_iff_right_of_imp fun h =>
    mem_uris_iff.2 (isSome_document?_of_stalls h)

theorem reached_isPrefix (uris : List String) : s.reached setting uris <+: uris := by
  induction uris with
  | nil => exact List.prefix_rfl
  | cons first rest ih =>
    rw [Session.reached, List.prefix_cons_inj]
    split
    · exact List.nil_prefix
    · exact ih

theorem nodup_arrange (h : (Fields.names s.documents).Nodup) (order : Arrangement) :
    (order.arrange s.uris).Nodup :=
  (order.perm s.uris).nodup_iff.2 (nodup_uris h)

/-- Checking all open documents publishes the diagnostics of each one that is come to. -/
theorem filterMap_publishAll (h : (Fields.names s.documents).Nodup) :
    (s.publishAll setting).filterMap (Message.items? uri) =
      if uri ∈ s.reached setting (setting.order.arrange s.uris)
      then (s.diagnoses? setting uri).toList else [] :=
  filterMap_flatMap_publish setting s uri
    ((nodup_arrange h setting.order).sublist (reached_isPrefix _).sublist)

/-- An event publishes what the documents give that it has checked. -/
theorem filterMap_handle (h : (Fields.names s.documents).Nodup) (event : Event) :
    (event.Demands s uri → event.Reaches setting (s.handle setting event).1 uri →
      (s.handle setting event).2.filterMap (Message.items? uri) =
        ((s.handle setting event).1.diagnoses? setting uri).toList) ∧
    (¬ (event.Demands s uri ∧ event.Reaches setting (s.handle setting event).1 uri) →
      event ≠ .closed uri → (s.handle setting event).2.filterMap (Message.items? uri) = []) := by
  have hopened : ∀ other text, (other = uri →
      (s.opened setting other text).2.filterMap (Message.items? uri) =
        ((s.opened setting other text).1.diagnoses? setting uri).toList) ∧
      (other ≠ uri → (s.opened setting other text).2.filterMap (Message.items? uri) = []) := by
    intro other text
    have hpublished := filterMap_publish setting (s.store other text) uri other
    exact ⟨fun heq => hpublished.trans (if_pos heq), fun hne => hpublished.trans (if_neg hne)⟩
  cases event with
  | opened other text =>
    exact ⟨fun heq _ => (hopened other text).1 heq,
      fun hne _ => (hopened other text).2 fun heq => hne ⟨heq, trivial⟩⟩
  | changed other texts =>
    by_cases hempty : texts = []
    · subst hempty
      exact ⟨fun hdemands => absurd rfl hdemands.2, fun _ _ => rfl⟩
    · obtain ⟨text, hsame⟩ := Scene.changed_eq_opened setting s other hempty
      rw [Session.handle, hsame]
      exact ⟨fun hdemands _ => (hopened other text).1 hdemands.1,
        fun hne _ => (hopened other text).2 fun heq => hne ⟨⟨heq, hempty⟩, trivial⟩⟩
  | saved other text =>
    cases text with
    | none =>
      have hpublished := filterMap_publish setting s uri other
      exact ⟨fun heq _ => hpublished.trans (if_pos heq),
        fun hne _ => hpublished.trans (if_neg fun heq => hne ⟨heq, trivial⟩)⟩
    | some text =>
      exact ⟨fun heq _ => (hopened other text).1 heq,
        fun hne _ => (hopened other text).2 fun heq => hne ⟨heq, trivial⟩⟩
  | closed other =>
    refine ⟨fun hdemands => hdemands.elim, fun _ hother => ?_⟩
    have hne : other ≠ uri := fun heq => hother (congrArg Event.closed heq)
    simp [Session.handle, Session.closed, Message.items?, hne]
  | templatesChanged path outcome =>
    rw [Session.handle]
    cases hheld : s.held with
    | true =>
      rw [Scene.templatesChanged_held setting hheld]
      exact ⟨fun hdemands => absurd hdemands.1 (ne_false_of_eq_true hheld), fun _ _ => rfl⟩
    | false =>
      cases outcome with
      | ok registry =>
        obtain ⟨after, -, hdocuments, -, hafter⟩ :=
          Scene.templatesChanged_ok setting hheld path registry
        rw [hafter]
        have hpublished : (after.publishAll setting).filterMap (Message.items? uri) = _ :=
          filterMap_publishAll (hdocuments ▸ h)
        exact ⟨fun _ hreaches => hpublished.trans (if_pos (mem_reached_iff.2 hreaches)),
          fun hnot _ => hpublished.trans (if_neg fun hmem =>
            hnot ⟨⟨hheld, registry, rfl⟩, mem_reached_iff.1 hmem⟩)⟩
      | error failure =>
        rw [Scene.templatesChanged_error setting hheld]
        refine ⟨?_, fun _ _ => rfl⟩
        rintro ⟨-, registry, hok⟩
        cases hok

/-- Handling an event has its effect. -/
theorem Session.handle_effect (h : (Fields.names s.documents).Nodup) (event : Event) :
    event.Effect setting s (s.handle setting event).1 (s.handle setting event).2 where
  checked uri := (filterMap_handle h event).1
  unchecked uri := (filterMap_handle h event).2
  current uri items hsaid := by
    rw [← mem_filterMap_items?] at hsaid
    by_cases hclosed : event = .closed uri
    · exact .inl hclosed
    · by_cases hchecked : event.Demands s uri ∧ event.Reaches setting (s.handle setting event).1 uri
      · rw [(filterMap_handle h event).1 hchecked.1 hchecked.2, Option.mem_toList] at hsaid
        exact .inr hsaid
      · rw [(filterMap_handle h event).2 hchecked hclosed] at hsaid
        cases hsaid
  closed uri heq := by
    subst heq
    rfl
  failed path failure heq := by
    subst heq
    rw [Session.handle]
    cases hheld : s.held with
    | true =>
      rw [Scene.templatesChanged_held setting hheld]
      exact ⟨rfl, fun _ _ => List.not_mem_nil⟩
    | false =>
      rw [Scene.templatesChanged_error setting hheld]
      exact ⟨rfl, by simp⟩
  reloaded path registry heq hfree := by
    subst heq
    obtain ⟨after, hregistry, hdocuments, hheld, hafter⟩ :=
      Scene.templatesChanged_ok setting hfree path registry
    rw [Session.handle, hafter]
    have hstalls : after.held = true ↔ ∃ uri, after.stalls setting uri = true :=
      hheld ▸ any_stalls_iff
    refine ⟨hregistry, hdocuments, hstalls, setting.order.arrange after.uris,
      nodup_arrange (hdocuments ▸ h) _, fun uri => ?_, rfl, fun hends => reached_eq_self ?_⟩
    · rw [setting.order.mem_arrange, mem_uris_iff]
    · intro uri _
      by_contra hstall
      exact Bool.false_ne_true (hends.symm.trans (hstalls.2 ⟨uri, Bool.not_eq_false _ ▸ hstall⟩))
  held path outcome heq hheld := by
    subst heq
    rw [Session.handle, Scene.templatesChanged_held setting hheld]
    exact ⟨rfl, rfl⟩

end

/-! ## What a server keeps -/

/-- What becomes of a server by an occurrence. An event is handled with the checker and the
    order of its turn; a question changes nothing and has nothing said. -/
def Occurrence.Effect (setting : Setting) (before after : Server) (said : List Message) :
    Occurrence → Prop
  | .turn taken => taken.event.Effect (setting.during taken) before.session after.session said
  | .hover _ _ | .symbols _ => after = before ∧ said = []

theorem Occurrence.Effect.of_during {setting other : Setting} {before after : Server}
    {said : List Message} {o : Occurrence} (h : o.Effect setting before after said)
    (hsame : ∀ turn, setting.during turn = other.during turn) :
    o.Effect other before after said := by
  cases o with
  | turn turn =>
    rw [Effect] at h ⊢
    rwa [← hsame]
  | hover uri line => exact h
  | symbols uri => exact h

theorem Server.meet_effect {server : Server} (hrunning : server.phase = .running)
    (h : (Fields.names server.session.documents).Nodup) (o : Occurrence) :
    o.Effect server.setting server (server.meet o).1 (server.meet o).2 := by
  cases o with
  | turn turn =>
    have hsaid : (server.meet (.turn turn)).2 =
        (server.session.handle (server.setting.during turn) turn.event).2 :=
      handle_said { server with setting := server.setting.during turn } hrunning turn.event
    rw [Occurrence.Effect, meet_turn_session, hsaid]
    exact Session.handle_effect h turn.event
  | hover uri line => exact ⟨ask_hover server uri line, rfl⟩
  | symbols uri => exact ⟨ask_symbols server uri, rfl⟩

/-- The last of some values is the one after which there are none. -/
theorem findSome?_reverse_eq_some_iff {α β : Type} {f : α → Option β} {xs : List α} {y : β} :
    xs.reverse.findSome? f = some y ↔
      ∃ earlier x later, xs = earlier ++ x :: later ∧ f x = some y ∧ ∀ z ∈ later, f z = none := by
  rw [List.findSome?_eq_some_iff]
  constructor
  · rintro ⟨later, x, earlier, hsplit, hx, hlater⟩
    refine ⟨earlier.reverse, x, later.reverse, ?_, hx, fun z hz => hlater z (List.mem_reverse.1 hz)⟩
    rw [← List.reverse_inj, hsplit]
    simp
  · rintro ⟨earlier, x, later, rfl, hx, hlater⟩
    exact ⟨later.reverse, x, earlier.reverse, by simp, hx,
      fun z hz => hlater z (List.mem_reverse.1 hz)⟩

namespace Occurrence

variable {uri : String} {o : Occurrence}

theorem leaves?_eq_none_iff : o.leaves? uri = none ↔ o.text? uri = none ∧ o.closes uri = false := by
  rw [leaves?]
  cases o.closes uri <;> simp

/-- What brings the text of a document does not close it. -/
theorem closes_eq_false {text : String} (h : o.text? uri = some text) : o.closes uri = false := by
  obtain ⟨event, checker, order⟩ | _ | _ := o
  · cases event with
    | closed other => cases h
    | _ => rfl
  · rfl
  · rfl

theorem leaves?_eq_some_iff {d : OpenDocument} :
    o.leaves? uri = some (some d) ↔
      ∃ text, o.text? uri = some text ∧ d = ⟨text, Markdown.outline text⟩ := by
  constructor
  · intro h
    rw [leaves?] at h
    split at h
    · cases h
    · obtain ⟨text, htext, hd⟩ := Option.map_eq_some_iff.1 h
      exact ⟨text, htext, (Option.some.inj hd).symm⟩
  · rintro ⟨text, htext, rfl⟩
    rw [leaves?, closes_eq_false htext, htext]
    rfl

end Occurrence

/-- **What a running server keeps and says.** Let a server begin without open documents, and
    let events be handled and questions be answered in any order. Then a document is open if
    and only if its text was brought after it was closed last, and what is kept is the text
    that was brought last with the outline of that text. The templates are those that were
    loaded last, or those at the beginning; where every check ends, no change of them is left
    alone. Whatever happens next has its effect. -/
theorem Server.follows_occurrences (server : Server) (hrunning : server.phase = .running)
    (hempty : server.session.documents = []) (occurrences : List Occurrence) :
    (∀ uri d, (server.meetAll occurrences).session.document? uri = some d ↔
      ∃ earlier o later text, occurrences = earlier ++ o :: later ∧ o.text? uri = some text ∧
        (∀ x ∈ later, x.text? uri = none ∧ x.closes uri = false) ∧
        d = ⟨text, Markdown.outline text⟩) ∧
    (server.meetAll occurrences).session.registry =
      ((server.takenUp occurrences).reverse.findSome? Occurrence.registry?).getD
        server.session.registry ∧
    (server.session.held = false →
      (∀ turn, .turn turn ∈ occurrences →
        ∀ (s : Session) uri, s.stalls (server.setting.during turn) uri = false) →
      server.takenUp occurrences = occurrences) ∧
    ∀ next : Occurrence, next.Effect server.setting (server.meetAll occurrences)
      ((server.meetAll occurrences).meet next).1 ((server.meetAll occurrences).meet next).2 := by
  refine ⟨fun uri d => ?_, meetAll_registry server occurrences, fun hfree hends =>
    takenUp_eq_self hfree hends, fun next => ?_⟩
  · have hclosed : server.session.document? uri = none := by
      rw [Session.document?, hempty]
      rfl
    rw [meetAll_seen (fun server => server.session.document? uri)
      (fun server o => meet_document? server o uri), hclosed]
    have hlast : (occurrences.reverse.findSome? (Occurrence.leaves? uri)).getD none = some d ↔
        occurrences.reverse.findSome? (Occurrence.leaves? uri) = some (some d) := by
      cases occurrences.reverse.findSome? (Occurrence.leaves? uri) <;> simp
    rw [hlast, findSome?_reverse_eq_some_iff]
    simp only [Occurrence.leaves?_eq_some_iff, Occurrence.leaves?_eq_none_iff]
    constructor
    · rintro ⟨earlier, o, later, hsplit, ⟨text, htext, hd⟩, hlater⟩
      exact ⟨earlier, o, later, text, hsplit, htext, hlater, hd⟩
    · rintro ⟨earlier, o, later, text, hsplit, htext, hlater, hd⟩
      exact ⟨earlier, o, later, hsplit, ⟨text, htext, hd⟩, hlater⟩
  · have hphase := (meetAll_phase server occurrences).trans hrunning
    have hnodup := meetAll_induction
      (p := fun after => (Fields.names after.session.documents).Nodup)
      (by rw [hempty]; exact List.nodup_nil) (fun _ o h => meet_nodup o h) occurrences
    exact (meet_effect hphase hnodup next).of_during (meetAll_setting server occurrences)

/-- A server with templates that want a heading. -/
def guideServer : Server :=
  { phase := .running, session := { registry := Scene.guideTemplates } }

/-- A document is opened and explained, the template file becomes unreadable, and the
    document is changed twice at once. -/
def guideOccurrences : List Occurrence :=
  [.turn Scene.draftOpened, .hover "a.md" 0,
    .turn { event := .templatesChanged "t.json" (.error ⟨[], .message "unreadable"⟩)
            checker := .skip },
    .turn { event := .changed "a.md" ["# Outline\n", "# Draft\n"], checker := .skip }]

/-- The document is saved without its text. -/
def guideSaved : Occurrence :=
  .turn { event := .saved "a.md" none, checker := .skip }

/-- The last text and the first templates are kept, and saving the document publishes what is
    wrong with that text. -/
theorem guideServer_follows :
    guideServer.phase = .running ∧ guideServer.session.documents = [] ∧
    (guideServer.meetAll guideOccurrences).session.document? "a.md" =
      some ⟨"# Draft\n", Markdown.outline "# Draft\n"⟩ ∧
    (guideServer.meetAll guideOccurrences).session.registry = Scene.guideTemplates ∧
    ((guideServer.meetAll guideOccurrences).meet guideSaved).2.filterMap
      (Message.items? "a.md") = [[Scene.draftDiagnostic]] := by
  obtain ⟨hdocuments, hregistry, -, hnext⟩ :=
    guideServer.follows_occurrences rfl rfl guideOccurrences
  refine ⟨rfl, rfl, (hdocuments "a.md" _).2 ?_, hregistry, ?_⟩
  · exact ⟨guideOccurrences.take 3, _, [], "# Draft\n", rfl, by decide, List.forall_mem_nil _, rfl⟩
  · refine ((hnext guideSaved).checked "a.md" rfl trivial).trans ?_
    decide +kernel

end Rubric.Editor
