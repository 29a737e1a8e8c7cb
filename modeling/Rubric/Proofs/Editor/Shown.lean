/-
  Rubric.Proofs.Editor.Shown

  What an editor shows while documents and templates change.

  An editor shows the diagnostics that were sent last. Events come one at a time,
  and each is answered by a checker of its own. Every change of the text of a
  document, and of the templates, demands a check of it with the text and the
  templates it then has. Where the check gives violations, they are what is shown.
  Where it does not, because no template is in force or the check fails or does not
  end, nothing is sent: what was shown before, for a text or templates that are
  gone, stays. It stays as well where the templates change and the check of another
  document, which comes first, never ends.
-/
import Mathlib.Data.List.Induction
import Rubric.Editor.Session
import Rubric.Proofs.Json.Fields

namespace Rubric.Editor

/-! ## What is shown -/

/-- The diagnostics that are shown for each address, if any were sent. -/
abbrev Shown := String → Option (List Diagnostic)

/-- What is shown after a message. -/
def Shown.hear (shown : Shown) : Message → Shown
  | .log _ _ => shown
  | .diagnostics uri items => fun other => if other = uri then some items else shown other

/-- What is shown after messages. -/
def Shown.hearAll (shown : Shown) (messages : List Message) : Shown :=
  messages.foldl Shown.hear shown

/-- The diagnostics of the text of an open document by the template in force. There are none
    where there is no such template, and where the check fails or does not end. -/
def Session.diagnoses? (setting : Setting) (s : Session) (uri : String) :
    Option (List Diagnostic) :=
  match s.document? uri, s.rules setting with
  | some d, .table table =>
    match checkWithin setting.limit setting.checker table d.outline with
    | some (.ok violations) => some (violations.map (Diagnostic.ofViolation d.source))
    | _ => none
  | _, _ => none

/-! ## Events -/

/-- What happens to the documents and the templates of a server. -/
inductive Event where
  | opened (uri text : String)
  | changed (uri : String) (texts : List String)
  | saved (uri : String) (text : Option String)
  | closed (uri : String)
  /-- The template file has changed, and loading it again has some outcome. -/
  | templatesChanged (path : String) (outcome : Except Failure Registry)

/-- An event, with the checker that answers while it is handled and the order in which the
    open documents are taken up if they are all checked. -/
structure Turn where
  event : Event
  checker : Checker
  order : Arrangement := .listed

/-- The setting while a turn is taken. -/
def Setting.during (setting : Setting) (turn : Turn) : Setting :=
  { setting with checker := turn.checker, order := turn.order }

/-- The session after an event, and what is said. -/
def Session.handle (setting : Setting) (s : Session) : Event → Session × List Message
  | .opened uri text => s.opened setting uri text
  | .changed uri texts => s.changed setting uri texts
  | .saved uri text => s.saved setting uri text
  | .closed uri => s.closed uri
  | .templatesChanged path outcome => s.templatesChanged setting path outcome

/-- An event demands that a session checks a document, if it is open. A session that is held
    takes up no templates. -/
def Event.Demands (s : Session) (uri : String) : Event → Prop
  | .opened other _ => other = uri
  | .changed other texts => other = uri ∧ texts ≠ []
  | .saved other _ => other = uri
  | .closed _ => False
  | .templatesChanged _ outcome => s.held = false ∧ ∃ registry, outcome = .ok registry

/-- The check of an open document that an event demands is come to. When all documents are
    checked, every check of one before it has to end; `s` is the session then. -/
def Event.Reaches (setting : Setting) (s : Session) (uri : String) : Event → Prop
  | .templatesChanged _ _ => ∃ earlier later,
      setting.order.arrange s.uris = earlier ++ uri :: later ∧
      ∀ other ∈ earlier, s.stalls setting other = false
  | _ => True

/-- A session with what the editor shows. -/
structure Scene where
  session : Session
  shown : Shown := fun _ => none

namespace Scene

/-- The scene after a turn. -/
def take (setting : Setting) (scene : Scene) (turn : Turn) : Scene :=
  let next := scene.session.handle (setting.during turn) turn.event
  ⟨next.1, scene.shown.hearAll next.2⟩

/-- The scene after turns. -/
def takeAll (setting : Setting) (scene : Scene) (turns : List Turn) : Scene :=
  turns.foldl (take setting) scene

theorem takeAll_append (setting : Setting) (scene : Scene) (first second : List Turn) :
    scene.takeAll setting (first ++ second) =
      (scene.takeAll setting first).takeAll setting second :=
  List.foldl_append

theorem takeAll_concat (setting : Setting) (scene : Scene) (turns : List Turn) (turn : Turn) :
    scene.takeAll setting (turns ++ [turn]) = (scene.takeAll setting turns).take setting turn :=
  List.foldl_concat _ _ _ _

/-- What a document shows is empty, or is what its text and the template in force give. -/
def UpToDate (setting : Setting) (scene : Scene) (uri : String) : Prop :=
  ∀ items, scene.shown uri = some items →
    items = [] ∨ scene.session.diagnoses? setting uri = some items

end Scene

theorem Scene.not_upToDate {setting : Setting} {scene : Scene} {uri : String}
    {item : Diagnostic} {items : List Diagnostic} (hshown : scene.shown uri = some (item :: items))
    (hnone : scene.session.diagnoses? setting uri = none) : ¬ scene.UpToDate setting uri := by
  intro h
  obtain hempty | hcurrent := h _ hshown
  · cases hempty
  · rw [hnone] at hcurrent
    cases hcurrent

/-! ## One check -/

section Publish

variable {setting : Setting} {s t : Session} {shown : Shown}

/-- Diagnostics are about the text of the document and the registry. -/
theorem diagnoses?_congr {uri : String} (hdocument : s.document? uri = t.document? uri)
    (hregistry : s.registry = t.registry) :
    s.diagnoses? setting uri = t.diagnoses? setting uri := by
  rw [Session.diagnoses?, Session.diagnoses?, hdocument, Session.rules, Session.rules, hregistry]

theorem mem_uris_iff {uri : String} : uri ∈ s.uris ↔ (s.document? uri).isSome := by
  rw [← Option.ne_none_iff_isSome, Session.document?, Ne, Fields.get?_eq_none_iff, not_not]
  exact List.mem_mergeSort

/-- A check shows the diagnostics it gives, or leaves what was shown. -/
theorem hearAll_publish (uri other : String) :
    shown.hearAll (s.publish setting uri) other =
      if other = uri then (s.diagnoses? setting uri).or (shown other) else shown other := by
  rw [Session.publish, Session.diagnoses?]
  cases s.document? uri with
  | none => simp [Shown.hearAll]
  | some d =>
    cases s.rules setting with
    | none => simp [Shown.hearAll]
    | missing name => simp [Shown.hearAll, Shown.hear]
    | table table =>
      simp only [Session.verdict?]
      cases checkWithin setting.limit setting.checker table d.outline with
      | none => simp [Shown.hearAll]
      | some result => cases result <;> simp [Shown.hearAll, Shown.hear]

theorem hearAll_append (first second : List Message) :
    shown.hearAll (first ++ second) = (shown.hearAll first).hearAll second :=
  List.foldl_append

/-- Checking documents one after another shows the diagnostics of each. -/
theorem hearAll_flatMap_publish (uris : List String) (other : String) :
    shown.hearAll (uris.flatMap (s.publish setting)) other =
      if other ∈ uris then (s.diagnoses? setting other).or (shown other) else shown other := by
  induction uris generalizing shown with
  | nil => simp [Shown.hearAll]
  | cons uri rest ih =>
    rw [List.flatMap_cons, hearAll_append, ih, hearAll_publish]
    by_cases h : other = uri
    · subst h
      cases s.diagnoses? setting other <;> simp
    · simp [h]

theorem Arrangement.mem_arrange (order : Arrangement) (uris : List String) {uri : String} :
    uri ∈ order.arrange uris ↔ uri ∈ uris :=
  (order.perm uris).mem_iff

/-- The documents that are come to are those behind which no check that never ends stands. -/
theorem mem_reached_iff {uris : List String} {uri : String} :
    uri ∈ s.reached setting uris ↔
      ∃ earlier later, uris = earlier ++ uri :: later ∧
        ∀ other ∈ earlier, s.stalls setting other = false := by
  induction uris with
  | nil => simp [Session.reached]
  | cons first rest ih =>
    rw [Session.reached, List.mem_cons]
    constructor
    · rintro (rfl | hrest)
      · exact ⟨[], rest, rfl, List.forall_mem_nil _⟩
      · by_cases hfirst : s.stalls setting first = true
        · simp [hfirst] at hrest
        · rw [if_neg hfirst, ih] at hrest
          obtain ⟨earlier, later, rfl, hearlier⟩ := hrest
          exact ⟨first :: earlier, later, rfl,
            List.forall_mem_cons.2 ⟨Bool.not_eq_true _ ▸ hfirst, hearlier⟩⟩
    · rintro ⟨earlier, later, hsplit, hearlier⟩
      cases earlier with
      | nil => exact .inl (List.cons.inj hsplit).1.symm
      | cons other earlier =>
        obtain ⟨rfl, rfl⟩ := List.cons.inj hsplit
        obtain ⟨hfirst, hearlier⟩ := List.forall_mem_cons.1 hearlier
        rw [hfirst]
        exact .inr (ih.2 ⟨earlier, later, rfl, hearlier⟩)

/-- Where every check ends, all documents are come to. -/
theorem reached_eq_self {uris : List String} (h : ∀ uri ∈ uris, s.stalls setting uri = false) :
    s.reached setting uris = uris := by
  induction uris with
  | nil => rfl
  | cons first rest ih =>
    obtain ⟨hfirst, hrest⟩ := List.forall_mem_cons.1 h
    rw [Session.reached, hfirst, if_neg Bool.false_ne_true, ih hrest]

/-- Checking all open documents shows the diagnostics of those that are come to. -/
theorem hearAll_publishAll (uri : String) :
    shown.hearAll (s.publishAll setting) uri =
      if uri ∈ s.reached setting (setting.order.arrange s.uris)
      then (s.diagnoses? setting uri).or (shown uri) else shown uri :=
  hearAll_flatMap_publish _ uri

end Publish

/-! ## One turn -/

namespace Scene

variable {setting : Setting} {scene : Scene} {turn : Turn} {uri : String}

theorem document?_store (s : Session) (uri other text : String) :
    (s.store uri text).document? other =
      if uri = other then some (.ofText text) else s.document? other :=
  Fields.get?_insert uri other (OpenDocument.ofText text) s.documents

theorem document?_forget (s : Session) (uri other : String) :
    (s.forget uri).document? other = if uri = other then none else s.document? other :=
  Fields.get?_filter_ne uri other s.documents

theorem changed_eq_opened (setting : Setting) (s : Session) (uri : String) {texts : List String}
    (hne : texts ≠ []) :
    ∃ text, s.changed setting uri texts = s.opened setting uri text := by
  obtain ⟨text, htext⟩ := Option.isSome_iff_exists.1 (List.getLast?_isSome.2 hne)
  exact ⟨text, by rw [Session.changed, htext]⟩

/-- Templates that are taken up are in force, and the open documents are checked by them. -/
theorem templatesChanged_ok (setting : Setting) {s : Session} (hfree : s.held = false)
    (path : String) (registry : Registry) :
    ∃ after : Session, after.registry = registry ∧ after.documents = s.documents ∧
      after.held = after.uris.any (after.stalls setting) ∧
      s.templatesChanged setting path (.ok registry) =
        (after, .log .info s!"Template file changed: {path}"
          :: .log .info s!"Reloaded {registry.size} template(s)" :: after.publishAll setting) := by
  simp only [Session.templatesChanged, hfree, Session.reloaded, Bool.false_eq_true, if_false,
    if_true]
  refine ⟨_, ?_, ?_, ?_, rfl⟩ <;> rfl

/-- Templates that could not be loaded leave the session as it is. -/
theorem templatesChanged_error (setting : Setting) {s : Session} (hfree : s.held = false)
    (path : String) (failure : Failure) :
    s.templatesChanged setting path (.error failure) =
      (s, [.log .info s!"Template file changed: {path}",
        .log .error s!"Failed to reload templates: {failure.toText}"]) := by
  rw [Session.templatesChanged, hfree]
  rfl

/-- A session that is held does not take templates up. -/
theorem templatesChanged_held (setting : Setting) {s : Session} (hheld : s.held = true)
    (path : String) (outcome : Except Failure Registry) :
    s.templatesChanged setting path outcome = (s, []) :=
  if_pos hheld

/-- What is shown of a document after an event that demands a check of it: what the session
    gives that the event leaves, if the check is come to and gives anything. -/
structure IsShown (setting : Setting) (event : Event) (s : Session) (uri : String)
    (before after : Option (List Diagnostic)) : Prop where
  reached : event.Reaches setting s uri → after = (s.diagnoses? setting uri).or before
  missed : ¬ event.Reaches setting s uri → after = before

theorem isShown_publish {s : Session} {shown : Shown} {event : Event}
    (h : event.Reaches setting s uri) :
    IsShown setting event s uri (shown uri) (shown.hearAll (s.publish setting uri) uri) where
  reached _ := (hearAll_publish uri uri).trans (if_pos rfl)
  missed hmissed := absurd h hmissed

/-- An event that demands a check of a document shows the diagnostics it then has, or leaves
    what was shown before. -/
theorem take_shown (h : turn.event.Demands scene.session uri) :
    IsShown (setting.during turn) turn.event (scene.take setting turn).session uri
      (scene.shown uri) ((scene.take setting turn).shown uri) := by
  obtain ⟨event, checker, order⟩ := turn
  cases event with
  | opened other text =>
    obtain rfl : other = uri := h
    exact isShown_publish trivial
  | changed other texts =>
    obtain ⟨rfl, hne⟩ := h
    -- A change is an opening with the last of its texts.
    obtain ⟨text, hopened⟩ :=
      changed_eq_opened (setting.during ⟨.changed other texts, checker, order⟩) scene.session
        other hne
    simp only [take, Session.handle, hopened]
    exact isShown_publish trivial
  | saved other text =>
    obtain rfl : other = uri := h
    cases text <;> exact isShown_publish trivial
  | closed other => exact h.elim
  | templatesChanged path outcome =>
    obtain ⟨hfree, registry, rfl⟩ := h
    obtain ⟨after, -, -, -, hafter⟩ := templatesChanged_ok
      (setting.during ⟨.templatesChanged path (.ok registry), checker, order⟩) hfree path registry
    simp only [take, Session.handle, hafter]
    have hshown := @hearAll_publishAll
      (setting.during ⟨.templatesChanged path (.ok registry), checker, order⟩) after scene.shown uri
    exact ⟨fun h => hshown.trans (if_pos (mem_reached_iff.2 h)),
      fun h => hshown.trans (if_neg (mem_reached_iff.not.2 h))⟩

theorem opened_same (s : Session) (shown : Shown) (text : String) {other : String}
    (hne : other ≠ uri) :
    (s.opened setting other text).1.document? uri = s.document? uri ∧
    (s.opened setting other text).1.registry = s.registry ∧
    shown.hearAll (s.opened setting other text).2 uri = shown uri :=
  ⟨(document?_store s other uri text).trans (if_neg hne), rfl,
    (hearAll_publish other uri).trans (if_neg (Ne.symm hne))⟩

/-- An event that does not demand a check of a document which is open afterwards leaves its
    text, the templates and what is shown. -/
theorem take_same (h : ¬ turn.event.Demands scene.session uri)
    (hopen : ((scene.take setting turn).session.document? uri).isSome) :
    (scene.take setting turn).session.document? uri = scene.session.document? uri ∧
    (scene.take setting turn).session.registry = scene.session.registry ∧
    (scene.take setting turn).shown uri = scene.shown uri := by
  obtain ⟨event, checker, order⟩ := turn
  cases event with
  | opened other text => exact opened_same scene.session scene.shown text h
  | changed other texts =>
    by_cases hne : texts = []
    · subst hne
      exact ⟨rfl, rfl, rfl⟩
    · obtain ⟨text, hopened⟩ :=
        changed_eq_opened (setting.during ⟨.changed other texts, checker, order⟩) scene.session
          other hne
      simp only [take, Session.handle, hopened]
      exact opened_same scene.session scene.shown text fun heq => h ⟨heq, hne⟩
  | saved other text =>
    cases text with
    | none => exact ⟨rfl, rfl, (hearAll_publish other uri).trans (if_neg (Ne.symm h))⟩
    | some text => exact opened_same scene.session scene.shown text h
  | closed other =>
    have hclosed : (scene.session.forget other).document? uri = _ :=
      document?_forget scene.session other uri
    -- The document is open afterwards, so it was another one that was closed.
    have hne : other ≠ uri := fun heq => by
      rw [if_pos heq] at hclosed
      exact absurd hopen (by simp [take, Session.handle, Session.closed, hclosed])
    rw [if_neg hne] at hclosed
    exact ⟨hclosed, rfl, if_neg (Ne.symm hne)⟩
  | templatesChanged path outcome =>
    simp only [take, Session.handle]
    cases hheld : scene.session.held with
    | true =>
      rw [templatesChanged_held _ hheld]
      exact ⟨rfl, rfl, rfl⟩
    | false =>
      cases outcome with
      | ok registry => exact absurd ⟨hheld, registry, rfl⟩ h
      | error failure =>
        rw [templatesChanged_error _ hheld]
        exact ⟨rfl, rfl, rfl⟩

/-! ## All turns -/

/-- The scene of a server that has just started. -/
def start (registry : Registry) : Scene :=
  { session := { registry := registry } }

/-- After any turns, an open document has a last turn that demanded a check of it. The text
    and the templates that this turn left are those that there are now. What the check gave is
    what is shown; where it gave nothing, or was not come to, what was shown before that turn
    still is. -/
theorem shown_after_last_check (setting : Setting) (registry : Registry) (turns : List Turn)
    (uri : String)
    (hopen : (((start registry).takeAll setting turns).session.document? uri).isSome) :
    ∃ before last after, turns = before ++ last :: after ∧
      let earlier := (start registry).takeAll setting before
      let checked := earlier.take setting last
      let now := (start registry).takeAll setting turns
      last.event.Demands earlier.session uri ∧
      (∀ passed turn rest, after = passed ++ turn :: rest →
        ¬ turn.event.Demands (checked.takeAll setting passed).session uri) ∧
      now.session.document? uri = checked.session.document? uri ∧
      now.session.registry = checked.session.registry ∧
      IsShown (setting.during last) last.event checked.session uri (earlier.shown uri)
        (now.shown uri) := by
  -- From the last turn backwards, up to one that demands a check of the document.
  induction turns using List.reverseRecOn with
  | nil => simp [takeAll, start, Session.document?, Fields.get?] at hopen
  | append_singleton turns turn ih =>
    rw [takeAll_concat] at hopen ⊢
    by_cases hdemands : turn.event.Demands ((start registry).takeAll setting turns).session uri
    · exact ⟨turns, turn, [], rfl, hdemands, by simp, rfl, rfl, take_shown hdemands⟩
    · obtain ⟨hdocument, hregistry, hshown⟩ := take_same hdemands hopen
      rw [hdocument] at hopen
      obtain ⟨before, last, after, rfl, hlast, hafter, hsameDocument, hsameRegistry, hlastShown⟩ :=
        ih hopen
      rw [takeAll_append] at hdemands
      refine ⟨before, last, after ++ [turn], by simp, hlast, ?_, hdocument.trans hsameDocument,
        hregistry.trans hsameRegistry, ?_⟩
      · intro passed other rest hsplit
        cases rest using List.reverseRecOn with
        | nil =>
          obtain ⟨rfl, hother⟩ := List.append_inj' hsplit rfl
          obtain rfl := List.singleton_inj.1 hother
          exact hdemands
        | append_singleton rest _ =>
          rw [← List.cons_append, ← List.append_assoc] at hsplit
          exact hafter passed other rest (List.append_inj' hsplit rfl).1
      · rw [hshown]
        exact hlastShown

/-- A template that wants a heading and has an instruction. -/
def guideTemplates : Registry :=
  ⟨[⟨"t", none,
    [("guide", { heading := some ⟨some "Guide", none⟩, instructions := ["Be brief."] })]⟩]⟩

/-- A setting whose checker fails on one text. -/
def guideSetting : Setting where
  checker := fun content _ => if content = "down" then .error "unreachable" else .pass

/-- A document with a wrong heading is opened. -/
def draftOpened : Turn where
  event := .opened "a.md" "# Draft\n"
  checker := guideSetting.checker

/-- What is wrong with the heading. -/
def draftDiagnostic : Diagnostic :=
  ⟨⟨⟨0, 0⟩, ⟨0, 7⟩⟩, .headingConst, "Expected title \"Guide\", but found \"Draft\""⟩

/-- The document is changed to a text on which the checker fails. -/
def guideWritten : Turn where
  event := .changed "a.md" ["# Guide\n\ndown\n"]
  checker := guideSetting.checker

/-- The template file is emptied. -/
def templatesEmptied : Turn where
  event := .templatesChanged "t.json" (.ok .empty)
  checker := guideSetting.checker

theorem shown_after_draft_opened :
    ((start guideTemplates).takeAll guideSetting [draftOpened]).shown "a.md" =
      some [draftDiagnostic] := by
  obtain ⟨before, last, after, hturns, -, -, -, -, hshown⟩ :=
    shown_after_last_check guideSetting guideTemplates [draftOpened] "a.md" (by decide +kernel)
  obtain ⟨rfl, rfl, rfl⟩ : before = [] ∧ last = draftOpened ∧ after = [] := by
    cases before with
    | nil => simpa [eq_comm] using hturns
    | cons first rest => simp at hturns
  have hdiagnoses : (((start guideTemplates).takeAll guideSetting []).take guideSetting
      draftOpened).session.diagnoses? (guideSetting.during draftOpened) "a.md" =
      some [draftDiagnostic] := by
    decide +kernel
  -- An opening checks its document alone, so its check is come to.
  rw [hshown.reached trivial, hdiagnoses, Option.some_or]

/-- Diagnostics are left standing when the document is changed to a text on which the checker
    fails, and when its templates disappear: they are those of a heading and of a template
    that are not there any more. -/
theorem outdated_diagnostics_stay :
    ¬ ((start guideTemplates).takeAll guideSetting [draftOpened, guideWritten]).UpToDate
      guideSetting "a.md" ∧
    ¬ ((start guideTemplates).takeAll guideSetting [draftOpened, templatesEmptied]).UpToDate
      guideSetting "a.md" := by
  constructor
  · apply @not_upToDate _ _ _ draftDiagnostic []
    · decide +kernel
    · decide +kernel
  · apply @not_upToDate _ _ _ draftDiagnostic []
    · decide +kernel
    · decide +kernel

end Scene

end Rubric.Editor
