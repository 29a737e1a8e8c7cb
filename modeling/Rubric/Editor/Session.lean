/-
  Rubric.Editor.Session

  What a language server knows and says while an editor works.

  The server keeps the open documents with their outlines and the templates that
  are in force. A change of a document is followed by diagnostics of its new
  text; a document that is closed loses its diagnostics. Checking looks at copies
  of the document and of the rules, which are taken one after the other. When the
  templates change, the open documents are checked one after another as well, and
  a check that never ends keeps all that comes behind it waiting.
-/
import Rubric.Conformance.Limit
import Rubric.Editor.Diagnostic
import Rubric.Editor.RuleAt
import Rubric.Editor.Symbol
import Rubric.Markdown.Blocks
import Rubric.Template.Registry

namespace Rubric.Editor

/-! ## What is said -/

/-- How urgent a line of the log is. -/
inductive Urgency where
  | error
  | warning
  | info
deriving DecidableEq, Repr, Inhabited

/-- The number by which editors know an urgency. -/
def Urgency.number : Urgency → Nat
  | .error => 1
  | .warning => 2
  | .info => 3

/-- What the server says without being asked. -/
inductive Message where
  | log (urgency : Urgency) (text : String)
  /-- The diagnostics of a document, which replace those before. -/
  | diagnostics (uri : String) (items : List Diagnostic)
deriving DecidableEq, Repr, Inhabited

/-- An explanation with the stretch it is about. -/
structure Hover where
  text : String
  range : Option Range
deriving DecidableEq, Repr, Inhabited

/-! ## What is known -/

/-- An open document. -/
structure OpenDocument where
  source : String
  outline : Document
deriving Repr, Inhabited

/-- The open document of a text. -/
def OpenDocument.ofText (source : String) : OpenDocument :=
  ⟨source, Markdown.outline source⟩

/-- An order in which documents are taken up. -/
structure Arrangement where
  arrange : List String → List String
  perm : ∀ uris, (arrange uris).Perm uris

/-- The order in which a session lists its documents. -/
def Arrangement.listed : Arrangement :=
  ⟨id, List.Perm.refl⟩

/-- What stays as it is while the server runs. -/
structure Setting where
  /-- The template that documents are checked against; the first one where none is
      named. -/
  template : Option String := none
  limit : Option Duration := none
  checker : Checker := .skip
  /-- The order in which the open documents are taken up when all are checked. -/
  order : Arrangement := .listed

/-- What changes while the server runs. -/
structure Session where
  registry : Registry
  /-- The open documents by their addresses. -/
  documents : List (String × OpenDocument) := []
  /-- Whether a check that followed the last change of the templates never ends.
      Changes are taken up one after another, so none is taken up any more. -/
  held : Bool := false
deriving Inhabited

namespace Session

/-- The open document of an address. -/
def document? (s : Session) (uri : String) : Option OpenDocument :=
  Fields.get? uri s.documents

/-- The addresses of the open documents in order. -/
def uris (s : Session) : List String :=
  (s.documents.map Prod.fst).mergeSort fun a b => decide (a ≤ b)

/-- Keeps the text of a document. -/
def store (s : Session) (uri text : String) : Session :=
  { s with documents := Fields.insert uri (.ofText text) s.documents }

/-- Forgets a document. -/
def forget (s : Session) (uri : String) : Session :=
  { s with documents := s.documents.filter fun d => d.1 != uri }

/-! ## Checking -/

/-- The rules that documents are held to. -/
inductive Rules where
  /-- There is no template at all. -/
  | none
  /-- There is no template of the name that is set. -/
  | missing (name : String)
  | table (rules : List (String × Rule))
deriving Inhabited

/-- The name of the template in force. -/
def activeName? (setting : Setting) (registry : Registry) : Option String :=
  setting.template <|> registry.names.head?

/-- The rules in force. -/
def rules (setting : Setting) (s : Session) : Rules :=
  match activeName? setting s.registry with
  | .none => .none
  | some name =>
    match s.registry.get? name with
    | some template => .table template.sections
    | .none => .missing name

/-- What is said about a document after checking it against rules. `none` says that
    checking never ends. -/
def verdict? (setting : Setting) (uri : String) (d : OpenDocument) (table : List (String × Rule)) :
    Option Message :=
  (checkWithin setting.limit setting.checker table d.outline).map fun result =>
    match result with
    | .ok violations => .diagnostics uri (violations.map (Diagnostic.ofViolation d.source))
    | .error failure => .log .error s!"Validation failed: {failure.toText}"

/-- Checks an open document and says what comes of it. -/
def publish (setting : Setting) (s : Session) (uri : String) : List Message :=
  match s.document? uri with
  | .none => []
  | some d =>
    match s.rules setting with
    | .none => []
    | .missing name => [.log .warning s!"Template \"{name}\" not found"]
    | .table table => (verdict? setting uri d table).toList

/-- Whether checking an open document never ends. -/
def stalls (setting : Setting) (s : Session) (uri : String) : Bool :=
  match s.document? uri, s.rules setting with
  | some d, .table table => (verdict? setting uri d table).isNone
  | _, _ => false

/-- The documents up to the first whose check never ends. These are the ones that are come
    to when documents are checked one after another. -/
def reached (setting : Setting) (s : Session) : List String → List String
  | [] => []
  | uri :: rest => uri :: if s.stalls setting uri then [] else s.reached setting rest

/-- Checks the open documents one after another. -/
def publishAll (setting : Setting) (s : Session) : List Message :=
  (s.reached setting (setting.order.arrange s.uris)).flatMap (s.publish setting)

/-! ## What happens to documents -/

/-- A document is opened. -/
def opened (setting : Setting) (s : Session) (uri text : String) : Session × List Message :=
  let s := s.store uri text
  (s, s.publish setting uri)

/-- A document is changed to one text after another. -/
def changed (setting : Setting) (s : Session) (uri : String) (texts : List String) :
    Session × List Message :=
  match texts.getLast? with
  | some text => s.opened setting uri text
  | .none => (s, [])

/-- A document is saved, with its text perhaps. -/
def saved (setting : Setting) (s : Session) (uri : String) (text : Option String) :
    Session × List Message :=
  match text with
  | some text => s.opened setting uri text
  | .none => (s, s.publish setting uri)

/-- A document is closed. -/
def closed (s : Session) (uri : String) : Session × List Message :=
  (s.forget uri, [.diagnostics uri []])

/-! ## What happens to templates -/

/-- Templates have been loaded again, or could not be: then those before stay. The
    truth value is whether they are new. -/
def reloaded (s : Session) (result : Except Failure Registry) : Session × Message × Bool :=
  match result with
  | .ok registry =>
    ({ s with registry := registry }, .log .info s!"Reloaded {registry.size} template(s)", true)
  | .error failure => (s, .log .error s!"Failed to reload templates: {failure.toText}", false)

/-- The template file has changed and been loaded again. A session that is held does not
    take the change up. -/
def templatesChanged (setting : Setting) (s : Session) (path : String)
    (result : Except Failure Registry) : Session × List Message :=
  if s.held then (s, [])
  else
    let (s, message, isNew) := s.reloaded result
    let said := [.log .info s!"Template file changed: {path}", message]
    if isNew then
      let s := { s with held := s.uris.any (s.stalls setting) }
      (s, said ++ s.publishAll setting)
    else (s, said)

/-! ## What is asked -/

/-- The explanation of the rule at a line of a document. -/
def hover? (setting : Setting) (s : Session) (uri : String) (line : Nat) : Option Hover :=
  match s.document? uri, s.rules setting with
  | some d, .table table =>
    (ruleAt d.outline table line).map fun pairing =>
      ⟨explanation pairing.name pairing.rule,
        pairing.paired.heading.map fun h => .ofSpan d.source h.position⟩
  | _, _ => .none

/-- The outline of a document. -/
def symbols? (s : Session) (uri : String) : Option (List Symbol) :=
  (s.document? uri).map fun d => symbolsOf d.source d.outline.sections

end Session

end Rubric.Editor
