/-
  Rubric.Editor.Server

  The language server: a session with a beginning and an end.

  Before it is initialized the server answers nothing, and after it was shut down
  nothing any more. Whatever it says by itself comes only after it was initialized.
-/
import Rubric.Editor.Session
import Rubric.Editor.Watch
import Rubric.Lint

namespace Rubric.Editor

/-- Where a server is in its life. -/
inductive Phase where
  | fresh
  | running
  | stopped
  /-- The server has been told to leave. -/
  | gone
deriving DecidableEq, Repr, Inhabited

/-- A server. -/
structure Server where
  setting : Setting := {}
  /-- The template file, where one is configured. -/
  templatePath : Option String := none
  phase : Phase := .fresh
  session : Session
  watch : Option Watch := none

/-- What an editor asks. -/
inductive Question where
  | start
  | shutdown
  | hover (uri : String) (line : Nat)
  | symbols (uri : String)
deriving DecidableEq, Repr, Inhabited

/-- What an editor tells. -/
inductive Notice where
  | initialized
  | opened (uri text : String)
  | changed (uri : String) (texts : List String)
  | saved (uri : String) (text : Option String)
  | closed (uri : String)
  | exit
deriving DecidableEq, Repr, Inhabited

/-- What a question is answered with. -/
inductive Reply where
  /-- What the server can do. -/
  | abilities
  | nothing
  | hover (hover : Option Hover)
  | symbols (symbols : Option (List Symbol))
deriving Repr, Inhabited

/-- Why a question is not answered. -/
inductive Refusal where
  | notInitialized
  | invalidRequest
  | unknownMethod (method : String)
  | invalidParameters (reason : String)
  | unreadable
deriving DecidableEq, Repr, Inhabited

namespace Server

/-- What a server that is not running answers. -/
def refusal : Phase → Refusal
  | .fresh => .notInitialized
  | _ => .invalidRequest

/-- What reaches the editor of what the server says: nothing before it is
    initialized, and nothing after it has left. -/
def heard (server : Server) (messages : List Message) : List Message :=
  match server.phase with
  | .running | .stopped => messages
  | .fresh | .gone => []

/-- Answers a question. -/
def ask (server : Server) (question : Question) : Server × Except Refusal Reply :=
  match question, server.phase with
  | .start, .fresh => ({ server with phase := .running }, .ok .abilities)
  | .start, _ => (server, .error .invalidRequest)
  | .shutdown, .running => ({ server with phase := .stopped }, .ok .nothing)
  | .hover uri line, .running =>
    (server, .ok (.hover (server.session.hover? server.setting uri line)))
  | .symbols uri, .running => (server, .ok (.symbols (server.session.symbols? uri)))
  | _, phase => (server, .error (refusal phase))

/-- A server with the session that a step leaves, and what is said. -/
def after (server : Server) (step : Session × List Message) : Server × List Message :=
  ({ server with session := step.1 }, step.2)

variable {m : Type → Type} [Monad m]

/-- Begins to watch the template file, if it is a file. -/
def beginWatch (host : Host m) (server : Server) : m (Server × List Message) := do
  let greeting := Message.log .info "doc-structure-ls initialized"
  match server.templatePath with
  | none => pure (server, [greeting])
  | some path =>
    if Location.isUrl path then pure (server, [greeting])
    else match ← Watch.start host path with
      | .ok watch => pure ({ server with watch := some watch }, [greeting])
      | .error reason =>
        pure (server, [greeting, .log .warning s!"Template file will not be reloaded: {reason}"])

/-- Takes notice of something. A server that is not running ignores all but its
    dismissal. -/
def tell (host : Host m) (server : Server) (notice : Notice) : m (Server × List Message) :=
  match notice, server.phase with
  | .exit, _ => pure ({ server with phase := .gone }, [])
  | .initialized, .running => beginWatch host server
  | .opened uri text, .running => pure (server.after (server.session.opened server.setting uri text))
  | .changed uri texts, .running =>
    pure (server.after (server.session.changed server.setting uri texts))
  | .saved uri text, .running => pure (server.after (server.session.saved server.setting uri text))
  | .closed uri, .running => pure (server.after (server.session.closed uri))
  | _, _ => pure (server, [])

/-- Loads the templates again. The truth value is whether they are new. -/
def reload (host : Host m) (server : Server) : m (Server × List Message × Bool) := do
  let (session, message, isNew) :=
    server.session.reloaded (← Registry.loadOrBuiltIn host server.templatePath)
  let server := { server with session := session }
  return (server, server.heard [message], isNew)

/-- Takes up a change of the template file with what loading it again gave, and checks the
    open documents. -/
def templatesChanged (server : Server) (path : String) (result : Except Failure Registry) :
    Server × List Message :=
  let (server, messages) :=
    server.after (server.session.templatesChanged server.setting path result)
  (server, server.heard messages)

/-- The file of a name in the watched directory has changed. -/
def fileChanged (host : Host m) (server : Server) (path : String) : m (Server × List Message) := do
  if !server.session.held && server.watch.any fun w => w.filePath == path then
    return server.templatesChanged path (← Registry.loadOrBuiltIn host server.templatePath)
  else pure (server, [])

/-- The templates that a server starts with. A template file that cannot be read
    does not keep it from starting. -/
def startRegistry (host : Host m) (config : Config) : m (Except Failure Registry) := do
  match ← Registry.loadOrBuiltIn host config.templatePath with
  | .ok registry => pure (.ok registry)
  | .error failure =>
    pure (if config.templatePath.isSome then Registry.builtIn else .error failure)

/-- The server that a configuration starts. -/
def start (host : Host m) (config : Config) : m (Except Failure Server) := do
  return (← startRegistry host config).map fun registry =>
    { setting :=
        { template := config.template
          limit := config.timeout
          checker := config.checker host.network }
      templatePath := config.templatePath
      session := { registry := registry } }

/-- The server that flags start in the working directory. -/
def startIn (host : Host m) (flags : Flags) : m (Except Failure Server) := do
  match ← Config.resolve host flags host.here with
  | .error failure => pure (.error failure)
  | .ok config => start host config

end Server

end Rubric.Editor
