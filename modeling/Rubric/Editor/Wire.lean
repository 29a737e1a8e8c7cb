/-
  Rubric.Editor.Wire

  The messages of the language server protocol as JSON.

  A message names a method. One with an identifier is a question and gets a reply
  with the same identifier; the others are notices.
-/
import Rubric.Editor.Server
import Rubric.Json.Shape
import Rubric.Json.Writer

namespace Rubric.Editor

open Rubric.Json

/-! ## What the server sends -/

/-- What the server can do. -/
def abilitiesJson : Json :=
  .object [
    ("capabilities", .object [
      ("textDocumentSync", .object [("openClose", .bool true), ("change", .ofNat 1),
        ("save", .bool true)]),
      ("hoverProvider", .bool true), ("documentSymbolProvider", .bool true)]),
    ("serverInfo", .object [("name", .string "doc-structure-ls"), ("version", .string "0.1.0")])]

/-- The JSON form of an explanation. -/
def Hover.toJson (h : Hover) : Json :=
  .object (("contents", .object [("kind", .string "markdown"), ("value", .string h.text)])
    :: (h.range.map fun r => ("range", r.toJson)).toList)

/-- The JSON form of a reply. -/
def Reply.toJson : Reply → Json
  | .abilities => abilitiesJson
  | .nothing | .hover none | .symbols none => .null
  | .hover (some h) => h.toJson
  | .symbols (some entries) => .array (symbolsToJson entries)

/-- The number of a refusal. -/
def Refusal.code : Refusal → Int
  | .notInitialized => -32002
  | .invalidRequest => -32600
  | .unknownMethod _ => -32601
  | .invalidParameters _ => -32602
  | .unreadable => -32700

/-- The text of a refusal. -/
def Refusal.toText : Refusal → String
  | .notInitialized => "Server not initialized"
  | .invalidRequest => "Invalid request"
  | .unknownMethod _ => "Method not found"
  | .invalidParameters reason => s!"Invalid params: {reason}"
  | .unreadable => "Parse error"

/-- The JSON form of a refusal. -/
def Refusal.toJson (r : Refusal) : Json :=
  .object ([("code", .number (.negative r.code.natAbs)), ("message", .string r.toText)]
    ++ (match r with
      | .unknownMethod method => [("data", .string method)]
      | _ => []))

/-- The JSON form of a message, as a method and its parameters. -/
def Message.toJson : Message → Json
  | .log urgency text =>
    .object [("method", .string "window/logMessage"),
      ("params", .object [("type", .ofNat urgency.number), ("message", .string text)])]
  | .diagnostics uri items =>
    .object [("method", .string "textDocument/publishDiagnostics"),
      ("params", .object [("uri", .string uri), ("diagnostics", arrayOf Diagnostic.toJson items)])]

/-- The version of the protocol that frames carry. -/
def versionMember : String × Json := ("jsonrpc", .string "2.0")

/-- A message as it is sent. -/
def Message.frame (message : Message) : Json :=
  match message.toJson with
  | .object members => .object (versionMember :: members)
  | value => value

/-- A reply as it is sent. -/
def replyFrame (id : Json) : Except Refusal Reply → Json
  | .ok reply => .object [versionMember, ("result", reply.toJson), ("id", id)]
  | .error refusal => .object [versionMember, ("error", refusal.toJson), ("id", id)]

/-! ## What the server receives -/

/-- The value at the end of a path of members. -/
def member? (path : List String) (value : Json) : Option Json :=
  path.foldl (fun v name => v.bind (Json.get? name)) (some value)

/-- The member of an object that has to be there. -/
def need (name : String) (value : Json) : Except Mismatch Json :=
  match value with
  | .object _ =>
    match value.get? name with
    | some v => .ok v
    | none => .error (.missing name)
  | _ => .error (.missing name)

/-- A value read by a reader of shapes. -/
def readAs {α : Type} (read : Reader α) (value : Json) : Except Mismatch α :=
  match readJson read value with
  | .ok x => .ok x
  | .error (.mismatch e) => .error e
  | .error (.flaw _) => .error (.missing "value")

/-- The address of the document that parameters speak of. -/
def readUri (params : Json) : Except Mismatch String := do
  readAs readText (← need "uri" (← need "textDocument" params))

/-- The question of a method. -/
def readQuestion (method : String) (params : Option Json) : Except Refusal Question :=
  let invalid {α : Type} (result : Except Mismatch α) : Except Refusal α :=
    match result with
    | .ok x => .ok x
    | .error e => .error (.invalidParameters e.toText)
  let given : Except Refusal Json :=
    match params with
    | some p => .ok p
    | none => .error (.invalidParameters "Missing params field")
  match method with
  | "initialize" => do
    let _ ← invalid (need "capabilities" (← given))
    return .start
  | "shutdown" =>
    match params with
    | none => .ok .shutdown
    | some p =>
      let text := compact p
      .error (.invalidParameters s!"Unexpected params: {text}")
  | "textDocument/documentSymbol" => do return .symbols (← invalid (readUri (← given)))
  | "textDocument/hover" => do
    let params ← given
    let uri ← invalid (readUri params)
    let line ← invalid (do
      readAs (readUnsigned "u32" 32) (← need "line" (← need "position" params)))
    return .hover uri line
  | method => .error (.unknownMethod method)

/-- The text of a document that parameters bring. -/
def readDocumentText (params : Json) : Except Mismatch String := do
  readAs readText (← need "text" (← need "textDocument" params))

/-- The notice of a method, if it is one the server knows. -/
def readNotice? (method : String) (params : Option Json) : Option Notice :=
  let params := params.getD .null
  match method with
  | "initialized" => some .initialized
  | "exit" => some .exit
  | "textDocument/didOpen" =>
    match readUri params, readDocumentText params with
    | .ok uri, .ok text => some (.opened uri text)
    | _, _ => none
  | "textDocument/didChange" =>
    match readUri params, params.get? "contentChanges" with
    | .ok uri, some (.array changes) =>
      (changes.mapM fun c => (readAs readText (c.get? "text" |>.getD .null)).toOption).map
        (.changed uri)
    | _, _ => none
  | "textDocument/didSave" =>
    match readUri params, readAs (readOption readText) ((params.get? "text").getD .null) with
    | .ok uri, .ok text => some (.saved uri text)
    | _, _ => none
  | "textDocument/didClose" => (readUri params).toOption.map .closed
  | _ => none

/-- What a server answers to a question. -/
def Server.reply (server : Server) (method : String) (params : Option Json) :
    Server × Except Refusal Reply :=
  match readQuestion method params, server.phase, method with
  | .ok question, _, _ => server.ask question
  | .error refusal, .fresh, "initialize" => (server, .error refusal)
  | .error refusal, .running, method =>
    (server, .error (if method = "initialize" then .invalidRequest else refusal))
  | .error (.unknownMethod method), _, _ => (server, .error (.unknownMethod method))
  | .error _, phase, _ => (server, .error (Server.refusal phase))

variable {m : Type → Type} [Monad m]

/-- Takes a message, and sends what there is to send. -/
def Server.receive (host : Host m) (server : Server) (message : Json) :
    m (Server × List Json) := do
  match message.get? "method", message.get? "id" with
  | some (.string method), some id =>
    let (server, reply) := server.reply method (message.get? "params")
    pure (server, [replyFrame id reply])
  | some (.string method), none =>
    match readNotice? method (message.get? "params") with
    | none => pure (server, [])
    | some notice => do
      let (server, messages) ← server.tell host notice
      pure (server, messages.map Message.frame)
  | _, _ => pure (server, [])

end Rubric.Editor
