/-
  Rubric.Conformance.ChatChecker

  A checker that asks a language model.

  The instruction and the text go to the model as one JSON object inside of a chat
  message, so that nothing in the text can pass for an instruction. The answer has
  to be JSON of a given shape.
-/
import Rubric.Conformance.Checker
import Rubric.Json.Shape
import Rubric.Json.Writer
import Rubric.Network
import Rubric.Project.Config
import Rubric.Text.Blank

namespace Rubric

namespace ChatChecker

open Rubric.Json

/-! ## What is asked -/

/-- What the model is told to be. -/
def systemPrompt : String :=
  "You are a technical editor who evaluates instructions against sections of a document. " ++
  "Strictly evaluate if the supplied content follows the specified instruction. " ++
  "Output your results as JSON."

/-- The shape that the model's answer is held to. -/
def answerSchema : Json :=
  .object [("type", .string "object"), ("required", .array [.string "assessment"]),
    ("properties", .object [
      ("assessment", .object [
        ("description", .string "The result of the evaluation"), ("type", .string "string"),
        ("enum", .array [.string "pass", .string "fail"])]),
      ("explanation", .object [
        ("description", .string "Suggestions for improvement, if any."),
        ("type", .string "string"), ("maxLength", .ofNat 500)])])]

/-- A message of a chat. -/
def message (role content : String) : Json :=
  .object [("role", .string role), ("content", .string content)]

/-- What the model is asked about a text. -/
def question (content instruction : String) : Json :=
  .object [("instruction", .string instruction), ("content", .string content)]

/-- The body of a request. -/
def requestBody (model content instruction : String) : Json :=
  .object [("model", .string model),
    ("messages", .array [message "system" systemPrompt,
      message "user" (compact (question content instruction))]),
    ("stream", .bool false), ("format", answerSchema),
    ("options", .object [("temperature", .ofNat 0)])]

/-- The address of a server without slashes at its end. -/
def trimEndpoint (endpoint : String) : String :=
  String.ofList (Text.dropWhileEnd (· == '/') endpoint.toList)

/-- The request that asks a server. -/
def request (server : ModelServer) (content instruction : String) : HttpRequest :=
  { method := .post
    url := trimEndpoint server.endpoint ++ "/api/chat"
    body := compact (requestBody server.model content instruction) }

/-! ## What is answered -/

/-- The judgement in an answer. -/
inductive Judgement where
  | pass
  | fail
deriving DecidableEq, Repr, Inhabited

/-- The answer of the model. -/
structure Assessment where
  judgement : Judgement
  explanation : Option String
deriving DecidableEq, Repr, Inhabited

/-- The shape of an answer. -/
def assessmentLayout : Layout Assessment where
  name := "Assessment"
  fields := [
    .of "assessment" .required (readVariant .text [("pass", .pass), ("fail", .fail)])
      fun x a => { a with judgement := x },
    .of "explanation" .defaulted (readOption readText) fun x a => { a with explanation := x }]

/-- What a reply of the model says: nothing, or what is missing. -/
def readAnswer (reply : String) : Except Failure (Option String) :=
  match readDocument (assessmentLayout.read .text ⟨.pass, none⟩) (Text.trimString reply) with
  | .error misfit => .error ⟨[s!"Unexpected instruction checker reply: {reply}"], .json misfit⟩
  | .ok ⟨.pass, _⟩ => .ok none
  | .ok ⟨.fail, explanation⟩ => .ok (some (explanation.getD ""))

/-- A message of a chat as it is read: who says what. -/
structure Said where
  role : String
  content : String
deriving DecidableEq, Repr, Inhabited

/-- The shape of a message. -/
def saidLayout : Layout Said where
  name := "ChatMessage"
  fields := [
    .of "role" .required readText fun x s => { s with role := x },
    .of "content" .required readText fun x s => { s with content := x }]

/-- The shape of a reply. -/
def replyLayout : Layout Said where
  name := "ChatResponse"
  fields := [.of "message" .required (saidLayout.read .text ⟨"", ""⟩) fun x _ => x]

/-- What the reply of a server says. -/
def readReply (reply : HttpReply) : Except Failure (Option String) :=
  if !reply.isSuccess then
    .error (Failure.ofText
      s!"Instruction checker returned {statusText reply.status}: {reply.body}")
  else match readDocument (replyLayout.read .text ⟨"", ""⟩) reply.body with
    | .error _ => .error ⟨["Malformed instruction checker response"], .http⟩
    | .ok said => readAnswer said.content

/-- What a server says about a text. -/
def judge (network : Network) (server : ModelServer) (content instruction : String) :
    Except Failure (Option String) :=
  match network (request server content instruction) with
  | some reply => readReply reply
  | none =>
    let endpoint := trimEndpoint server.endpoint
    .error ⟨[s!"Failed to reach instruction checker at {endpoint}"], .http⟩

end ChatChecker

/-- The checker that asks a server. -/
def Checker.chat (network : Network) (server : ModelServer) : Checker :=
  fun content instruction =>
    match ChatChecker.judge network server content instruction with
    | .ok none => .pass
    | .ok (some explanation) => .fail explanation
    | .error failure => .error failure.toText

/-- The checker that a configuration chooses. -/
def Config.checker (network : Network) (config : Config) : Checker :=
  match config.modelServer with
  | some server => .chat network server
  | none => .skip

end Rubric
