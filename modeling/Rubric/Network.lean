/-
  Rubric.Network

  Requests over HTTP.

  A network is a function from requests to replies; a request that gets no reply
  has none. Fetching a text fails on every reply that reports an error.
-/
import Rubric.Failure

namespace Rubric

/-- What is asked for. -/
inductive HttpMethod where
  | get
  | post
deriving DecidableEq, Repr, Inhabited

/-- A request. -/
structure HttpRequest where
  method : HttpMethod := .get
  url : String
  body : String := ""
deriving DecidableEq, Repr, Inhabited

/-- A reply. -/
structure HttpReply where
  status : Nat
  body : String
deriving DecidableEq, Repr, Inhabited

/-- What answers requests. -/
abbrev Network := HttpRequest → Option HttpReply

/-- The network that nothing can be reached on. -/
def Network.none : Network := fun _ => Option.none

/-- Whether a reply brings what was asked for. -/
def HttpReply.isSuccess (reply : HttpReply) : Bool :=
  200 ≤ reply.status && reply.status < 300

/-- The text at an address. -/
def Network.fetch (network : Network) (url : String) : Except Failure String :=
  match network { url := url } with
  | some reply => if reply.status < 400 then .ok reply.body else .error ⟨[], .http⟩
  | Option.none => .error ⟨[], .http⟩

/-- The standard phrases of the status codes. -/
def statusPhrases : List (Nat × String) :=
  [(100, "Continue"), (101, "Switching Protocols"), (102, "Processing"), (103, "Early Hints"),
   (200, "OK"), (201, "Created"), (202, "Accepted"), (203, "Non Authoritative Information"),
   (204, "No Content"), (205, "Reset Content"), (206, "Partial Content"), (207, "Multi-Status"),
   (208, "Already Reported"), (226, "IM Used"), (300, "Multiple Choices"),
   (301, "Moved Permanently"), (302, "Found"), (303, "See Other"), (304, "Not Modified"),
   (305, "Use Proxy"), (307, "Temporary Redirect"), (308, "Permanent Redirect"),
   (400, "Bad Request"), (401, "Unauthorized"), (402, "Payment Required"), (403, "Forbidden"),
   (404, "Not Found"), (405, "Method Not Allowed"), (406, "Not Acceptable"),
   (407, "Proxy Authentication Required"), (408, "Request Timeout"), (409, "Conflict"),
   (410, "Gone"), (411, "Length Required"), (412, "Precondition Failed"),
   (413, "Payload Too Large"), (414, "URI Too Long"), (415, "Unsupported Media Type"),
   (416, "Range Not Satisfiable"), (417, "Expectation Failed"), (418, "I'm a teapot"),
   (421, "Misdirected Request"), (422, "Unprocessable Entity"), (423, "Locked"),
   (424, "Failed Dependency"), (425, "Too Early"), (426, "Upgrade Required"),
   (428, "Precondition Required"), (429, "Too Many Requests"),
   (431, "Request Header Fields Too Large"), (451, "Unavailable For Legal Reasons"),
   (500, "Internal Server Error"), (501, "Not Implemented"), (502, "Bad Gateway"),
   (503, "Service Unavailable"), (504, "Gateway Timeout"), (505, "HTTP Version Not Supported"),
   (506, "Variant Also Negotiates"), (507, "Insufficient Storage"), (508, "Loop Detected"),
   (510, "Not Extended"), (511, "Network Authentication Required")]

/-- A status code with its phrase. -/
def statusText (status : Nat) : String :=
  let phrase := ((statusPhrases.find? fun p => p.1 == status).map Prod.snd).getD
    "<unknown status code>"
  s!"{status} {phrase}"

end Rubric
