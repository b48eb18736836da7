/-
PackageRelease/Service/Reply.lean

What the metadata service answers.

A service may refuse the connection or let it go unanswered, fall silent, hang
up, answer something that is no answer, or name another address to ask.  An
answer has a status and a body.  The body is whole unless bytes of it are
missing; then the service has hung up or has fallen silent after what it sent.
Three statuses never have a body.
-/
import PackageRelease.Json.Record
import PackageRelease.Service.Request
import PackageRelease.Text.Charset
import PackageRelease.Text.Outline

namespace PackageRelease

namespace Service

/-! ### Answers -/

/-- What a service does once it has nothing more to send. -/
inductive Ending where
  | hangsUp
  | fallsSilent
deriving DecidableEq, Repr

/-- An answer. -/
structure Reply where
  status : Nat
  contentType : Option String
  body : List UInt8
  /-- How many bytes of the body are announced but not sent. -/
  missing : Nat
  ending : Ending
deriving DecidableEq, Repr

/-- What a service does when it is connected to. -/
inductive Conversation where
  /-- It does not accept the connection. -/
  | refused
  /-- It lets the attempt to connect go unanswered. -/
  | ignored
  /-- It hangs up before it has read anything. -/
  | unread
  /-- It reads the request and falls silent. -/
  | silent
  /-- It reads the request and hangs up. -/
  | hungUp
  /-- It reads the request and sends something that is no answer. -/
  | garbled
  /-- It reads the request and answers.  That is the end of it, also for a status that redirects
  without an address to go to. -/
  | answered (reply : Reply)
  /-- It reads the request and redirects it; `next` is what is done at the address. -/
  | redirected (redirect : Redirect) (next : Conversation)
deriving DecidableEq, Repr

namespace Reply

/-- The status means success. -/
def isSuccess (reply : Reply) : Bool := 200 ≤ reply.status && reply.status < 300

/-- Another answer is to follow.  That is never so behind 101, where the two would go on in another
protocol. -/
def isProvisional (reply : Reply) : Bool := reply.status < 200 && reply.status != 101

/-- An answer of the status has no body. -/
def hasNoBody (reply : Reply) : Bool :=
  reply.status == 101 || reply.status == 204 || reply.status == 304

/-- The body is whole. -/
def isComplete (reply : Reply) : Bool := reply.hasNoBody || reply.missing == 0

/-- The text of the body. -/
def text (decoders : Charset.Decoders) (reply : Reply) : String :=
  if reply.hasNoBody then "" else (Charset.ofMediaType reply.contentType).decode decoders reply.body

end Reply

/-! ### Statuses -/

/-- The statuses of answers that are no success and have a standard reason. -/
def reasons : List (Nat × String) := [
  (101, "Switching Protocols"),
  (300, "Multiple Choices"), (301, "Moved Permanently"), (302, "Found"), (303, "See Other"),
  (304, "Not Modified"), (305, "Use Proxy"), (307, "Temporary Redirect"),
  (308, "Permanent Redirect"), (400, "Bad Request"), (401, "Unauthorized"),
  (402, "Payment Required"), (403, "Forbidden"), (404, "Not Found"),
  (405, "Method Not Allowed"), (406, "Not Acceptable"),
  (407, "Proxy Authentication Required"), (408, "Request Timeout"), (409, "Conflict"),
  (410, "Gone"), (411, "Length Required"), (412, "Precondition Failed"),
  (413, "Payload Too Large"), (414, "URI Too Long"), (415, "Unsupported Media Type"),
  (416, "Range Not Satisfiable"), (417, "Expectation Failed"), (418, "I'm a teapot"),
  (421, "Misdirected Request"), (422, "Unprocessable Entity"), (423, "Locked"),
  (424, "Failed Dependency"), (425, "Too Early"), (426, "Upgrade Required"),
  (428, "Precondition Required"), (429, "Too Many Requests"),
  (431, "Request Header Fields Too Large"), (451, "Unavailable For Legal Reasons"),
  (500, "Internal Server Error"), (501, "Not Implemented"), (502, "Bad Gateway"),
  (503, "Service Unavailable"), (504, "Gateway Timeout"), (505, "HTTP Version Not Supported"),
  (506, "Variant Also Negotiates"), (507, "Insufficient Storage"), (508, "Loop Detected"),
  (510, "Not Extended"), (511, "Network Authentication Required")]

/-- The standard reason of a status, empty if it has none. -/
def reason (status : Nat) : String := (reasons.lookup status).getD ""

/-! ### Acknowledgements -/

/-- What the service says once it has taken coordinates. -/
structure Acknowledgement where
  message : String
deriving DecidableEq, Repr

namespace Acknowledgement

/-- How an acknowledgement stands in a JSON text. -/
def shape : Json.Shape Acknowledgement where
  name := "MetadataAck"
  fields := ["message"]
  make field := do return ⟨← field "message"⟩

/-- The acknowledgement that a text consists of, or the words for what is wrong with it. -/
def decode (text : String) : Except String Acknowledgement := shape.decode text

/-- The acknowledgement with its part. -/
def outline (ack : Acknowledgement) : Outline :=
  .record "MetadataAck" [("message", .quoted ack.message)]

end Acknowledgement

end Service

end PackageRelease
