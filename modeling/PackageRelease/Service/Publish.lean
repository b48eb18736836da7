/-
PackageRelease/Service/Publish.lean

Sending coordinates to the metadata service, once.

Whatever the service does, the result is an acknowledgement or a failure that
tells what went wrong: no connection, no answer in time, an answer that is no
success, or a success that cannot be understood.  Nothing is tried twice.

    transport       mishap → complaint
    classify        complaint → failure
    judge           final answer → acknowledgement or failure
-/
import PackageRelease.Run.Attempt
import PackageRelease.Service.Transport

namespace PackageRelease

namespace Service

/-! ### Failures -/

/-- The failure that a complaint of the transport amounts to.  Whether there was a connection is
looked at first, so a connection that took the system too long is no slow service. -/
def classify (address : String) (limit : Duration) (complaint : Complaint) : Failure :=
  if complaint.isConnect then .connectivity address complaint.message
  else if complaint.isTimeout then .timeout limit
  else .request complaint.message

/-- The failure that a mishap amounts to. -/
def Transport.failure (transport : Transport) (address : String) (limit : Duration)
    (mishap : Mishap) : Failure :=
  classify address limit (transport.complaint mishap)

/-- What an answer that is no success says: its text, or else the reason of its status.  A body
that cannot be read in full says nothing. -/
def Reply.detail (decoders : Charset.Decoders) (reply : Reply) : String :=
  let text :=
    match reply.read decoders with
    | .ok text => trim text
    | .error _ => ""
  if text.isEmpty then reason reply.status else text

/-! ### Sending -/

section

variable (transport : Transport) (address : String) (limit : Duration)

/-- What a final answer amounts to. -/
def judge (reply : Reply) : Attempt Acknowledgement :=
  if reply.isSuccess then do
    let text ← Attempt.ofExcept <|
      (reply.read transport.decoders).mapError (transport.failure address limit)
    Attempt.ofExcept ((Acknowledgement.decode text).mapError .invalidResponse)
  else do
    Attempt.note (.rejected reply.status)
    .fail (.server reply.status (reply.detail transport.decoders))

/-- What comes of a request that is sent to the address. -/
def converse (conversation : Conversation) : Attempt Acknowledgement := do
  let reply ← Attempt.ofExcept <|
    (conversation.result redirectLimit).mapError (transport.failure address limit)
  judge transport address limit reply

end

/-- The acknowledgement of some coordinates. -/
def publish (transport : Transport) (conversation : Conversation) (credentials : Credentials)
    (limit : Duration) (coordinates : Coordinates) : Attempt Acknowledgement := do
  let address := endpoint credentials.host
  Attempt.note (.publishing address coordinates)
  match Url.parse? address with
  | none => .fail (transport.failure address limit .badAddress)
  | some url =>
    let requests := conversation.requests redirectLimit (request url credentials coordinates)
    Attempt.happenAll (requests.map .request)
    converse transport address limit conversation

/-- The acknowledgement of some coordinates that are sent with a client of their own. -/
def submit (transport : Transport) (conversation : Conversation) (credentials : Credentials)
    (limit : Duration) (coordinates : Coordinates) : Attempt Acknowledgement := do
  Attempt.ofExcept (transport.setUp.mapError .request)
  publish transport conversation credentials limit coordinates

end Service

end PackageRelease
