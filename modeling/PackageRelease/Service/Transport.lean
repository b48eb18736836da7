/-
PackageRelease/Service/Transport.lean

The transport that carries requests and answers.

It sends a request, follows redirects up to a limit, and brings a final answer
or reports what went wrong.  What it does with what the service does is told
here (`Conversation.requests`, `Conversation.result`).  Whether a client can be
set up at all, how a mishap is reported and how the lesser-known character sets
are read is up to it and comes in as a `Transport`:

    mishap            is_connect   is_timeout
    notConnected      yes          if it was the system that gave up
    lateConnection    no           yes
    lateAnswer        no           yes
    any other         no           no

That is what it is documented to report (`Transport.Documented`), and nothing
but the words are left to it then (`Transport.ofWording`).
-/
import PackageRelease.Service.Reply

namespace PackageRelease

namespace Service

/-! ### Mishaps -/

/-- What can go wrong below the level of requests and answers. -/
inductive Mishap where
  /-- The address is no address. -/
  | badAddress
  | notConnected
  /-- The time is up before there is a connection. -/
  | lateConnection
  /-- There is a connection, but the time is up before all of the answer is there. -/
  | lateAnswer
  /-- The connection breaks off, or brings something that is no answer. -/
  | broken
  | tooManyRedirects
deriving DecidableEq, Repr

/-- How the transport reports a mishap. -/
structure Complaint where
  /-- The connection could not be made. -/
  isConnect : Bool
  /-- It took too long. -/
  isTimeout : Bool
  /-- Its words, and those of what caused it. -/
  message : String
deriving DecidableEq, Repr

/-- What is up to the transport. -/
structure Transport where
  /-- What comes of setting up a client: there is one, or the words for why there is none. -/
  setUp : Except String Unit
  complaint : Mishap → Complaint
  decoders : Charset.Decoders

namespace Transport

/-- The transport reports its mishaps as it is documented to.  Where no connection can be made, that
may have taken the system too long. -/
structure Documented (transport : Transport) : Prop where
  isConnect_iff : ∀ mishap, (transport.complaint mishap).isConnect ↔ mishap = .notConnected
  isTimeout_iff : ∀ mishap, mishap ≠ .notConnected →
    ((transport.complaint mishap).isTimeout ↔ mishap = .lateConnection ∨ mishap = .lateAnswer)

/-- A client can be set up. -/
def CanStart (transport : Transport) : Prop := transport.setUp = .ok ()

/-- A transport that can start, that reports what it is documented to in the given words, and that
reads no other character sets. -/
def ofWording (wording : Mishap → String) : Transport where
  setUp := .ok ()
  complaint mishap :=
    ⟨mishap == .notConnected, mishap == .lateConnection || mishap == .lateAnswer, wording mishap⟩
  decoders _ := none

theorem documented_ofWording (wording : Mishap → String) : (ofWording wording).Documented where
  isConnect_iff mishap := by simp [ofWording]
  isTimeout_iff mishap _ := by simp [ofWording]

theorem canStart_ofWording (wording : Mishap → String) : (ofWording wording).CanStart := rfl

end Transport

/-! ### Sending -/

/-- The mishap of a service that sends nothing more. -/
def Ending.mishap : Ending → Mishap
  | hangsUp => .broken
  | fallsSilent => .lateAnswer

/-- How many redirects are followed. -/
def redirectLimit : Nat := 10

namespace Conversation

/-- The requests that are read when `request` is sent and `left` redirects are followed. -/
def requests (left : Nat) (request : Request) : Conversation → List Request
  | refused | ignored | unread => []
  | silent | hungUp | garbled | answered _ => [request]
  | redirected redirect next =>
    request ::
      match left with
      | 0 => []
      | left + 1 => next.requests left (request.redirected redirect)
termination_by structural conversation => conversation

/-- The final answer when `left` redirects are followed, or why there is none. -/
def result (left : Nat) : Conversation → Except Mishap Reply
  | refused => .error .notConnected
  | ignored => .error .lateConnection
  | silent => .error .lateAnswer
  | unread | hungUp | garbled => .error .broken
  | answered reply => if reply.isProvisional then .error reply.ending.mishap else .ok reply
  | redirected _ next =>
    match left with
    | 0 => .error .tooManyRedirects
    | left + 1 => next.result left
termination_by structural conversation => conversation

end Conversation

/-- The text of the body of an answer, or why it cannot be read in full. -/
def Reply.read (decoders : Charset.Decoders) (reply : Reply) : Except Mishap String :=
  if reply.isComplete then .ok (reply.text decoders) else .error reply.ending.mishap

end Service

end PackageRelease
