/-
PackageRelease/Proofs/Service/Publish.lean

What comes of sending coordinates to the metadata service.

Sending ends well exactly if the service answers in the end with a success
whose body is whole and says an acknowledgement (`publish_outcome_eq_ok_iff`).
All other ends are failures of the phase of the metadata.  Whatever the end is,
at most one request is read for each redirect that is followed and one besides,
and nothing happens besides them but notes in the log.
-/
import PackageRelease.Proofs.Outcome
import PackageRelease.Proofs.Run.Course
import PackageRelease.Proofs.Service.Conversation
import PackageRelease.Proofs.Text.Charset
import PackageRelease.Service.Publish

namespace PackageRelease

namespace Service

/-! ### Bodies -/

namespace Reply

variable {decoders : Charset.Decoders} {reply : Reply} {text : String}

/-- Answers of the status have no body. -/
def IsBodiless (reply : Reply) : Prop := reply.status ∈ [101, 204, 304]

instance (reply : Reply) : Decidable reply.IsBodiless := inferInstanceAs (Decidable (_ ∈ _))

/-- All of the body is there, or there is none. -/
def IsWhole (reply : Reply) : Prop := reply.missing = 0 ∨ reply.IsBodiless

instance (reply : Reply) : Decidable reply.IsWhole := inferInstanceAs (Decidable (_ ∨ _))

/-- The text is what the bytes of the body are read as in the set that the media type states. -/
def Says (decoders : Charset.Decoders) (reply : Reply) (text : String) : Prop :=
  if reply.IsBodiless then text = ""
  else ∃ set, Charset.States reply.contentType set ∧ Charset.Reads decoders set text reply.body

theorem hasNoBody_iff : reply.hasNoBody ↔ reply.IsBodiless := by
  simp [hasNoBody, IsBodiless, or_assoc]

theorem isComplete_iff : reply.isComplete ↔ reply.IsWhole := by
  rw [isComplete, Bool.or_eq_true, hasNoBody_iff, beq_iff_eq, IsWhole, or_comm]

theorem text_eq_iff : reply.text decoders = text ↔ reply.Says decoders text := by
  unfold Reply.text Says
  by_cases bodiless : reply.IsBodiless
  · rw [if_pos (hasNoBody_iff.2 bodiless), if_pos bodiless, eq_comm]
  · rw [if_neg (mt hasNoBody_iff.1 bodiless), if_neg bodiless, Charset.decode_eq_iff]
    constructor
    · exact fun reads => ⟨_, Charset.ofMediaType_eq_iff.1 rfl, reads⟩
    · rintro ⟨set, states, reads⟩
      exact Charset.ofMediaType_eq_iff.2 states ▸ reads

/-- Every body says one text. -/
theorem text_said (decoders : Charset.Decoders) (reply : Reply) :
    reply.Says decoders (reply.text decoders) := text_eq_iff.1 rfl

theorem read_of_isWhole (whole : reply.IsWhole) :
    reply.read decoders = .ok (reply.text decoders) := by
  rw [Reply.read, if_pos (isComplete_iff.2 whole)]

theorem read_of_not_isWhole (cut : ¬ reply.IsWhole) :
    reply.read decoders = .error reply.ending.mishap := by
  rw [Reply.read, if_neg (mt isComplete_iff.1 cut)]

theorem read_eq_ok_iff :
    reply.read decoders = .ok text ↔ reply.IsWhole ∧ reply.Says decoders text := by
  by_cases whole : reply.IsWhole
  · rw [read_of_isWhole whole, Except.ok.injEq, text_eq_iff, and_iff_right whole]
  · simp [read_of_not_isWhole whole, whole]

/-- The status of the answer means success. -/
def IsSuccess (reply : Reply) : Prop := 200 ≤ reply.status ∧ reply.status < 300

instance (reply : Reply) : Decidable reply.IsSuccess := inferInstanceAs (Decidable (_ ∧ _))

theorem isSuccess_iff : reply.isSuccess ↔ reply.IsSuccess := by
  simp [isSuccess, IsSuccess]

/-- The answer is a success with a whole body, and what the body says is the acknowledgement. -/
structure Acknowledges (decoders : Charset.Decoders) (reply : Reply) (ack : Acknowledgement) :
    Prop where
  success : reply.IsSuccess
  whole : reply.IsWhole
  said : ∃ text, reply.Says decoders text ∧ Acknowledgement.decode text = .ok ack

end Reply

variable {transport : Transport} {limit : Duration} {address : String} {reply : Reply}
variable {conversation : Conversation} {credentials : Credentials} {coordinates : Coordinates}

/-! ### The ways of sending -/

/-- Where the endpoint is no address, nothing is sent. -/
theorem publish_of_not_address (h : Url.parse? (endpoint credentials.host) = none) :
    publish transport conversation credentials limit coordinates
      = ⟨.error (transport.failure (endpoint credentials.host) limit .badAddress),
          [.note (.publishing (endpoint credentials.host) coordinates)]⟩ := by
  simp [publish, h, Attempt.note, Attempt.fail]

/-- The requests that the service reads of what is sent to an address. -/
def reading (conversation : Conversation) (url : Url) (credentials : Credentials)
    (coordinates : Coordinates) : Course :=
  (conversation.requests redirectLimit (request url credentials coordinates)).map .request

theorem publish_of_address {url : Url} (h : Url.parse? (endpoint credentials.host) = some url) :
    publish transport conversation credentials limit coordinates
      = ⟨(converse transport (endpoint credentials.host) limit conversation).outcome,
          .note (.publishing (endpoint credentials.host) coordinates) ::
            (reading conversation url credentials coordinates ++
              (converse transport (endpoint credentials.host) limit conversation).course)⟩ := by
  simp [publish, h, reading, Attempt.note]

/-- Where no client can be set up, nothing is sent. -/
theorem submit_of_not_canStart {message : String} (h : transport.setUp = .error message) :
    submit transport conversation credentials limit coordinates
      = ⟨.error (.request message), []⟩ := by
  simp [submit, h, Attempt.ofExcept, Except.mapError]

theorem submit_of_canStart (h : transport.CanStart) :
    submit transport conversation credentials limit coordinates
      = publish transport conversation credentials limit coordinates := by
  rw [Transport.CanStart] at h
  simp [submit, h, Attempt.ofExcept, Except.mapError]

theorem canStart_or_not (transport : Transport) :
    transport.CanStart ∨ ∃ message, transport.setUp = .error message := by
  rcases h : transport.setUp with message | ⟨⟨⟩⟩
  · exact .inr ⟨message, rfl⟩
  · exact .inl h

/-! ### Acknowledgements -/

/-- What is posted to the host is acknowledged: the endpoint is an address, and in the end there is
an answer that acknowledges it. -/
def Acknowledges (transport : Transport) (conversation : Conversation) (host : String)
    (ack : Acknowledgement) : Prop :=
  (Url.parse? (endpoint host)).isSome ∧
    ∃ reply, conversation.LeadsTo (.answered reply) ∧ reply.Acknowledges transport.decoders ack

theorem judge_of_isSuccess (success : reply.IsSuccess) :
    judge transport address limit reply
      = ⟨(reply.read transport.decoders).mapError (transport.failure address limit) >>= fun text =>
          (Acknowledgement.decode text).mapError .invalidResponse, []⟩ := by
  rw [judge, if_pos (Reply.isSuccess_iff.2 success)]
  rcases (reply.read transport.decoders).mapError (transport.failure address limit) with _ | _ <;>
    rfl

theorem judge_of_not_isSuccess (rejected : ¬ reply.IsSuccess) :
    judge transport address limit reply
      = ⟨.error (.server reply.status (reply.detail transport.decoders)),
          [.note (.rejected reply.status)]⟩ := by
  rw [judge, if_neg (mt Reply.isSuccess_iff.1 rejected)]
  rfl

theorem judge_outcome_eq_ok_iff {ack : Acknowledgement} :
    (judge transport address limit reply).outcome = .ok ack ↔
      reply.Acknowledges transport.decoders ack := by
  by_cases success : reply.IsSuccess
  · simp only [judge_of_isSuccess success, bind_eq_ok_iff, mapError_eq_ok_iff, Reply.read_eq_ok_iff]
    constructor
    · rintro ⟨text, ⟨whole, said⟩, decoded⟩
      exact ⟨success, whole, text, said, decoded⟩
    · rintro ⟨-, whole, text, said, decoded⟩
      exact ⟨text, ⟨whole, said⟩, decoded⟩
  · rw [judge_of_not_isSuccess success]
    exact ⟨nofun, fun acknowledges => absurd acknowledges.success success⟩

/-- Without a final answer there is the failure that its lack amounts to. -/
theorem converse_of_error {mishap : Mishap}
    (h : conversation.result redirectLimit = .error mishap) :
    converse transport address limit conversation
      = ⟨.error (transport.failure address limit mishap), []⟩ := by
  rw [converse, h]
  rfl

theorem converse_of_ok (h : conversation.result redirectLimit = .ok reply) :
    converse transport address limit conversation = judge transport address limit reply := by
  rw [converse, h]
  rfl

theorem Reply.IsSuccess.isProvisional_eq_false (success : reply.IsSuccess) :
    reply.isProvisional = false := by
  simp [Reply.isProvisional, Nat.not_lt.2 success.1]

theorem converse_outcome_eq_ok_iff {ack : Acknowledgement} :
    (converse transport address limit conversation).outcome = .ok ack ↔
      ∃ reply, conversation.LeadsTo (.answered reply) ∧
        reply.Acknowledges transport.decoders ack := by
  rcases brought : conversation.result redirectLimit with mishap | reply
  · rw [converse_of_error brought]
    refine ⟨nofun, ?_⟩
    rintro ⟨reply, leads, acknowledges⟩
    rw [Conversation.result_eq_ok_iff.2 ⟨leads, acknowledges.success.isProvisional_eq_false⟩]
      at brought
    cases brought
  · rw [converse_of_ok brought, judge_outcome_eq_ok_iff]
    constructor
    · exact fun acknowledges => ⟨reply, (Conversation.result_eq_ok_iff.1 brought).1, acknowledges⟩
    · rintro ⟨reply', leads, acknowledges⟩
      have final := acknowledges.success.isProvisional_eq_false
      rw [Conversation.result_eq_ok_iff.2 ⟨leads, final⟩] at brought
      cases brought
      exact acknowledges

/-- Sending ends well exactly if the service answers with an acknowledgement. -/
theorem publish_outcome_eq_ok_iff {ack : Acknowledgement} :
    (publish transport conversation credentials limit coordinates).outcome = .ok ack ↔
      Acknowledges transport conversation credentials.host ack := by
  rcases parsed : Url.parse? (endpoint credentials.host) with - | url
  · simp [Acknowledges, parsed, publish_of_not_address parsed]
  · simp [Acknowledges, parsed, publish_of_address parsed, converse_outcome_eq_ok_iff]

theorem submit_outcome_eq_ok_iff {ack : Acknowledgement} :
    (submit transport conversation credentials limit coordinates).outcome = .ok ack ↔
      transport.CanStart ∧ Acknowledges transport conversation credentials.host ack := by
  rcases canStart_or_not transport with start | ⟨message, failed⟩
  · rw [submit_of_canStart start, publish_outcome_eq_ok_iff, and_iff_right start]
  · simp [submit_of_not_canStart failed, Transport.CanStart, failed]

/-! ### Failures -/

/-- Whatever the transport complains of, the phase is that of the metadata. -/
theorem phase_classify (complaint : Complaint) :
    (classify address limit complaint).phase = .metadata := by
  unfold classify
  split
  · rfl
  · split <;> rfl

theorem phase_of_judge_eq_error {failure : Failure}
    (h : (judge transport address limit reply).outcome = .error failure) :
    failure.phase = .metadata := by
  by_cases success : reply.IsSuccess
  · simp only [judge_of_isSuccess success, bind_eq_error_iff, mapError_eq_error_iff] at h
    obtain ⟨mishap, -, rfl⟩ | ⟨text, -, message, -, rfl⟩ := h
    · exact phase_classify _
    · rfl
  · rw [judge_of_not_isSuccess success] at h
    cases h
    rfl

theorem phase_of_publish_eq_error {failure : Failure}
    (h : (publish transport conversation credentials limit coordinates).outcome = .error failure) :
    failure.phase = .metadata := by
  rcases parsed : Url.parse? (endpoint credentials.host) with - | url
  · rw [publish_of_not_address parsed] at h
    cases h
    exact phase_classify _
  · rw [publish_of_address parsed] at h
    rcases brought : conversation.result redirectLimit with mishap | reply
    · rw [converse_of_error brought] at h
      cases h
      exact phase_classify _
    · rw [converse_of_ok brought] at h
      exact phase_of_judge_eq_error h

theorem phase_of_submit_eq_error {failure : Failure}
    (h : (submit transport conversation credentials limit coordinates).outcome = .error failure) :
    failure.phase = .metadata := by
  rcases canStart_or_not transport with start | ⟨message, failed⟩
  · rw [submit_of_canStart start] at h
    exact phase_of_publish_eq_error h
  · rw [submit_of_not_canStart failed] at h
    cases h
    rfl

/-! ### What happens -/

theorem isQuiet_course_judge : (judge transport address limit reply).course.IsQuiet := by
  by_cases success : reply.IsSuccess
  · rw [judge_of_isSuccess success]
    exact Course.isQuiet_nil
  · rw [judge_of_not_isSuccess success, Course.isQuiet_cons]
    refine ⟨?_, Course.isQuiet_nil⟩
    show "metadata service rejected release" ≠ Event.stepMessage
    decide

theorem requests_course_judge : (judge transport address limit reply).course.requests = [] := by
  by_cases success : reply.IsSuccess
  · rw [judge_of_isSuccess success]
    rfl
  · rw [judge_of_not_isSuccess success]
    rfl

/-- No more is logged of a conversation than of its final answer. -/
theorem course_converse_eq_nil_or :
    (converse transport address limit conversation).course = [] ∨
      ∃ reply, (converse transport address limit conversation).course
        = (judge transport address limit reply).course := by
  rcases brought : conversation.result redirectLimit with mishap | reply
  · exact .inl (by rw [converse_of_error brought])
  · exact .inr ⟨reply, by rw [converse_of_ok brought]⟩

theorem isQuiet_course_converse :
    (converse transport address limit conversation).course.IsQuiet := by
  rcases course_converse_eq_nil_or with none | ⟨reply, same⟩
  · exact none ▸ Course.isQuiet_nil
  · exact same ▸ isQuiet_course_judge

theorem requests_course_converse :
    (converse transport address limit conversation).course.requests = [] := by
  rcases course_converse_eq_nil_or with none | ⟨reply, same⟩
  · rw [none, Course.requests_nil]
  · rw [same, requests_course_judge]

theorem isQuiet_reading {url : Url} :
    (reading conversation url credentials coordinates).IsQuiet := by
  intro h mem
  obtain ⟨request, -, rfl⟩ := List.mem_map.1 mem
  trivial

theorem requests_reading {url : Url} :
    (reading conversation url credentials coordinates).requests
      = conversation.requests redirectLimit (request url credentials coordinates) := by
  rw [Course.requests, reading, List.filterMap_map]
  exact List.filterMap_some

theorem isQuiet_course_publish :
    (publish transport conversation credentials limit coordinates).course.IsQuiet := by
  have publishing : Happening.IsQuiet
      (.note (.publishing (endpoint credentials.host) coordinates)) := by
    show "publishing release metadata" ≠ Event.stepMessage
    decide
  rcases parsed : Url.parse? (endpoint credentials.host) with - | url
  · rw [publish_of_not_address parsed, Course.isQuiet_cons]
    exact ⟨publishing, Course.isQuiet_nil⟩
  · rw [publish_of_address parsed, Course.isQuiet_cons, Course.isQuiet_append]
    exact ⟨publishing, isQuiet_reading, isQuiet_course_converse⟩

/-- The service reads what is sent to it and what it redirects, and nothing else. -/
theorem requests_course_publish_of_address {url : Url}
    (h : Url.parse? (endpoint credentials.host) = some url) :
    (publish transport conversation credentials limit coordinates).course.requests
      = conversation.requests redirectLimit (request url credentials coordinates) := by
  rw [publish_of_address h]
  show (reading conversation url credentials coordinates ++ _ : Course).requests = _
  rw [Course.requests_append, requests_course_converse, List.append_nil, requests_reading]

/-- What the service reads repeats a request to the address that the endpoint is, and is that
request unless the service redirects. -/
theorem repeats_of_mem {sent : Request}
    (mem : sent ∈ (publish transport conversation credentials limit coordinates).course.requests) :
    ∃ url, sent.Repeats (request url credentials coordinates) ∧
      (conversation.IsDirect → sent = request url credentials coordinates) := by
  rcases parsed : Url.parse? (endpoint credentials.host) with - | url
  · rw [publish_of_not_address parsed] at mem
    cases mem
  · rw [requests_course_publish_of_address parsed] at mem
    refine ⟨url, Conversation.repeats_of_mem_requests mem, fun direct => ?_⟩
    rw [Conversation.requests_of_isDirect direct] at mem
    split at mem
    · exact List.mem_singleton.1 mem
    · cases mem

theorem requests_course_publish_length_le :
    (publish transport conversation credentials limit coordinates).course.requests.length
      ≤ min conversation.redirects 10 + 1 := by
  rcases parsed : Url.parse? (endpoint credentials.host) with - | url
  · simp [publish_of_not_address parsed]
  · rw [requests_course_publish_of_address parsed]
    exact Conversation.length_requests_le _ _ _

section

variable (transport conversation credentials limit coordinates)

theorem requests_course_submit_subset :
    (submit transport conversation credentials limit coordinates).course.requests ⊆
      (publish transport conversation credentials limit coordinates).course.requests := by
  rcases canStart_or_not transport with start | ⟨message, failed⟩
  · rw [submit_of_canStart start]
    exact List.Subset.refl _
  · rw [submit_of_not_canStart failed]
    exact List.nil_subset _

/-- Of a sending neither the machine nor the upload tool nor the output sees anything. -/
theorem isQuiet_course_submit :
    (submit transport conversation credentials limit coordinates).course.IsQuiet := by
  rcases canStart_or_not transport with start | ⟨message, failed⟩
  · exact submit_of_canStart start ▸ isQuiet_course_publish
  · exact submit_of_not_canStart failed ▸ Course.isQuiet_nil

theorem requests_course_submit_length_le :
    (submit transport conversation credentials limit coordinates).course.requests.length
      ≤ min conversation.redirects 10 + 1 := by
  rcases canStart_or_not transport with start | ⟨message, failed⟩
  · exact submit_of_canStart start ▸ requests_course_publish_length_le
  · rw [submit_of_not_canStart failed]
    exact Nat.zero_le _

end

end Service

end PackageRelease
