/-
PackageRelease/Proofs/Service/Classification.lean

Which result goes with which behaviour of the metadata service.

The redirects lead to an address where a final answer comes, or nothing comes
in time, or the connection ends before there is a final answer, or there is no
connection at all, or else they lead on and on (`Conversation.cases`).  With
that,

    no connection                         connectivity
    final answer, no success              server, whatever becomes of the body
    success, body whole                   the acknowledgement, or invalidResponse
    success, body cut short               timeout or request
    stalls, breaks off                    timeout, request
    too many redirects                    request

and each result comes of what stands beside it and of nothing else
(`publish_classified`).  The detail of a failure of the server is what the
body says, or else the reason of the status, and is never padded.

The transport only reports whether it could not connect and whether it took
too long (`Transport.Documented`).  What the program makes of that is told
apart from it (`Transport.Documented.failure_of_late` and its like).
-/
import PackageRelease.Proofs.Service.Publish
import PackageRelease.Proofs.Text.Blank

namespace PackageRelease

namespace Service

/-! ### What a service does -/

namespace Conversation

variable {conversation : Conversation}

/-- A final answer comes: its head is there, and no other answer is to follow.  That is so behind
101 too, and behind no other status below 200. -/
def Brings (conversation : Conversation) (reply : Reply) : Prop :=
  conversation.LeadsTo (.answered reply) ∧ (200 ≤ reply.status ∨ reply.status = 101)

/-- An answer comes that another one is to follow. -/
def IsProvisional (reply : Reply) : Prop := reply.status < 200 ∧ reply.status ≠ 101

/-- There is no final answer in time, or not even a connection. -/
inductive Stalls : Conversation → Prop
  | ignored : Stalls .ignored
  | silent : Stalls .silent
  | provisional {reply : Reply} (provisional : IsProvisional reply)
      (ending : reply.ending = .fallsSilent) : Stalls (.answered reply)

/-- The connection is made, but it ends without a final answer, or brings something that is no
answer. -/
inductive BreaksOff : Conversation → Prop
  | unread : BreaksOff .unread
  | hungUp : BreaksOff .hungUp
  | garbled : BreaksOff .garbled
  | provisional {reply : Reply} (provisional : IsProvisional reply)
      (ending : reply.ending = .hangsUp) : BreaksOff (.answered reply)

theorem isProvisional_iff {reply : Reply} : reply.isProvisional ↔ IsProvisional reply := by
  simp [Reply.isProvisional, IsProvisional]

theorem isProvisional_eq_false_iff {reply : Reply} :
    reply.isProvisional = false ↔ 200 ≤ reply.status ∨ reply.status = 101 := by
  rw [← Bool.not_eq_true, isProvisional_iff, IsProvisional]
  omega

/-- A service does one of five things. -/
theorem cases (conversation : Conversation) :
    10 < conversation.redirects ∨ conversation.LeadsTo .refused ∨
      (∃ reply, conversation.Brings reply) ∨
      (∃ final, conversation.LeadsTo final ∧ final.Stalls) ∨
      ∃ final, conversation.LeadsTo final ∧ final.BreaksOff := by
  rcases Nat.lt_or_ge 10 conversation.redirects with endless | followed
  · exact .inl endless
  refine .inr ?_
  have leads : conversation.LeadsTo conversation.last := ⟨followed, rfl⟩
  have direct := isDirect_last conversation
  -- only what is done at the last address is left to be told apart
  generalize conversation.last = final at leads direct
  cases final with
  | refused => exact .inl leads
  | ignored => exact .inr (.inr (.inl ⟨_, leads, .ignored⟩))
  | silent => exact .inr (.inr (.inl ⟨_, leads, .silent⟩))
  | unread => exact .inr (.inr (.inr ⟨_, leads, .unread⟩))
  | hungUp => exact .inr (.inr (.inr ⟨_, leads, .hungUp⟩))
  | garbled => exact .inr (.inr (.inr ⟨_, leads, .garbled⟩))
  | answered reply =>
    rcases provisional : reply.isProvisional with - | -
    · exact .inr (.inl ⟨reply, leads, isProvisional_eq_false_iff.1 provisional⟩)
    · rcases ending : reply.ending with - | -
      · exact .inr (.inr (.inr ⟨_, leads, .provisional (isProvisional_iff.1 provisional) ending⟩))
      · exact .inr (.inr (.inl ⟨_, leads, .provisional (isProvisional_iff.1 provisional) ending⟩))
  | redirected redirect next => exact absurd rfl (direct redirect next)

/-! ### Results of the transport -/

section

variable {final : Conversation} {mishap : Mishap} {reply : Reply}

theorem result_of_endless (endless : 10 < conversation.redirects) :
    conversation.result redirectLimit = .error .tooManyRedirects := by
  rw [result_eq, if_neg (show ¬ _ ≤ redirectLimit from Nat.not_le.2 endless)]

theorem result_of_leadsTo (leads : conversation.LeadsTo final) :
    conversation.result redirectLimit = final.result 0 := by
  rw [result_eq, if_pos (show _ ≤ redirectLimit from leads.followed), leads.arrives]

theorem result_of_brings (brings : conversation.Brings reply) :
    conversation.result redirectLimit = .ok reply :=
  result_eq_ok_iff.2 ⟨brings.1, isProvisional_eq_false_iff.2 brings.2⟩

theorem Stalls.result_eq (stalls : final.Stalls) :
    final.result 0 = .error .lateConnection ∨ final.result 0 = .error .lateAnswer := by
  cases stalls with
  | ignored => exact .inl rfl
  | silent => exact .inr rfl
  | provisional provisional ending =>
    rw [result, if_pos (isProvisional_iff.2 provisional), ending]
    exact .inr rfl

theorem BreaksOff.result_eq (breaksOff : final.BreaksOff) :
    final.result 0 = .error .broken := by
  cases breaksOff with
  | provisional provisional ending =>
    rw [result, if_pos (isProvisional_iff.2 provisional), ending]
    rfl
  | _ => rfl

end

end Conversation

/-! ### Complaints -/

namespace Transport.Documented

variable {transport : Transport} (documented : transport.Documented)
variable (address : String) (limit : Duration) {mishap : Mishap}

include documented

theorem failure_of_notConnected :
    transport.failure address limit .notConnected
      = .connectivity address (transport.complaint .notConnected).message := by
  rw [failure, classify, if_pos ((documented.isConnect_iff _).2 rfl)]

theorem failure_of_late (late : mishap = .lateConnection ∨ mishap = .lateAnswer) :
    transport.failure address limit mishap = .timeout limit := by
  have connected : mishap ≠ .notConnected := by
    rintro rfl
    simp at late
  rw [failure, classify, if_neg (mt (documented.isConnect_iff _).1 connected),
    if_pos ((documented.isTimeout_iff _ connected).2 late)]

theorem failure_of_other (connected : mishap ≠ .notConnected)
    (in_time : ¬ (mishap = .lateConnection ∨ mishap = .lateAnswer)) :
    transport.failure address limit mishap = .request (transport.complaint mishap).message := by
  rw [failure, classify, if_neg (mt (documented.isConnect_iff _).1 connected),
    if_neg (mt (documented.isTimeout_iff _ connected).1 in_time)]

end Transport.Documented

/-! ### Details -/

/-- Standard reasons are unpadded. -/
theorem isUnpadded_reason (status : Nat) : IsUnpadded (reason status).toList := by
  have standard : ∀ entry ∈ reasons, IsUnpadded entry.2.toList := by decide +kernel
  unfold reason
  rcases found : reasons.lookup status with - | text
  · exact ⟨nofun, nofun⟩
  · obtain ⟨before, after, eq, -⟩ := List.lookup_eq_some_iff.1 found
    exact standard (status, text) (eq ▸ List.mem_append_right _ List.mem_cons_self)

namespace Reply

variable {decoders : Charset.Decoders} {reply : Reply} {detail text : String}

/-- What can be read of the body: of a body that is cut short, nothing. -/
def Shows (decoders : Charset.Decoders) (reply : Reply) (text : String) : Prop :=
  if reply.IsWhole then reply.Says decoders text else text = ""

/-- The detail is what the body says between white space, or, if it says nothing, the standard
reason of the status. -/
def Tells (decoders : Charset.Decoders) (reply : Reply) (detail : String) : Prop :=
  ∃ text, reply.Shows decoders text ∧
    if text.toList.all isBlank then detail = reason reply.status
    else IsCoreOf detail.toList text.toList

theorem trim_eq_iff : trim text = detail ↔ IsCoreOf detail.toList text.toList := by
  rw [← trimmed_eq_iff, ← toList_trim, String.toList_inj]

theorem detail_of_shows (shows_text : reply.Shows decoders text) :
    reply.detail decoders = if (trim text).isEmpty then reason reply.status else trim text := by
  unfold Shows at shows_text
  by_cases whole : reply.IsWhole
  · rw [if_pos whole] at shows_text
    obtain rfl := text_eq_iff.2 shows_text
    rw [detail, read_of_isWhole whole]
  · rw [if_neg whole] at shows_text
    subst shows_text
    rw [detail, read_of_not_isWhole whole]
    rfl

theorem exists_shows (decoders : Charset.Decoders) (reply : Reply) :
    ∃ text, reply.Shows decoders text := by
  unfold Shows
  split
  · exact ⟨_, text_said decoders reply⟩
  · exact ⟨"", rfl⟩

theorem detail_eq_iff : reply.detail decoders = detail ↔ reply.Tells decoders detail := by
  have empty_iff (text : String) : (trim text).isEmpty ↔ text.toList.all isBlank := by
    rw [String.isEmpty_iff, ← String.toList_eq_nil_iff, toList_trim, trimmed_eq_nil_iff,
      List.all_eq_true]
  have shown_iff (text : String) (shows_text : reply.Shows decoders text) :
      reply.detail decoders = detail ↔
        if text.toList.all isBlank then detail = reason reply.status
        else IsCoreOf detail.toList text.toList := by
    rw [detail_of_shows shows_text]
    refine (if_congr (empty_iff text) rfl rfl).congr_left.trans ?_
    split
    · exact eq_comm
    · exact trim_eq_iff
  constructor
  · intro same
    obtain ⟨text, shows_text⟩ := exists_shows decoders reply
    exact ⟨text, shows_text, (shown_iff text shows_text).1 same⟩
  · rintro ⟨text, shows_text, told⟩
    exact (shown_iff text shows_text).2 told

theorem Tells.isUnpadded (told : reply.Tells decoders detail) : IsUnpadded detail.toList := by
  obtain ⟨text, -, told⟩ := told
  split at told
  · rw [told]
    exact isUnpadded_reason _
  · obtain ⟨before, after, -, -, -, unpadded⟩ := told
    exact unpadded

end Reply

/-! ### Results -/

/-- The results that go with what a service does. -/
inductive Classified (transport : Transport) (limit : Duration) (address : String)
    (conversation : Conversation) : Except Failure Acknowledgement → Prop
  | refused (leads : conversation.LeadsTo .refused) :
      Classified transport limit address conversation
        (.error (.connectivity address (transport.complaint .notConnected).message))
  | endless (endless : 10 < conversation.redirects) :
      Classified transport limit address conversation
        (.error (.request (transport.complaint .tooManyRedirects).message))
  | stalled {final} (leads : conversation.LeadsTo final) (stalls : final.Stalls) :
      Classified transport limit address conversation (.error (.timeout limit))
  | brokenOff {final} (leads : conversation.LeadsTo final) (breaksOff : final.BreaksOff) :
      Classified transport limit address conversation
        (.error (.request (transport.complaint .broken).message))
  | rejected {reply detail} (brings : conversation.Brings reply) (rejects : ¬ reply.IsSuccess)
      (told : reply.Tells transport.decoders detail) :
      Classified transport limit address conversation (.error (.server reply.status detail))
  | stalledWithin {reply} (brings : conversation.Brings reply) (success : reply.IsSuccess)
      (cut : ¬ reply.IsWhole) (ending : reply.ending = .fallsSilent) :
      Classified transport limit address conversation (.error (.timeout limit))
  | brokenOffWithin {reply} (brings : conversation.Brings reply) (success : reply.IsSuccess)
      (cut : ¬ reply.IsWhole) (ending : reply.ending = .hangsUp) :
      Classified transport limit address conversation
        (.error (.request (transport.complaint .broken).message))
  | acknowledged {reply text ack} (brings : conversation.Brings reply) (success : reply.IsSuccess)
      (whole : reply.IsWhole) (said : reply.Says transport.decoders text)
      (decoded : Acknowledgement.decode text = .ok ack) :
      Classified transport limit address conversation (.ok ack)
  | misunderstood {reply text message} (brings : conversation.Brings reply)
      (success : reply.IsSuccess) (whole : reply.IsWhole)
      (said : reply.Says transport.decoders text)
      (decoded : Acknowledgement.decode text = .error message) :
      Classified transport limit address conversation (.error (.invalidResponse message))

section

variable {transport : Transport} {limit : Duration} {address : String}
variable {conversation : Conversation} {result : Except Failure Acknowledgement} {reply : Reply}

variable (transport limit address conversation) in
/-- A result goes with everything that a service can do. -/
theorem exists_classified : ∃ result, Classified transport limit address conversation result := by
  rcases conversation.cases with endless | refused | ⟨reply, brings⟩ | ⟨final, leads, stalls⟩ |
    ⟨final, leads, breaksOff⟩
  · exact ⟨_, .endless endless⟩
  · exact ⟨_, .refused refused⟩
  · by_cases success : reply.IsSuccess
    · by_cases whole : reply.IsWhole
      · have said := reply.text_said transport.decoders
        rcases decoded : Acknowledgement.decode (reply.text transport.decoders) with message | ack
        · exact ⟨_, .misunderstood brings success whole said decoded⟩
        · exact ⟨_, .acknowledged brings success whole said decoded⟩
      · rcases ending : reply.ending with - | -
        · exact ⟨_, .brokenOffWithin brings success whole ending⟩
        · exact ⟨_, .stalledWithin brings success whole ending⟩
    · exact ⟨_, .rejected brings success (Reply.detail_eq_iff.1 rfl)⟩
  · exact ⟨_, .stalled leads stalls⟩
  · exact ⟨_, .brokenOff leads breaksOff⟩

/-- What is read of a success decides. -/
theorem outcome_judge_of_whole {text : String} (success : reply.IsSuccess) (whole : reply.IsWhole)
    (said : reply.Says transport.decoders text) :
    (judge transport address limit reply).outcome
      = (Acknowledgement.decode text).mapError .invalidResponse := by
  rw [judge_of_isSuccess success, Reply.read_of_isWhole whole, Reply.text_eq_iff.2 said]
  rfl

theorem outcome_judge_of_cut (success : reply.IsSuccess) (cut : ¬ reply.IsWhole) :
    (judge transport address limit reply).outcome
      = .error (transport.failure address limit reply.ending.mishap) := by
  rw [judge_of_isSuccess success, Reply.read_of_not_isWhole cut]
  rfl

variable (documented : transport.Documented)

include documented

theorem Classified.outcome_converse (h : Classified transport limit address conversation result) :
    (converse transport address limit conversation).outcome = result := by
  cases h with
  | refused leads =>
    rw [converse_of_error (Conversation.result_of_leadsTo leads),
      documented.failure_of_notConnected]
  | endless endless =>
    rw [converse_of_error (Conversation.result_of_endless endless),
      documented.failure_of_other _ _ (by decide) (by decide)]
  | stalled leads stalls =>
    have ended := Conversation.result_of_leadsTo leads
    rcases stalls.result_eq with late | late <;>
      rw [converse_of_error (ended.trans late), documented.failure_of_late _ _ (by simp)]
  | brokenOff leads breaksOff =>
    rw [converse_of_error ((Conversation.result_of_leadsTo leads).trans breaksOff.result_eq),
      documented.failure_of_other _ _ (by decide) (by decide)]
  | rejected brings rejects told =>
    rw [converse_of_ok (Conversation.result_of_brings brings), judge_of_not_isSuccess rejects,
      Reply.detail_eq_iff.2 told]
  | stalledWithin brings success cut ending =>
    rw [converse_of_ok (Conversation.result_of_brings brings), outcome_judge_of_cut success cut,
      ending, Ending.mishap, documented.failure_of_late _ _ (.inr rfl)]
  | brokenOffWithin brings success cut ending =>
    rw [converse_of_ok (Conversation.result_of_brings brings), outcome_judge_of_cut success cut,
      ending, Ending.mishap, documented.failure_of_other _ _ (by decide) (by decide)]
  | acknowledged brings success whole said decoded
  | misunderstood brings success whole said decoded =>
    rw [converse_of_ok (Conversation.result_of_brings brings),
      outcome_judge_of_whole success whole said, decoded]
    rfl

end

section

variable {credentials : Credentials} {transport : Transport} {conversation : Conversation}
variable {limit : Duration} {coordinates : Coordinates}
variable (valid : (Url.parse? (endpoint credentials.host)).isSome)
variable (documented : transport.Documented)

include valid documented

/-- The result of sending is the one that goes with what the service does. -/
theorem outcome_publish_eq_iff {result : Except Failure Acknowledgement} :
    (publish transport conversation credentials limit coordinates).outcome = result ↔
      Classified transport limit (endpoint credentials.host) conversation result := by
  obtain ⟨url, parsed⟩ := Option.isSome_iff_exists.1 valid
  rw [publish_of_address parsed]
  constructor
  · -- some result goes with what the service does, and what goes with it is what comes out
    rintro rfl
    obtain ⟨result, classified⟩ :=
      exists_classified transport limit (endpoint credentials.host) conversation
    exact classified.outcome_converse documented ▸ classified
  · exact fun classified => classified.outcome_converse documented

theorem outcome_publish_eq_connectivity_iff {address message : String} :
    (publish transport conversation credentials limit coordinates).outcome
        = .error (.connectivity address message) ↔
      conversation.LeadsTo .refused ∧ address = endpoint credentials.host ∧
        message = (transport.complaint .notConnected).message := by
  rw [outcome_publish_eq_iff valid documented]
  constructor
  · rintro ⟨leads⟩
    exact ⟨leads, rfl, rfl⟩
  · rintro ⟨leads, rfl, rfl⟩
    exact .refused leads

theorem outcome_publish_eq_server_iff {status : Nat} {detail : String} :
    (publish transport conversation credentials limit coordinates).outcome
        = .error (.server status detail) ↔
      ∃ reply, conversation.Brings reply ∧ ¬ reply.IsSuccess ∧ status = reply.status ∧
        reply.Tells transport.decoders detail := by
  rw [outcome_publish_eq_iff valid documented]
  constructor
  · intro classified
    cases classified with
    | rejected brings rejects told => exact ⟨_, brings, rejects, rfl, told⟩
  · rintro ⟨reply, brings, rejects, rfl, told⟩
    exact .rejected brings rejects told

theorem outcome_publish_eq_timeout_iff {limit' : Duration} :
    (publish transport conversation credentials limit coordinates).outcome
        = .error (.timeout limit') ↔
      limit' = limit ∧ ((∃ final, conversation.LeadsTo final ∧ final.Stalls) ∨
        ∃ reply, conversation.Brings reply ∧ reply.IsSuccess ∧ ¬ reply.IsWhole ∧
          reply.ending = .fallsSilent) := by
  rw [outcome_publish_eq_iff valid documented]
  constructor
  · intro classified
    cases classified with
    | stalled leads stalls => exact ⟨rfl, .inl ⟨_, leads, stalls⟩⟩
    | stalledWithin brings success cut ending => exact ⟨rfl, .inr ⟨_, brings, success, cut, ending⟩⟩
  · rintro ⟨rfl, ⟨final, leads, stalls⟩ | ⟨reply, brings, success, cut, ending⟩⟩
    · exact .stalled leads stalls
    · exact .stalledWithin brings success cut ending

theorem outcome_publish_eq_request_iff {message : String} :
    (publish transport conversation credentials limit coordinates).outcome
        = .error (.request message) ↔
      (message = (transport.complaint .broken).message ∧
        ((∃ final, conversation.LeadsTo final ∧ final.BreaksOff) ∨
          ∃ reply, conversation.Brings reply ∧ reply.IsSuccess ∧ ¬ reply.IsWhole ∧
            reply.ending = .hangsUp)) ∨
      (message = (transport.complaint .tooManyRedirects).message ∧
        10 < conversation.redirects) := by
  rw [outcome_publish_eq_iff valid documented]
  constructor
  · intro classified
    cases classified with
    | brokenOff leads breaksOff => exact .inl ⟨rfl, .inl ⟨_, leads, breaksOff⟩⟩
    | brokenOffWithin brings success cut ending =>
      exact .inl ⟨rfl, .inr ⟨_, brings, success, cut, ending⟩⟩
    | endless endless => exact .inr ⟨rfl, endless⟩
  · rintro (⟨rfl, ⟨final, leads, breaksOff⟩ | ⟨reply, brings, success, cut, ending⟩⟩ |
      ⟨rfl, endless⟩)
    · exact .brokenOff leads breaksOff
    · exact .brokenOffWithin brings success cut ending
    · exact .endless endless

theorem outcome_publish_eq_ok_iff {ack : Acknowledgement} :
    (publish transport conversation credentials limit coordinates).outcome = .ok ack ↔
      ∃ reply text, conversation.Brings reply ∧ reply.IsSuccess ∧ reply.IsWhole ∧
        reply.Says transport.decoders text ∧ Acknowledgement.decode text = .ok ack := by
  rw [outcome_publish_eq_iff valid documented]
  constructor
  · intro classified
    cases classified with
    | acknowledged brings success whole said decoded =>
      exact ⟨_, _, brings, success, whole, said, decoded⟩
  · rintro ⟨reply, text, brings, success, whole, said, decoded⟩
    exact .acknowledged brings success whole said decoded

theorem outcome_publish_eq_invalidResponse_iff {message : String} :
    (publish transport conversation credentials limit coordinates).outcome
        = .error (.invalidResponse message) ↔
      ∃ reply text, conversation.Brings reply ∧ reply.IsSuccess ∧ reply.IsWhole ∧
        reply.Says transport.decoders text ∧ Acknowledgement.decode text = .error message := by
  rw [outcome_publish_eq_iff valid documented]
  constructor
  · intro classified
    cases classified with
    | misunderstood brings success whole said decoded =>
      exact ⟨_, _, brings, success, whole, said, decoded⟩
  · rintro ⟨reply, text, brings, success, whole, said, decoded⟩
    exact .misunderstood brings success whole said decoded

end

/-- **Each result of sending coordinates goes with one behaviour of the service.**  Take a host
that makes the endpoint an address, and a transport that reports what it is documented to.
Sending fails for lack of connectivity exactly if there is no connection.  A final answer that is
no success is a failure of the server with its status, however its body ends; the detail is what
the body says, or else the reason of the status, and is unpadded.  A success with a whole body is
the acknowledgement in it, or an invalid response.  Sending runs out of the given time exactly if
the service stalls before a final answer or within the body of a success; and it is a failed
request exactly if the service breaks off there, or redirects more than ten times.  There are no
other results. -/
theorem publish_classified {credentials : Credentials} {transport : Transport}
    (valid : (Url.parse? (endpoint credentials.host)).isSome) (documented : transport.Documented)
    (conversation : Conversation) (limit : Duration) (coordinates : Coordinates) :
    let outcome := (publish transport conversation credentials limit coordinates).outcome
    (∀ address message, outcome = .error (.connectivity address message) ↔
      conversation.LeadsTo .refused ∧ address = endpoint credentials.host ∧
        message = (transport.complaint .notConnected).message) ∧
    (∀ status detail, outcome = .error (.server status detail) ↔
      ∃ reply, conversation.Brings reply ∧ ¬ reply.IsSuccess ∧ status = reply.status ∧
        reply.Tells transport.decoders detail) ∧
    (∀ status detail, outcome = .error (.server status detail) → IsUnpadded detail.toList) ∧
    (∀ ack, outcome = .ok ack ↔
      ∃ reply text, conversation.Brings reply ∧ reply.IsSuccess ∧ reply.IsWhole ∧
        reply.Says transport.decoders text ∧ Acknowledgement.decode text = .ok ack) ∧
    (∀ message, outcome = .error (.invalidResponse message) ↔
      ∃ reply text, conversation.Brings reply ∧ reply.IsSuccess ∧ reply.IsWhole ∧
        reply.Says transport.decoders text ∧ Acknowledgement.decode text = .error message) ∧
    (∀ limit', outcome = .error (.timeout limit') ↔ limit' = limit ∧
      ((∃ final, conversation.LeadsTo final ∧ final.Stalls) ∨
        ∃ reply, conversation.Brings reply ∧ reply.IsSuccess ∧ ¬ reply.IsWhole ∧
          reply.ending = .fallsSilent)) ∧
    (∀ message, outcome = .error (.request message) ↔
      (message = (transport.complaint .broken).message ∧
        ((∃ final, conversation.LeadsTo final ∧ final.BreaksOff) ∨
          ∃ reply, conversation.Brings reply ∧ reply.IsSuccess ∧ ¬ reply.IsWhole ∧
            reply.ending = .hangsUp)) ∨
      (message = (transport.complaint .tooManyRedirects).message ∧
        10 < conversation.redirects)) ∧
    (conversation.IsDirect → conversation.redirects = 0 ∧
      ∀ final, conversation.LeadsTo final ↔ conversation = final) ∧
    ∀ failure, outcome = .error failure → failure.phase = .metadata := by
  intro outcome
  refine ⟨fun address message => outcome_publish_eq_connectivity_iff valid documented,
    fun status detail => outcome_publish_eq_server_iff valid documented,
    fun status detail failed => ?_,
    fun ack => outcome_publish_eq_ok_iff valid documented,
    fun message => outcome_publish_eq_invalidResponse_iff valid documented,
    fun limit' => outcome_publish_eq_timeout_iff valid documented,
    fun message => outcome_publish_eq_request_iff valid documented,
    fun direct => ⟨Conversation.redirects_eq_zero_iff.2 direct,
      fun final => Conversation.leadsTo_iff_of_isDirect direct⟩,
    fun failure failed => phase_of_publish_eq_error failed⟩
  obtain ⟨reply, -, -, -, told⟩ := (outcome_publish_eq_server_iff valid documented).1 failed
  exact told.isUnpadded

/-- An answer that tells of a fault between white space, the same answer cut short, a success that
is cut short, and an attempt to connect that goes unanswered. -/
theorem publish_classified_busy :
    let credentials : Credentials := ⟨"release-bot", ⟨"hunter2"⟩, "127.0.0.1:8080//"⟩
    let transport := Transport.ofWording fun _ => "connection closed"
    let reply (status missing : Nat) : Reply :=
      ⟨status, some "text/plain", Utf8.encode "\u00a0busy\r\n", missing, .fallsSilent⟩
    let outcome (conversation : Conversation) :=
      (publish transport conversation credentials (.ofSeconds 5)
        ⟨"1.2.3", "x86_64", "cp39"⟩).outcome
    (Url.parse? (endpoint credentials.host)).isSome ∧ transport.Documented ∧
      outcome (.answered (reply 503 0)) = .error (.server 503 "busy") ∧
      outcome (.answered (reply 503 2)) = .error (.server 503 "Service Unavailable") ∧
      outcome (.answered (reply 200 2)) = .error (.timeout (.ofSeconds 5)) ∧
      outcome .ignored = .error (.timeout (.ofSeconds 5)) := by
  intro credentials transport reply outcome
  have valid : (Url.parse? (endpoint credentials.host)).isSome := by decide +kernel
  have documented : transport.Documented := Transport.documented_ofWording _
  have classified (conversation : Conversation) :=
    publish_classified valid documented conversation (.ofSeconds 5) ⟨"1.2.3", "x86_64", "cp39"⟩
  have leads (reply : Reply) : (Conversation.answered reply).LeadsTo (.answered reply) :=
    ⟨Nat.zero_le _, rfl⟩
  refine ⟨valid, documented, ?_, ?_, ?_, ?_⟩
  · obtain ⟨-, rejected, -⟩ := classified (.answered (reply 503 0))
    exact (rejected _ _).2 ⟨_, ⟨leads _, by decide⟩, by decide, rfl,
      Reply.detail_eq_iff.1 (by decide +kernel)⟩
  · obtain ⟨-, rejected, -⟩ := classified (.answered (reply 503 2))
    exact (rejected _ _).2 ⟨_, ⟨leads _, by decide⟩, by decide, rfl,
      Reply.detail_eq_iff.1 (by decide +kernel)⟩
  · obtain ⟨-, -, -, -, -, timedOut, -⟩ := classified (.answered (reply 200 2))
    exact (timedOut _).2 ⟨rfl, .inr ⟨_, ⟨leads _, by decide⟩, by decide, by decide, rfl⟩⟩
  · obtain ⟨-, -, -, -, -, timedOut, -⟩ := classified .ignored
    exact (timedOut _).2 ⟨rfl, .inl ⟨_, ⟨Nat.zero_le _, rfl⟩, .ignored⟩⟩

end Service

end PackageRelease
