/-
PackageRelease/Proofs/Service/Conversation.lean

What comes of a request that may be redirected.

A conversation is a number of redirects and what the service does at the last
address (`redirects`, `last`).  Up to ten redirects are followed:

    result conversation  =  result conversation.last     redirects ≤ 10
                            tooManyRedirects             otherwise

Every redirect that is followed can add one request to the one that is sent
(`length_requests_le`), and none of them carries anything but what that one
carries (`repeats_of_mem_requests`).  A service that does not redirect reads
that one or nothing (`requests_of_isDirect`).
-/
import Mathlib.Logic.Basic
import PackageRelease.Service.Transport

namespace PackageRelease

namespace Service

/-! ### Where a conversation leads to -/

namespace Conversation

/-- How many times what is asked is redirected. -/
def redirects : Conversation → Nat
  | redirected _ next => next.redirects + 1
  | _ => 0

/-- What is done at the last address. -/
def last : Conversation → Conversation
  | redirected _ next => next.last
  | conversation => conversation

/-- Nothing is redirected. -/
def IsDirect (conversation : Conversation) : Prop :=
  ∀ redirect next, conversation ≠ .redirected redirect next

/-- The redirects, if there are any, are followed to an address where `final` is done. -/
structure LeadsTo (conversation final : Conversation) : Prop where
  followed : conversation.redirects ≤ 10
  arrives : conversation.last = final

variable {conversation final : Conversation} {left : Nat}

theorem redirects_eq_zero_iff : conversation.redirects = 0 ↔ conversation.IsDirect := by
  cases conversation with
  | redirected redirect next => simp [redirects, IsDirect]
  | _ => exact ⟨fun _ _ _ => nofun, fun _ => rfl⟩

theorem last_of_isDirect (direct : conversation.IsDirect) : conversation.last = conversation := by
  cases conversation with
  | redirected redirect next => exact absurd rfl (direct redirect next)
  | _ => rfl

/-- At the last address nothing is redirected. -/
theorem isDirect_last (conversation : Conversation) : conversation.last.IsDirect := by
  induction conversation with
  | redirected redirect next ih => exact ih
  | _ => exact fun _ _ => nofun

theorem leadsTo_iff_of_isDirect (direct : conversation.IsDirect) :
    conversation.LeadsTo final ↔ conversation = final := by
  have none : conversation.redirects ≤ 10 := redirects_eq_zero_iff.2 direct ▸ Nat.zero_le 10
  exact ⟨fun leads => (last_of_isDirect direct).symm.trans leads.arrives,
    fun same => ⟨none, (last_of_isDirect direct).trans same⟩⟩

/-! ### Results -/

/-- Redirects are followed as long as some are left. -/
theorem result_eq (conversation : Conversation) (left : Nat) :
    conversation.result left
      = if conversation.redirects ≤ left then conversation.last.result 0
        else .error .tooManyRedirects := by
  induction conversation generalizing left with
  | redirected redirect next ih =>
    cases left with
    | zero => rfl
    | succ left =>
      simp only [redirects, Nat.add_le_add_iff_right]
      exact ih left
  | _ => rfl

/-- A final answer is the one at the last address. -/
theorem result_eq_ok_iff {reply : Reply} :
    conversation.result redirectLimit = .ok reply ↔
      conversation.LeadsTo (.answered reply) ∧ reply.isProvisional = false := by
  rw [result_eq]
  constructor
  · intro brought
    split at brought
    · next followed =>
      -- only an answer can bring one, and at the last address there is no redirect left
      rcases arrives : conversation.last with _ | _ | _ | _ | _ | _ | reply' | ⟨redirect, next⟩
      case answered =>
        rw [arrives, result] at brought
        split at brought
        · cases brought
        · next final =>
          cases brought
          exact ⟨⟨followed, arrives⟩, by simpa using final⟩
      case redirected => exact absurd arrives (isDirect_last conversation redirect next)
      all_goals
        rw [arrives] at brought
        cases brought
    · cases brought
  · rintro ⟨⟨followed, arrives⟩, final⟩
    rw [if_pos (show _ ≤ redirectLimit from followed), arrives, result, if_neg (by simp [final])]

end Conversation

/-! ### Requests -/

/-- The request carries an authorization and a body only if they are those of the first one. -/
structure Request.Repeats (request first : Request) : Prop where
  authorization : request.authorization = first.authorization ∨ request.authorization = none
  body : request.body = first.body ∨ request.body = none

namespace Request.Repeats

variable {request request' first : Request}

theorem refl (request : Request) : request.Repeats request := ⟨.inl rfl, .inl rfl⟩

theorem trans (again : request.Repeats request') (before : request'.Repeats first) :
    request.Repeats first where
  authorization := again.authorization.elim (fun same => same ▸ before.authorization) .inr
  body := again.body.elim (fun same => same ▸ before.body) .inr

theorem redirected (request : Request) (redirect : Redirect) :
    (request.redirected redirect).Repeats request where
  authorization := ite_eq_or_eq _ _ _
  body := ite_eq_or_eq _ _ _

end Request.Repeats

namespace Conversation

/-- The service reads what is sent. -/
def isRead : Conversation → Bool
  | refused | ignored | unread => false
  | _ => true

variable {conversation : Conversation} {left : Nat} {request sent : Request}

theorem requests_of_not_isRead (unread : ¬ conversation.isRead) :
    conversation.requests left request = [] := by
  cases conversation <;> first | rfl | exact absurd rfl unread

theorem requests_of_isRead (read : conversation.isRead) (left : Nat) (request : Request) :
    ∃ more, conversation.requests left request = request :: more ∧
      more.length ≤ min conversation.redirects left := by
  induction conversation generalizing left request with
  | refused | ignored | unread => cases read
  | silent | hungUp | garbled | answered => exact ⟨[], rfl, Nat.zero_le _⟩
  | redirected redirect next ih =>
    cases left with
    | zero => exact ⟨[], rfl, Nat.zero_le _⟩
    | succ left =>
      refine ⟨next.requests left (request.redirected redirect), rfl, ?_⟩
      by_cases read : next.isRead
      · obtain ⟨more, eq, bound⟩ := ih read left (request.redirected redirect)
        rw [eq, List.length_cons, redirects]
        omega
      · rw [requests_of_not_isRead read]
        exact Nat.zero_le _

/-- There are at most one request and one for each redirect that is followed. -/
theorem length_requests_le (conversation : Conversation) (left : Nat) (request : Request) :
    (conversation.requests left request).length ≤ min conversation.redirects left + 1 := by
  by_cases read : conversation.isRead
  · obtain ⟨more, eq, bound⟩ := requests_of_isRead read left request
    rw [eq]
    exact Nat.succ_le_succ bound
  · rw [requests_of_not_isRead read]
    exact Nat.zero_le _

theorem requests_of_isDirect (direct : conversation.IsDirect) :
    conversation.requests left request = if conversation.isRead then [request] else [] := by
  cases conversation with
  | redirected redirect next => exact absurd rfl (direct redirect next)
  | _ => rfl

/-- All that is read repeats the request that is sent. -/
theorem repeats_of_mem_requests (mem : sent ∈ conversation.requests left request) :
    sent.Repeats request := by
  induction conversation generalizing left request with
  | refused | ignored | unread => cases mem
  | silent | hungUp | garbled | answered =>
    obtain rfl := List.mem_singleton.1 mem
    exact .refl _
  | redirected redirect next ih =>
    rcases List.mem_cons.1 mem with rfl | mem
    · exact .refl _
    · cases left with
      | zero => cases mem
      | succ left => exact (ih mem).trans (.redirected request redirect)

end Conversation

end Service

end PackageRelease
