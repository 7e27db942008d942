import GatewayAuth.Http.Remote
import GatewayAuth.Proofs.Run

/-!
# `GatewayAuth.Proofs.Http.Answers` — how a check of limits over HTTP ends

The status of the response decides what a check of limits means: from 200 to 299 it authorizes, three statuses reject,
and any other is a failure. Without a response there is a failure of another kind, whether a request was sent or not.

## Contents
- `through`, `tell`: runs over HTTP, in which the network may answer by all that has happened.
- `delivered?`: the response that a connection delivers to a call.
- `Checked`, `checked_of_perform`: the ways in which a check of limits ends.
- `status_of_authorized`, `authorized_of_status`, `answerOf_of_rejected`, `eq_unexpectedStatus`: what a response means by
  its status.
-/

namespace GatewayAuth.Http

/-! ## Runs over HTTP -/

section
variable {σ τ ω ε : Type}

/-- Clients are built and calls are made over HTTP. How the network answers may depend on all that has happened. -/
def through (network : History σ τ ω ε → Connection) (past : History σ τ ω ε) (_ : Actor) (want : Want)
    (input : Input) : Prop :=
  (∀ client, want = .client client → input = .built (build client)) ∧
    ∀ call, want = .reply call → input = (perform (network past) call).input

/-- What an actor is told over HTTP. -/
def tell (network : History σ τ ω ε → Connection) (past : History σ τ ω ε) (_ : Actor) : Want → Input
  | .client client => .built (build client)
  | .reply call => (perform (network past) call).input
  | .tick _ => .tick
  | .turn => .turn
  | .nothing => .turn

theorem through_tell (network : History σ τ ω ε → Connection) (past : History σ τ ω ε) (actor : Actor)
    (want : Want) : through network past actor want (tell network past actor want) := by
  constructor
  · rintro client rfl
    rfl
  · rintro call rfl
    rfl

end

/-! ## How a check of limits ends -/

/-- The response that a connection delivers to a call, if its request is sent and answered. -/
def delivered? (connection : Connection) (call : RemoteCall) : Option Response :=
  match (perform connection call).exchanges with
  | [⟨_, .answered response⟩] => some response
  | _ => none

/-- How a check of limits can end: with a response, without one, or with a request that could not be expressed. -/
inductive Checked (connection : Connection) (call : RemoteCall) :
    Except BackendError Wire.Response → Prop where
  | answered {response : Response} (delivered : delivered? connection call = some response) :
      Checked connection call (answerOf (.answered response))
  | failed (text : String) (silent : delivered? connection call = none) :
      Checked connection call (.error (.transport text))
  | notExpressed (text : String) (silent : delivered? connection call = none) :
      Checked connection call (.error (.invalidRequest text))

/-- The only requests that cannot be expressed are those without transactions. -/
theorem exists_of_queryAt_error {d : String} {kind : QueryKind} {request : Wire.Request} {input : Input}
    (h : queryAt d kind request = .error input) :
    ∃ text, input = .answered (.error (.transport text)) ∨
      input = .answered (.error (.invalidRequest text)) := by
  unfold queryAt at h
  split at h
  · cases h
    exact ⟨_, .inl rfl⟩
  · next client _ =>
    unfold BackendClient.query? at h
    cases htransactions : request.transactions with
    | nil =>
        rw [htransactions] at h
        cases h
        exact ⟨_, .inr rfl⟩
    | cons transaction rest =>
        rw [htransactions] at h
        cases h

/-- The same for both checks: what a query comes to. -/
theorem checked_of_queryAt {connection : Connection} {call : RemoteCall} {d : String} {kind : QueryKind}
    {request : Wire.Request} (hmessage : messageOf call = queryAt d kind request)
    (hinput : ∀ outcome, inputOf call outcome = .answered (answerOf outcome))
    {told : Except BackendError Wire.Response}
    (h : (perform connection call).input = .answered told) : Checked connection call told := by
  unfold perform at h
  cases hquery : messageOf call with
  | error input =>
      have hsilent : delivered? connection call = none := by
        unfold delivered? perform
        rw [hquery]
      rw [hquery] at h
      rw [hmessage] at hquery
      obtain ⟨text, rfl | rfl⟩ := exists_of_queryAt_error hquery
      · cases h
        exact .failed text hsilent
      · cases h
        exact .notExpressed text hsilent
  | ok message =>
      have hdelivered : delivered? connection call =
          match (if message.isSendable then [⟨message, send connection message⟩] else [] : List Exchange) with
          | [⟨_, .answered response⟩] => some response
          | _ => none := by
        unfold delivered? perform
        rw [hquery]
      rw [hquery] at h
      dsimp only at h
      rw [hinput] at h
      cases h
      -- a request that is not sent fails as one that gets no response does
      by_cases hsendable : message.isSendable = true
      · rw [if_pos hsendable] at hdelivered
        cases houtcome : send connection message with
        | failed text =>
            rw [houtcome] at hdelivered
            exact .failed text hdelivered
        | answered response =>
            rw [houtcome] at hdelivered
            exact .answered hdelivered
      · rw [if_neg hsendable] at hdelivered
        unfold send
        rw [if_neg hsendable]
        exact .failed _ hdelivered

/-- **A check of limits ends in one of these ways.** -/
theorem checked_of_perform {connection : Connection} {call : RemoteCall}
    {told : Except BackendError Wire.Response}
    (h : (perform connection call).input = .answered told) : Checked connection call told := by
  cases call with
  | authorize d request => exact checked_of_queryAt rfl (fun _ => rfl) h
  | authrep d request => exact checked_of_queryAt rfl (fun _ => rfl) h
  | fetch location token service environment =>
      unfold perform messageOf at h
      cases hclient : SystemClient.ofLocation location token with
      | error e => simp only [hclient] at h; cases h
      | ok client => simp only [hclient] at h; cases h
  | report d batch =>
      unfold perform messageOf at h
      cases hclient : BackendClient.ofDestination d with
      | error e => simp only [hclient] at h; cases h
      | ok client => simp only [hclient] at h; cases h

/-! ## Statuses -/

variable {response : Response}

/-- Only a success authorizes. -/
theorem status_of_authorized {answer : Wire.Response}
    (h : answerOf (.answered response) = .ok answer) (hauthorized : answer.authorized = true) :
    200 ≤ response.status ∧ response.status ≤ 299 := by
  unfold answerOf at h
  dsimp only at h
  split at h
  · next hsuccess => simpa [isSuccess] using hsuccess
  · split at h
    · cases h
      cases hauthorized
    · cases h

/-- A success authorizes. -/
theorem authorized_of_status (hfrom : 200 ≤ response.status) (hto : response.status ≤ 299) :
    ∃ answer, answerOf (.answered response) = .ok answer ∧ answer.authorized = true := by
  have hsuccess : isSuccess response.status = true := by simp [isSuccess, hfrom, hto]
  simp only [answerOf, hsuccess, if_true]
  exact ⟨_, rfl, rfl⟩

/-- What a rejection tells. -/
theorem answerOf_of_rejected (h : response.status ∈ [403, 404, 409]) :
    answerOf (.answered response) = .ok ⟨false, response.header? Wire.rejectionReasonHeaderName,
      response.content?.bind reasonOf, response.content?⟩ := by
  have hsuccess : isSuccess response.status = false := by
    rcases List.mem_cons.1 h with h | h
    · rw [h]; rfl
    rcases List.mem_cons.1 h with h | h
    · rw [h]; rfl
    · rw [List.mem_singleton.1 h]; rfl
  have hrejection : isRejection response.status = true := by
    simpa [isRejection, or_assoc] using h
  simp only [answerOf, hsuccess, hrejection, Bool.false_eq_true, if_false, if_true]

/-- A failure with a response is that of an undocumented status. -/
theorem eq_unexpectedStatus {e : BackendError} (h : answerOf (.answered response) = .error e) :
    e = .unexpectedStatus response.status response.content? := by
  unfold answerOf at h
  dsimp only at h
  split at h
  · cases h
  · split at h
    · cases h
    · cases h
      rfl

/-! ## Clients -/

/-- A client for a buffered backend is built from the same parts as a direct one. -/
theorem build_direct_of_buffered {d : String} (h : build (.buffered d) = .ok ()) :
    build (.direct d) = .ok () := by
  unfold build at h ⊢
  dsimp only at h ⊢
  split at h
  · next client hclient =>
    rw [hclient]
    rfl
  · cases h

end GatewayAuth.Http
