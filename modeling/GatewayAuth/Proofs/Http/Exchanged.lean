import GatewayAuth.Proofs.Http.Answers

/-!
# `GatewayAuth.Proofs.Http.Exchanged` — what is exchanged in a run

A server answers by what has been exchanged before. So a run over HTTP and the list of its exchanges come about together:
each call that ends adds what its request has led to, and the next one is answered by the longer list.

## Contents
- `System.called`: the remote calls that have ended in a run; `reportsSucceed_of_not_called`, `accepted_of_not_called`: what is
  known of reports where none has ended.
- `Http.exchanged`, `Http.network`: the exchanges of a run, and the connection that a server is to it.
- `Http.mem_exchanged_iff`: each of them comes from one of the calls.
- `Http.Exchanged`, `Http.exchanged_of_called`, `Http.exists_of_post`: the exchange that a call leads to.
-/

namespace GatewayAuth

variable {σ τ ω ε : Type} {S : System σ τ ω ε} {h : History σ τ ω ε}

/-! ## Calls that have ended -/

namespace System

/-- The call that ends where an actor that waits for `want` takes a step. -/
def calledNow (h : History σ τ ω ε) : Want → List (History σ τ ω ε × RemoteCall)
  | .reply call => [(h, call)]
  | _ => []

/-- The remote calls that have ended, each with what had happened before, the last one first. -/
def called (S : System σ τ ω ε) : History σ τ ω ε → List (History σ τ ω ε × RemoteCall)
  | [] => []
  | .began _ _ :: h => called S h
  | .stepped s _ actor _ _ :: h => calledNow h (S.want s actor) ++ called S h

theorem eq_of_mem_calledNow {want : Want} {past : History σ τ ω ε} {call : RemoteCall}
    (hmem : (past, call) ∈ calledNow h want) : past = h ∧ want = .reply call := by
  unfold calledNow at hmem
  split at hmem
  · cases List.mem_singleton.1 hmem
    exact ⟨rfl, rfl⟩
  · cases hmem

/-- Where no report has ended, none has failed. -/
theorem reportsSucceed_of_not_called (hno : ∀ past d batch, (past, .report d batch) ∉ S.called h) :
    S.ReportsSucceed h := by
  induction h with
  | nil => trivial
  | cons moment h ih =>
      cases moment with
      | began actor task => exact ih hno
      | stepped s now actor input p =>
          refine ⟨?_, ih fun past d batch hmem => hno past d batch (List.mem_append_right _ hmem)⟩
          unfold refusedNow
          split
          · split
            · next d batch hwant =>
              refine absurd (List.mem_append_left _ ?_) (hno h d batch)
              rw [hwant]
              exact List.mem_singleton_self _
            · rfl
          · rfl

/-- Where no report has ended, none has been accepted. -/
theorem accepted_of_not_called (hno : ∀ past d batch, (past, .report d batch) ∉ S.called h)
    (d : String) : S.accepted d h = [] := by
  induction h with
  | nil => rfl
  | cons moment h ih =>
      cases moment with
      | began actor task => exact ih hno
      | stepped s now actor input p =>
          have hnow : acceptedNow d (S.want s actor) input = none := by
            refine acceptedNow_eq_none (fun d' batch hwant => ?_) d input
            refine absurd (List.mem_append_left _ ?_) (hno h d' batch)
            rw [hwant]
            exact List.mem_singleton_self _
          rw [accepted_stepped, hnow, ih fun past d' batch hmem =>
            hno past d' batch (List.mem_append_right _ hmem)]
          rfl

/-- What ended among later moments of a run has ended in the run. -/
theorem mem_called_append {since : History σ τ ω ε} (h : History σ τ ω ε) {past : History σ τ ω ε}
    {call : RemoteCall} (hmem : (past, call) ∈ S.called since) :
    ∃ past', (past', call) ∈ S.called (since ++ h) := by
  induction since with
  | nil => cases hmem
  | cons moment since ih =>
      cases moment with
      | began actor task => exact ih hmem
      | stepped s now actor input p =>
          rcases List.mem_append.1 hmem with hnow | hold
          · refine ⟨since ++ h, List.mem_append_left _ ?_⟩
            unfold calledNow at hnow ⊢
            split at hnow
            · cases List.mem_singleton.1 hnow
              exact List.mem_singleton_self _
            · cases hnow
          · obtain ⟨past', hmem'⟩ := ih hold
            exact ⟨past', List.mem_append_right _ hmem'⟩

end System

/-! ## Exchanges -/

namespace Http

variable {server : Server}

/-- What is exchanged where an actor that waits for `want` takes a step. -/
def exchangedNow (connection : Connection) : Want → List Exchange
  | .reply call => (perform connection call).exchanges
  | _ => []

/-- What has been exchanged with a server in a run, in order. -/
def exchanged (S : System σ τ ω ε) (server : Server) : History σ τ ω ε → List Exchange
  | [] => []
  | .began _ _ :: h => exchanged S server h
  | .stepped s _ actor _ _ :: h =>
    exchanged S server h ++ exchangedNow (server (exchanged S server h)) (S.want s actor)

/-- The connection that a server is to a run. -/
def network (S : System σ τ ω ε) (server : Server) (past : History σ τ ω ε) : Connection :=
  server (exchanged S server past)

/-- **Every exchange comes from a call that has ended.** -/
theorem mem_exchanged_iff {e : Exchange} :
    e ∈ exchanged S server h ↔
      ∃ past call, (past, call) ∈ S.called h ∧ e ∈ (perform (network S server past) call).exchanges := by
  induction h with
  | nil =>
      constructor
      · nofun
      · rintro ⟨past, call, hmem, -⟩
        cases hmem
  | cons moment h ih =>
      cases moment with
      | began actor task => exact ih
      | stepped s now actor input p =>
          show e ∈ exchanged S server h ++ exchangedNow (network S server h) (S.want s actor) ↔
            ∃ past call, (past, call) ∈ System.calledNow h (S.want s actor) ++ S.called h ∧ _
          rw [List.mem_append, ih]
          constructor
          · rintro (⟨past, call, hmem, he⟩ | hnow)
            · exact ⟨past, call, List.mem_append_right _ hmem, he⟩
            · unfold exchangedNow at hnow
              split at hnow
              · next call hwant =>
                refine ⟨h, call, List.mem_append_left _ ?_, hnow⟩
                rw [hwant]
                exact List.mem_singleton_self _
              · cases hnow
          · rintro ⟨past, call, hmem, he⟩
            rcases List.mem_append.1 hmem with hnow | hold
            · right
              unfold System.calledNow at hnow
              split at hnow
              · next call' hwant =>
                cases List.mem_singleton.1 hnow
                rw [hwant]
                exact he
              · cases hnow
            · exact .inl ⟨past, call, hold, he⟩

/-! ## Exchanges of a call -/

/-- A call has led to an exchange with this outcome. -/
def Exchanged (exchanges : List Exchange) (call : RemoteCall) (outcome : Outcome) : Prop :=
  ∃ message, messageOf call = .ok message ∧ ⟨message, outcome⟩ ∈ exchanges

/-- A success has come back. -/
def Outcome.succeeds : Outcome → Bool
  | .answered response => isSuccess response.status
  | .failed _ => false

/-- Nothing has come back, or a failure of the server. -/
def Outcome.isOutage : Outcome → Bool
  | .answered response => 500 ≤ response.status
  | .failed _ => true

/-- A failure that counts as an outage comes from an outage. -/
theorem isOutage_of_isUnavailable {outcome : Outcome} {e : BackendError}
    (h : answerOf outcome = .error e) (hunavailable : e.isUnavailable = true) :
    outcome.isOutage = true := by
  cases outcome with
  | failed text => rfl
  | answered response =>
      rw [eq_unexpectedStatus h] at hunavailable
      exact hunavailable

/-- What is exchanged by a call is its request. -/
theorem messageOf_of_mem_perform {connection : Connection} {call : RemoteCall} {e : Exchange}
    (hmem : e ∈ (perform connection call).exchanges) : messageOf call = .ok e.request := by
  unfold perform at hmem
  split at hmem
  · cases hmem
  · next message hmessage =>
    dsimp only at hmem
    split at hmem
    · cases List.mem_singleton.1 hmem
      exact hmessage
    · cases hmem

/-- The response that is delivered to a call is exchanged for its request. -/
theorem exchanged_of_delivered {past : History σ τ ω ε} {call : RemoteCall} {response : Response}
    (hmem : (past, call) ∈ S.called h)
    (hresponse : delivered? (network S server past) call = some response) :
    Exchanged (exchanged S server h) call (.answered response) := by
  unfold delivered? at hresponse
  split at hresponse
  · next message response' hexchanges =>
    cases hresponse
    have he : ⟨message, .answered response⟩ ∈ (perform (network S server past) call).exchanges := by
      rw [hexchanges]
      exact List.mem_singleton_self _
    exact ⟨message, messageOf_of_mem_perform he, mem_exchanged_iff.2 ⟨past, call, hmem, he⟩⟩
  · cases hresponse

/-- A call whose request can be sent is made by sending it. -/
theorem perform_of_sendable {call : RemoteCall} {message : Request} (connection : Connection)
    (hmessage : messageOf call = .ok message) (hsendable : message.isSendable = true) :
    perform connection call = ⟨inputOf call (connection message), [⟨message, connection message⟩],
      observationsOf call (connection message)⟩ := by
  unfold perform send
  rw [hmessage]
  dsimp only
  rw [if_pos hsendable, if_pos hsendable]

/-- It leads to an exchange once it has ended. -/
theorem exchanged_of_called {past : History σ τ ω ε} {call : RemoteCall} {message : Request}
    (hmem : (past, call) ∈ S.called h) (hmessage : messageOf call = .ok message)
    (hsendable : message.isSendable = true) :
    Exchanged (exchanged S server h) call (network S server past message) := by
  refine ⟨message, hmessage, mem_exchanged_iff.2 ⟨past, call, hmem, ?_⟩⟩
  rw [perform_of_sendable _ hmessage hsendable]
  exact List.mem_singleton_self _

/-- A report can be sent to every backend that a client can be had for. -/
theorem exists_of_report {d : String} (hbuilt : build (.direct d) = .ok ()) (batch : Wire.Batch) :
    ∃ message, messageOf (.report d batch) = .ok message ∧ message.isSendable = true := by
  unfold build at hbuilt
  dsimp only at hbuilt
  cases hclient : BackendClient.ofDestination d with
  | error e =>
      rw [hclient] at hbuilt
      cases hbuilt
  | ok client =>
      refine ⟨client.report batch, ?_, rfl⟩
      unfold messageOf
      simp only [hclient]

theorem method_of_queryAt {d : String} {kind : QueryKind} {request : Wire.Request}
    {message : Request} (h : queryAt d kind request = .ok message) : message.method = .get := by
  unfold queryAt at h
  split at h
  · cases h
  · unfold BackendClient.query? at h
    split at h
    · cases h
    · cases h
      rfl

/-- Only reports are posted. -/
theorem exists_of_post {call : RemoteCall} {message : Request} (h : messageOf call = .ok message)
    (hpost : message.method = .post) : ∃ d batch, call = .report d batch := by
  cases call with
  | report d batch => exact ⟨d, batch, rfl⟩
  | authorize d request | authrep d request =>
      rw [method_of_queryAt h] at hpost
      cases hpost
  | fetch location token service environment =>
      unfold messageOf at h
      dsimp only at h
      split at h
      · cases h
      · cases h
        cases hpost

end Http

end GatewayAuth
