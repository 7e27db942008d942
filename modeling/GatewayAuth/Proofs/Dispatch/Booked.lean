import GatewayAuth.Proofs.Dispatch.Soundness
import GatewayAuth.Proofs.Dispatch.Tally
import GatewayAuth.Proofs.Http.Refusal
import GatewayAuth.Proofs.Shutdown.Lone

/-!
# `GatewayAuth.Proofs.Dispatch.Booked` — what becomes of the usage of the only authorization

Over HTTP, the usage of an authorization that comes back authorized has been charged for with a check of limits, or it has
been recorded. What has been recorded is reported before a shutdown returns, and where it is the usage of the only
authorization the report carries exactly that. Whether the report is accepted is another matter: nobody waits for it.

## Contents
- `exists_authorization_of_outcome`: what comes out of an authorization is what it comes back with.
- `Booking`, `Booked`: what has been exchanged about the usage of a request.
- `booking_of_asked`, `booked_of_run`: that of the only authorization, once a shutdown has returned.
-/

namespace GatewayAuth.Manager

variable {m : Manager} {h : Past} {d : String} {request : AuthRequest} {wire : Wire.Request}
  {batch : Wire.Batch} {t : Transaction} {start : Nat} {limits : Option CacheLimits}
  {settings : DispatchSettings} {server : Http.Server}

/-- What comes out of an authorization is what it comes back with. -/
theorem exists_authorization_of_outcome {result : Result}
    (run : Run system (.new start limits settings) h m)
    (hmem : (.authorize d request, result) ∈ h.outcomes) :
    ∃ a ∈ authorizations h, result = .answered a.result := by
  induction run with
  | start => cases hmem
  | begins run hbegin ih => exact ih hmem
  | @steps h m now actor input p run hstep ih =>
      rcases History.mem_or_completed hmem with hold | ⟨hresult, htask⟩
      · obtain ⟨a, ha, hsame⟩ := ih hold
        exact ⟨a, List.mem_append_right _ ha, hsame⟩
      · cases stepped_of_step hstep with
        | looped hr work => cases hresult
        | refreshed work => cases hresult
        | @called id _ _ step =>
            rcases step.comes_back (coherent_of_run run) with ⟨hnone, -⟩ | ⟨-, result', hback, hanswer⟩
            · rw [hresult] at hnone
              cases hnone
            · rw [hresult] at hback
              cases hback
              obtain ⟨answer, rfl⟩ := hanswer d request htask
              have hnow : ∃ a ∈ completedNow h m (.call id) input p, a.result = answer := by
                unfold completedNow
                rw [hresult, htask]
                exact ⟨_, List.mem_singleton_self _, rfl⟩
              obtain ⟨a, ha, rfl⟩ := hnow
              exact ⟨a, List.mem_append_left _ ha, rfl⟩

/-! ## Exchanges about usage -/

/-- What has been exchanged about usage that a request was authorized for: a check that charges for it has succeeded; or,
with buffered backends, the check of limits has succeeded, or has met with an outage under the open policy, and the usage
has been reported, which the backend may have accepted or not. -/
inductive Booking (settings : DispatchSettings) (exchanges : List Http.Exchange) (d : String)
    (wire : Wire.Request) (batch : Wire.Batch) : Prop where
  | charged {outcome : Http.Outcome} (exchanged : Http.Exchanged exchanges (.authrep d wire) outcome)
      (success : outcome.succeeds = true)
  | reported {checked outcome : Http.Outcome} (buffered : settings.buffered = true)
      (asked : Http.Exchanged exchanges (.authorize d wire) checked)
      (allowed : checked.succeeds = true ∨ settings.policy = .opened ∧ checked.isOutage = true)
      (exchanged : Http.Exchanged exchanges (.report d batch) outcome)

/-- The usage of a request has been booked, and no other usage has been reported. -/
structure Booked (settings : DispatchSettings) (exchanges : List Http.Exchange) (d : String)
    (wire : Wire.Request) (batch : Wire.Batch) : Prop where
  usage : Booking settings exchanges d wire batch
  only : ∀ e ∈ exchanges, e.request.method = .post →
    Http.messageOf (.report d batch) = .ok e.request

/-- A call that a success is delivered to has led to an exchange with a success. -/
theorem exchanged_of_success {past : Past} {call : RemoteCall}
    (hcalled : (past, call) ∈ system.called h)
    (hsuccess : ∃ reply, Http.delivered? (Http.network system server past) call = some reply ∧
      200 ≤ reply.status ∧ reply.status ≤ 299) :
    ∃ outcome, Http.Exchanged (Http.exchanged system server h) call outcome ∧
      outcome.succeeds = true := by
  obtain ⟨reply, hreply, hfrom, hto⟩ := hsuccess
  refine ⟨_, Http.exchanged_of_delivered hcalled hreply, ?_⟩
  simp [Http.Outcome.succeeds, Http.isSuccess, hfrom, hto]

/-- A check of limits that has failed as in an outage has met with an outage, if it could be sent. -/
theorem exchanged_of_outage {past : Past} {e : BackendError}
    (hcalled : (past, .authorize d wire) ∈ system.called h)
    (hbuilt : Http.build (.direct d) = .ok ()) (hsome : wire.transactions ≠ [])
    (hsendable : Http.sendableExtensions wire = true)
    (htold : (Http.perform (Http.network system server past) (.authorize d wire)).input =
      .answered (.error e))
    (hunavailable : e.isUnavailable = true) :
    ∃ checked, Http.Exchanged (Http.exchanged system server h) (.authorize d wire) checked ∧
      checked.isOutage = true := by
  obtain ⟨message, hmessage, hperform⟩ := Http.exists_of_sendable hbuilt
    (Http.network system server past) .authorize hsome hsendable
  unfold Http.QueryKind.call at hmessage hperform
  rw [hperform] at htold
  refine ⟨Http.network system server past message,
    ⟨message, hmessage, Http.mem_exchanged_iff.2 ⟨past, _, hcalled, ?_⟩⟩, ?_⟩
  · rw [hperform]
    exact List.mem_singleton_self _
  · exact Http.isOutage_of_isUnavailable (Input.answered.inj htold) hunavailable

/-! ## The only authorization -/

/-- What an authorization has asked, and what it has been told, books its usage, if that has been reported. -/
theorem booking_of_asked {a : Authorization} (run : Run system (.new start limits settings) h m)
    (http : system.Told (Http.through (Http.network system server)) h)
    (ha : a ∈ authorizations h) (hyes : a.isAuthorized = true) (hwire : a.request.toWire = .ok wire)
    (hsome : wire.transactions ≠ []) (hsendable : Http.sendableExtensions wire = true)
    (hreported : ∃ past, (past, .report a.destination batch) ∈ system.called h) :
    Booking settings (Http.exchanged system server h) a.destination wire batch := by
  have haccounted := accounted_of_run run (http.imp fun _ _ _ _ => builtAs_of_through) a ha
  have htold := told_of_asked run http a ha
  have hcalled : ∀ c ∈ a.asked, (c.before, c.call) ∈ system.called h := fun c => called_of_asked ha
  -- a question that the backend has answered as authorized
  have hsuccess : ∀ c ∈ a.asked, ∀ response, c.told = .ok response → response.authorized = true →
      ∃ outcome, Http.Exchanged (Http.exchanged system server h) c.call outcome ∧
        outcome.succeeds = true := by
    intro c hc response hok hauthorized
    obtain ⟨id, hrule, -⟩ := htold c hc
    have hchecked : Http.Checked (Http.network system server c.before) c.call c.told :=
      Http.checked_of_perform (hrule.2 _ rfl).symm
    exact exchanged_of_success (hcalled c hc) (succeeds_of_authorized hchecked hok hauthorized)
  obtain ⟨number, d, request, asked, result⟩ := a
  dsimp only at haccounted hwire hreported hsuccess hcalled htold ⊢
  unfold Authorization.isAuthorized at hyes
  dsimp only at hyes
  cases haccounted with
  | malformed => cases hyes
  | notOpened => cases hyes
  | @direct wire' past told hwire' built =>
      rw [hwire] at hwire'
      cases hwire'
      cases told with
      | error e => cases hyes
      | ok response =>
          obtain ⟨outcome, hexchanged, hsucceeds⟩ :=
            hsuccess _ (List.mem_singleton_self _) response rfl hyes
          exact .charged hexchanged hsucceeds
  | @buffered wire' past told hwire' built hbuffered =>
      rw [hwire] at hwire'
      cases hwire'
      obtain ⟨past', hreported⟩ := hreported
      obtain ⟨message, hmessage, hsends⟩ := Http.exists_of_report built batch
      have hreport : Http.Exchanged (Http.exchanged system server h) (.report d batch) _ :=
        Http.exchanged_of_called hreported hmessage hsends
      cases hanswer : settings.policy.settle told with
      | error e =>
          rw [hanswer] at hyes
          cases hyes
      | ok response =>
          rw [hanswer] at hyes
          rcases authorized_of_settle hanswer with hok | ⟨hopened, e, rfl, hunavailable⟩
          · obtain ⟨checked, hexchanged, hsucceeds⟩ :=
              hsuccess _ (List.mem_singleton_self _) response hok hyes
            exact .reported hbuffered hexchanged (.inl hsucceeds) hreport
          · obtain ⟨id, hrule, -⟩ := htold _ (List.mem_singleton_self _)
            obtain ⟨checked, hexchanged, houtage⟩ := exchanged_of_outage
              (hcalled _ (List.mem_singleton_self _)) built hsome hsendable (hrule.2 _ rfl).symm
              hunavailable
            exact .reported hbuffered hexchanged (.inr ⟨hopened, houtage⟩) hreport

/-- **The usage of the only authorization is booked**, once it has come back authorized and a shutdown has returned. -/
theorem booked_of_run {a : Authorization} {metric : String} {task : Task}
    (run : Run system (.new start limits settings) h m)
    (http : system.Told (Http.through (Http.network system server)) h)
    (hone : requested h = [(d, request)]) (hwire : request.toWire = .ok wire)
    (ht : wire.transactions = [t]) (hsendable : Http.sendableExtensions wire = true)
    (hmetric : t.usage.contains metric = true) (ha : a ∈ authorizations h)
    (hyes : a.isAuthorized = true) (hstopped : (task, .stopped) ∈ h.outcomes) :
    Booked settings (Http.exchanged system server h) d wire ((wire.keyOf t).batch t.usage) := by
  obtain ⟨hall, hasking⟩ := allAnswered_of_requested run hone ha
  have hd : a.destination = d := congrArg Asking.destination hasking
  have hrequest : a.request = request := congrArg Asking.request hasking
  subst hd hrequest
  constructor
  case usage =>
    -- the usage that it stands for was charged for, or recorded
    rcases mem_answeredIn_or_charged run ha (a.mem_charges hyes hwire) with hanswered | hcharged
    · have hrecorded := (mem_recordedIn run a.destination).1 wire hanswered
      have hmem : t ∈ wire.transactions := by rw [ht]; exact List.mem_singleton_self t
      obtain ⟨past, d', batch, hreported⟩ := exists_reported run hall hrecorded hmem hmetric hstopped
      obtain ⟨rfl, rfl⟩ := eq_of_reported run hone hwire ht hreported
      exact booking_of_asked run http ha hyes hwire (List.ne_nil_of_mem hmem) hsendable ⟨past, hreported⟩
    · obtain ⟨past, hcalled, hreply⟩ := exists_called_of_charged http hcharged
      obtain ⟨outcome, hexchanged, hsuccess⟩ := exchanged_of_success hcalled hreply
      exact .charged hexchanged hsuccess
  case only =>
    intro e he hpost
    obtain ⟨past, call, hcalled, hmem⟩ := Http.mem_exchanged_iff.1 he
    have hmessage := Http.messageOf_of_mem_perform hmem
    obtain ⟨d', batch, rfl⟩ := Http.exists_of_post hmessage hpost
    obtain ⟨rfl, rfl⟩ := eq_of_reported run hone hwire ht hcalled
    exact hmessage

end GatewayAuth.Manager
