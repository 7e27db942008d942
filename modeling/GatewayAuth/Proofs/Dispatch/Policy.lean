import GatewayAuth.Proofs.Dispatch.Direct
import GatewayAuth.Proofs.Dispatch.Soundness

/-!
# `GatewayAuth.Proofs.Dispatch.Policy` — where the open policy holds

The policy for outages is one of buffered backends. A check of limits that one of them has made is settled by it, even if
a shutdown has overtaken the call since. A call that goes to its backend directly is answered as it was told, whatever
the policy: a manager without buffered backends consults none, nor does a call that could not have its buffered backend.

## Contents
- `Consultation.isOutage`: an unavailable backend.
- `FailsOpen`, `failsOpen_of_run`: what the open policy does for the authorizations of a run.
- `outage_denied_directly`: it does nothing for direct calls.
-/

namespace GatewayAuth.Manager

/-- Whether the backend was unavailable when it was asked. -/
def Consultation.isOutage (c : Consultation) : Bool :=
  match c.told with
  | .ok _ => false
  | .error e => e.isUnavailable

theorem Consultation.exists_of_isOutage {c : Consultation} (houtage : c.isOutage = true) :
    ∃ e, c.told = .error e ∧ e.isUnavailable = true := by
  unfold isOutage at houtage
  split at houtage
  · cases houtage
  · next e htold => exact ⟨e, htold, houtage⟩

/-- What the open policy makes of an outage. -/
theorem ofCall_settle_of_isUnavailable {e : BackendError} (hunavailable : e.isUnavailable = true) :
    AuthResponse.ofCall (FailurePolicy.opened.settle (.error e)) = .ok ⟨true, none, none, e.raw?⟩ := by
  unfold FailurePolicy.settle FailurePolicy.allows
  dsimp only
  rw [if_pos hunavailable]
  rfl

variable {m : Manager} {h : Past} {settings : DispatchSettings} {start : Nat}
  {limits : Option CacheLimits}

/-- What the open policy does for the authorizations of a run. -/
structure FailsOpen (settings : DispatchSettings) (h : Past) (m : Manager) : Prop where
  /-- Questions are asked by buffered backends; with a manager that has them, a question is asked directly only by a call
  that could not have its buffered backend. -/
  asked : ∀ a ∈ authorizations h, ∀ c ∈ a.asked, ∃ wire, a.request.toWire = .ok wire ∧
    (c.call = .authorize a.destination wire ∧ settings.buffered = true ∨
      c.call = .authrep a.destination wire ∧ (settings.buffered = true →
        ∃ id, numberOf id c.before = a.number ∧ FellBack id a.destination c.before))
  /-- Where a buffered backend has asked and the backend was unavailable, the call is let through, and gets the body if
  there was one. -/
  authorized : ∀ a ∈ authorizations h, ∀ c ∈ a.asked, ∀ wire, c.call = .authorize a.destination wire →
    c.isOutage = true → a.isAuthorized = true ∧
      ∃ e, c.told = .error e ∧ a.result = .ok ⟨true, none, none, e.raw?⟩
  /-- If that call is still in progress it comes back so. -/
  returns : ∀ id, m.jobs.find? id ≠ none → ∀ c ∈ consulted id h, c.isOutage = true →
    ∃ e, c.told = .error e ∧ m.ReturnsWith id (.answered (.ok ⟨true, none, none, e.raw?⟩))
  /-- A direct call is answered as it was told. -/
  direct : ∀ a ∈ authorizations h, ∀ c ∈ a.asked, ∀ wire, c.call = .authrep a.destination wire →
    a.result = AuthResponse.ofCall c.told

/-- What is true of the authorization that ends in one of the known ways. -/
theorem settled_of_accounted {direct : String → Except AuthorizerError Unit → Prop}
    {a : Authorization} {c : Consultation}
    (haccounted : Accounted direct settings a.destination a.request a.asked a.result)
    (hc : c ∈ a.asked) : ∃ wire, a.request.toWire = .ok wire ∧
      (c.call = .authorize a.destination wire ∧ settings.buffered = true ∧
          a.result = AuthResponse.ofCall (settings.policy.settle c.told) ∨
        c.call = .authrep a.destination wire ∧ a.result = AuthResponse.ofCall c.told) := by
  obtain ⟨number, d, request, asked, result⟩ := a
  dsimp only at haccounted hc ⊢
  cases haccounted with
  | malformed hwire => cases hc
  | notOpened hwire notBuilt => cases hc
  | @direct wire past told hwire built =>
      cases List.mem_singleton.1 hc
      exact ⟨wire, hwire, .inr ⟨rfl, rfl⟩⟩
  | @buffered wire past told hwire built hbuffered =>
      cases List.mem_singleton.1 hc
      exact ⟨wire, hwire, .inl ⟨rfl, hbuffered, rfl⟩⟩

/-- A call that has asked its backend directly, in a manager with buffered backends, could not have its own. -/
theorem fellBack_of_authorizations (run : Run system (.new start limits settings) h m)
    (hbuffered : settings.buffered = true) :
    ∀ a ∈ authorizations h, ∀ c ∈ a.asked, ∀ d wire, c.call = .authrep d wire →
      ∃ id, numberOf id c.before = a.number ∧ FellBack id d c.before := by
  have told : system.Told (fun _ _ _ _ => True) h := .of_forall (fun _ _ _ _ => trivial) h
  refine forall_authorizations run told ?_
  intro h m now id input p d request result run step told hrule htask hresult c hc d wire hcall
  refine ⟨id, ?_⟩
  rcases List.mem_append.1 hc with hnew | hold
  · refine ⟨?_, fellBack_of_consultedNow run hbuffered hnew hcall⟩
    rw [before_of_consultedNow hnew]
  · exact ⟨(told_of_consulted told hold).2, fellBack_of_consulted run hbuffered hold hcall⟩

/-- **The open policy lets through what finds its backend unavailable**, where it goes through a buffered backend. -/
theorem failsOpen_of_run (run : Run system (.new start limits settings) h m)
    (hopened : settings.policy = .opened) : FailsOpen settings h m := by
  -- how clients are built plays no part here
  have built : system.Told (builtAs fun _ _ => True) h :=
    .of_forall (fun _ _ _ _ => ⟨fun _ _ _ _ => trivial, fun _ _ _ => trivial⟩) h
  have haccounted := accounted_of_run run built
  constructor
  case asked =>
    intro a ha c hc
    obtain ⟨wire, hwire, ⟨hcall, hbuffered, -⟩ | ⟨hcall, -⟩⟩ :=
      settled_of_accounted (haccounted a ha) hc
    · exact ⟨wire, hwire, .inl ⟨hcall, hbuffered⟩⟩
    · refine ⟨wire, hwire, .inr ⟨hcall, fun hbuffered => ?_⟩⟩
      exact fellBack_of_authorizations run hbuffered a ha c hc _ _ hcall
  case authorized =>
    intro a ha c hc wire hcall houtage
    obtain ⟨e, htold, hunavailable⟩ := Consultation.exists_of_isOutage houtage
    obtain ⟨wire', -, ⟨-, -, hresult⟩ | ⟨hcall', -⟩⟩ := settled_of_accounted (haccounted a ha) hc
    · rw [htold, hopened, ofCall_settle_of_isUnavailable hunavailable] at hresult
      refine ⟨?_, e, htold, hresult⟩
      unfold Authorization.isAuthorized
      rw [hresult]
    · rw [hcall] at hcall'
      cases hcall'
  case returns =>
    intro id hbusy c hc houtage
    obtain ⟨e, htold, hunavailable⟩ := Consultation.exists_of_isOutage houtage
    have hreturns := returns_of_consulted run built hc hbusy
    rw [htold, hopened, ofCall_settle_of_isUnavailable hunavailable] at hreturns
    exact ⟨e, htold, hreturns⟩
  case direct =>
    intro a ha c hc wire hcall
    obtain ⟨wire', -, ⟨hcall', -⟩ | ⟨-, hresult⟩⟩ := settled_of_accounted (haccounted a ha) hc
    · rw [hcall] at hcall'
      cases hcall'
    · exact hresult

/-! ## Outages -/

/-- What an actor is told during an outage. Clients for buffered backends are built or not. -/
def tellOutage (created : Bool) (_ : Past) (_ : Actor) : Want → Input
  | .client (.buffered d) =>
    .built (if created then .ok () else .error (Registry.shuttingDown d))
  | .client _ => .built (.ok ())
  | .reply _ => .answered (.error (.transport "connection refused"))
  | .tick _ => .tick
  | .turn => .turn
  | .nothing => .turn

/-- A run during an outage. -/
def outage (created : Bool) (settings : DispatchSettings) (moves : List (Actor × (Nat ⊕ Task))) :
    Past × Manager :=
  system.playIn (tellOutage created) [] (.new 0 none settings) moves

theorem run_outage (created : Bool) (settings : DispatchSettings)
    (moves : List (Actor × (Nat ⊕ Task))) :
    Run system (.new 0 none settings) (outage created settings moves).1
      (outage created settings moves).2 :=
  System.run_playIn _ moves .start

/-- A shutdown that has told the backends. -/
def closing (id : Nat) : List (Actor × (Nat ⊕ Task)) :=
  (.call id, .inr .shutdown) :: steps 3 (.call id)

/-- One authorization has come back, and another one has its answer when a shutdown overtakes it. -/
theorem failsOpen_overtaken :
    let run := outage true openSettings
      (authorizes 0 "http://a" access ++ (.call 1, .inr (.authorize "http://a" access)) :: steps 5 (.call 1) ++
        closing 2)
    (authorizations run.1).map Authorization.isAuthorized = [true] ∧
      (consulted 1 run.1).map Consultation.isOutage = [true] ∧ run.2.jobs.find? 1 ≠ none ∧
      FailsOpen openSettings run.1 run.2 := by
  refine ⟨by decide +kernel, by decide +kernel, by decide +kernel, ?_⟩
  exact failsOpen_of_run (run_outage _ _ _) rfl

/-- Whether all that have found their backend unavailable have been let through. -/
def OutagesAuthorized (h : Past) : Prop :=
  ∀ a ∈ authorizations h, ∀ c ∈ a.asked, c.isOutage = true → a.isAuthorized = true

instance (h : Past) : Decidable (OutagesAuthorized h) :=
  inferInstanceAs (Decidable (∀ a ∈ authorizations h, ∀ c ∈ a.asked, c.isOutage = true →
    a.isAuthorized = true))

/-- **A direct call is not let through in an outage**: where there are no buffered backends, where the one for the
destination could not be created, and where the manager has begun to shut down. -/
theorem outage_denied_directly :
    ¬ OutagesAuthorized (outage true ⟨false, 15000, .opened⟩ (authorizes 0 "http://a" access)).1 ∧
      ¬ OutagesAuthorized (outage false openSettings (authorizes 0 "http://a" access)).1 ∧
      ¬ OutagesAuthorized
        (outage true openSettings (closing 1 ++ authorizes 0 "http://a" access)).1 := by
  decide +kernel

end GatewayAuth.Manager
