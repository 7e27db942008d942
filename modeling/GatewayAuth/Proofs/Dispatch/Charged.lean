import GatewayAuth.Proofs.Dispatch.Direct
import GatewayAuth.Proofs.Dispatch.Tally
import GatewayAuth.Proofs.Http.Answers
import GatewayAuth.Proofs.Shutdown.Delivered

/-!
# `GatewayAuth.Proofs.Dispatch.Charged` — the usage that authorizations stand for

A backend accepts usage in batches from the flushes of a buffered backend, and with the checks of limits that are made
directly. Either way it is that of an authorization that comes back authorized, and no other usage is accepted. So once
all authorizations have come back and nothing is left in a buffer, the usage that has been accepted is what they stand
for, whichever way each of them went.

## Contents
- `charged`, `usageAccepted`: usage that is accepted with checks of limits, and all that is accepted;
  `mem_chargedNow_iff`: over HTTP, a success accepts it.
- `chargesOf`, `Authorization.charges`: the usage that an authorization stands for.
- `Charges`, `Stepped.charges`, `charges_of_run`: usage comes with authorizations that come back authorized.
- `usageAccepted_eq`: all usage that has been accepted once nothing is held any more.
-/

namespace GatewayAuth.Manager

-- The zero of a sum is that of the core library, also where another one is in scope.
attribute [local instance (high)] Zero.ofOfNat0

/-! ## Usage that is accepted -/

/-- The request whose usage the backend at a destination accepts with a direct check of limits, when an actor that waits
for `want` is told `input`. -/
def chargedNow (d : String) (want : Want) : Input → List Wire.Request
  | .answered (.ok response) =>
    match want with
    | .reply (.authrep d' wire) => if response.authorized then (if d' = d then [wire] else []) else []
    | _ => []
  | _ => []

/-- The requests whose usage the backend at a destination has accepted with direct checks of limits. -/
def charged (d : String) : Past → List Wire.Request
  | [] => []
  | .began _ _ :: h => charged d h
  | .stepped m _ actor input _ :: h => chargedNow d (m.want actor) input ++ charged d h

/-- The usage in an account that the backend at a destination has accepted, in batches or with direct checks of limits. -/
def usageAccepted (d : String) (a : Account) (h : Past) : Int :=
  batchesAt (system.accepted d h) a + requestsAt (charged d h) a

/-- The request whose usage the answer to a task stands for at a destination: that of the task, if it is authorized. -/
def chargesOf (d : String) (task? : Option Task) :
    Except AuthorizerError AuthResponse → List Wire.Request
  | .ok response => if response.authorized then requestsFor d task? else []
  | .error _ => []

/-- The request whose usage an authorization that has come back stands for. -/
def Authorization.charges (d : String) (a : Authorization) : List Wire.Request :=
  chargesOf d (some (.authorize a.destination a.request)) a.result

variable {m : Manager} {h : Past} {now id : Nat} {actor : Actor} {input : Input} {d : String}
  {p : Progress Manager Result Event} {a : Account}

/-! ## Usage comes with authorizations -/

theorem chargedNow_eq_nil {want : Want} (hnot : ∀ d wire, want ≠ .reply (.authrep d wire)) :
    chargedNow d want input = [] := by
  unfold chargedNow
  split
  · split
    · next d' wire => exact absurd rfl (hnot d' wire)
    · rfl
  · rfl

/-- Over HTTP, usage is charged for with a direct check that is answered with a success, and with no other. -/
theorem mem_chargedNow_iff {connection : Http.Connection} {d' : String} {wire wire' : Wire.Request}
    {told : Except BackendError Wire.Response}
    (htold : (Http.perform connection (.authrep d' wire)).input = .answered told) :
    wire' ∈ chargedNow d (.reply (.authrep d' wire)) (.answered told) ↔ wire' = wire ∧ d' = d ∧
      ∃ reply, Http.delivered? connection (.authrep d' wire) = some reply ∧
        200 ≤ reply.status ∧ reply.status ≤ 299 := by
  -- a failure charges nothing
  have hsilent : Http.delivered? connection (.authrep d' wire) = none → ¬ ∃ reply,
      Http.delivered? connection (.authrep d' wire) = some reply ∧
        200 ≤ reply.status ∧ reply.status ≤ 299 := by
    rintro hnone ⟨reply, hreply, -⟩
    rw [hnone] at hreply
    cases hreply
  cases Http.checked_of_perform htold with
  | failed text silent => exact iff_of_false List.not_mem_nil fun h => hsilent silent h.2.2
  | notExpressed text silent => exact iff_of_false List.not_mem_nil fun h => hsilent silent h.2.2
  | @answered reply delivered =>
      constructor
      · intro hmem
        cases hanswer : Http.answerOf (.answered reply) with
        | error e =>
            rw [hanswer] at hmem
            cases hmem
        | ok answer =>
            rw [hanswer] at hmem
            unfold chargedNow at hmem
            dsimp only at hmem
            split at hmem
            · next hyes =>
              split at hmem
              · next hd =>
                exact ⟨List.mem_singleton.1 hmem, hd, reply, delivered,
                  Http.status_of_authorized hanswer hyes⟩
              · cases hmem
            · cases hmem
      · rintro ⟨rfl, rfl, reply', hreply, hfrom, hto⟩
        rw [delivered] at hreply
        cases hreply
        obtain ⟨answer, hanswer, hyes⟩ := Http.authorized_of_status hfrom hto
        rw [hanswer]
        unfold chargedNow
        dsimp only
        rw [if_pos hyes, if_pos rfl]
        exact List.mem_singleton_self _

/-- Only a call that has come to its direct check is charged for one. -/
theorem chargedNow_of_job {job : ManagerJob} (hjob : m.jobs.find? id = some job)
    (hnot : ∀ d wire, job ≠ .calling d wire) : chargedNow d (m.want (.call id)) input = [] := by
  refine chargedNow_eq_nil fun d' wire hwant => ?_
  obtain ⟨id', heq, hcalling⟩ := want_eq_authrep hwant
  cases heq
  rw [hjob] at hcalling
  exact hnot d' wire (Option.some.inj hcalling)

theorem answeredNow_eq_nil (hnot : ∀ answer, p.result? ≠ some (.answered answer)) :
    answeredNow d h m actor p = [] := by
  unfold answeredNow
  split
  · next hresult => exact absurd hresult (hnot _)
  · rfl

/-- What an authorization stands for where it comes back. -/
theorem flatMap_charges {d' : String} {request : AuthRequest}
    {result : Except AuthorizerError AuthResponse}
    (htask : h.task? (.call id) = some (.authorize d' request))
    (hresult : p.result? = some (.answered result)) :
    (completedNow h m (.call id) input p).flatMap (Authorization.charges d) =
      chargesOf d (some (.authorize d' request)) result := by
  unfold completedNow
  rw [htask, hresult]
  exact List.append_nil _

/-- A step charges for what comes back authorized with it, and for nothing else. -/
def Charges (d : String) (h : Past) (m : Manager) (actor : Actor) (input : Input)
    (p : Progress Manager Result Event) : Prop :=
  answeredNow d h m actor p ++ chargedNow d (m.want actor) input =
    (completedNow h m actor input p).flatMap (Authorization.charges d)

/-- A step that does not come to an answer. -/
theorem charges_of_unanswered (hcharged : chargedNow d (m.want actor) input = [])
    (hnot : ∀ answer, p.result? ≠ some (.answered answer)) : Charges d h m actor input p := by
  unfold Charges
  rw [answeredNow_eq_nil hnot, hcharged, completedNow_eq_nil hnot]
  rfl

section
variable {job : ManagerJob} {d' : String} {request : AuthRequest}

/-- A call that comes back with the answer of a buffered backend. -/
theorem charges_of_buffered {slot : Nat} {answer : Except BackendError Wire.Response}
    (hjob : m.jobs.find? id = some job)
    (hcases : job = .rechecking slot answer ∨ job = .flushing slot answer)
    (htask : h.task? (.call id) = some (.authorize d' request))
    (last : p.result? = some (.answered (AuthResponse.ofCall answer))) :
    Charges d h m (.call id) input p := by
  have hnot : ∀ d wire, job ≠ .calling d wire := by
    rcases hcases with rfl | rfl <;> nofun
  unfold Charges
  rw [chargedNow_of_job hjob hnot, List.append_nil, answeredNow_of_isBuffered hjob hcases last,
    owedOf_of_job hjob, htask, flatMap_charges htask last]
  rcases hcases with rfl | rfl <;> cases answer <;> rfl

/-- An authorization that fails before it has asked anything. -/
theorem charges_of_failed {e : AuthorizerError} (hjob : m.jobs.find? id = some job)
    (hnot : ∀ d wire, job ≠ .calling d wire) (hbeside : m.isBuffered id = false)
    (htask : h.task? (.call id) = some (.authorize d' request))
    (hresult : p.result? = some (.answered (.error e))) : Charges d h m (.call id) input p := by
  unfold Charges
  rw [answeredNow_of_not_isBuffered hbeside, chargedNow_of_job hjob hnot,
    flatMap_charges htask hresult]
  rfl

end

/-- **A step of a call charges for what comes back authorized with it**, and for nothing else. -/
theorem Called.charges (step : Called m now id input p) (hc : Coherent h m) (d : String) :
    Charges d h m (.call id) input p := by
  cases step with
  | @fetched job _ _ hjob step =>
      refine charges_of_unanswered (chargedNow_of_job hjob ?_) ?_
      · rintro d wire rfl
        cases step
      · obtain ⟨-, -, -, ⟨hnone, -⟩ | ⟨-, config, hconfig⟩⟩ := step.frame
        · intro answer hanswer
          rw [hnone] at hanswer
          cases hanswer
        · intro answer hanswer
          rw [hconfig] at hanswer
          cases hanswer
  | malformed hjob hwire =>
      obtain ⟨task, htask, rfl, -⟩ := hc.fits id _ hjob
      exact charges_of_failed hjob (fun d wire heq => (by cases heq))
        (by simp only [isBuffered, hjob]) htask rfl
  | notOpened hjob =>
      obtain ⟨task, htask, ⟨request, rfl, -⟩, -⟩ := hc.fits id _ hjob
      exact charges_of_failed hjob (fun d wire heq => (by cases heq))
        (by simp only [isBuffered, hjob]) htask rfl
  | returned hjob hr opened =>
      obtain ⟨task, htask, d', wire, ⟨request, rfl, -⟩, -⟩ := hc.fits id _ hjob
      exact charges_of_buffered hjob (.inl rfl) htask rfl
  | flushed hjob hr work last =>
      obtain ⟨task, htask, d', wire, ⟨request, rfl, -⟩, -⟩ := hc.fits id _ hjob
      exact charges_of_buffered hjob (.inr rfl) htask rfl
  | @called d' wire answer hjob =>
      obtain ⟨task, htask, hwants, -⟩ := hc.fits id _ hjob
      have hrequests := requestsFor_of_wants (d := d) hwants
      obtain ⟨request, rfl, -⟩ := hwants
      have hwant : m.want (.call id) = .reply (.authrep d' wire) := by
        unfold want
        simp only [hjob]
      unfold Charges
      rw [answeredNow_of_not_isBuffered (by simp only [isBuffered, hjob]), hwant,
        flatMap_charges htask rfl]
      cases answer with
      | error e => rfl
      | ok response =>
          show (if response.authorized then _ else _) = if response.authorized then _ else _
          rw [hrequests]
  | waited hjob hat hr work more =>
      refine charges_of_unanswered (chargedNow_of_job hjob ?_) fun answer hanswer => (by cases hanswer)
      rintro d wire rfl
      cases hat
  | acquires hjob | goesDirect hjob | acquired hjob | notAcquired hjob | answered hjob
  | overtaken hjob | opened hjob | followed hjob | drains hjob | drainsNothing hjob | drained hjob
  | stopsRefresh hjob | stopsNothing hjob | joined hjob =>
      exact charges_of_unanswered (chargedNow_of_job hjob fun d wire heq => (by cases heq))
        fun answer hanswer => (by cases hanswer)

/-- **Usage comes with what comes back authorized**, and with nothing else, whoever takes a step. -/
theorem Stepped.charges (step : Stepped m now actor input p) (hc : Coherent h m) (d : String) :
    Charges d h m actor input p := by
  -- a loop makes no direct checks
  have hcharged : (∀ id, actor ≠ .call id) → chargedNow d (m.want actor) input = [] := by
    intro hnot
    refine chargedNow_eq_nil fun d' wire hwant => ?_
    obtain ⟨id, heq, -⟩ := want_eq_authrep hwant
    exact hnot id heq
  cases step with
  | looped hr work => exact charges_of_unanswered (hcharged nofun) nofun
  | refreshed work => exact charges_of_unanswered (hcharged nofun) nofun
  | called step => exact step.charges hc d

/-- The usage that some authorizations stand for is the sum of what each stands for. -/
theorem requestsAt_flatMap {α : Type} (f : α → List Wire.Request) (l : List α) (a : Account) :
    requestsAt (l.flatMap f) a = (l.map fun x => requestsAt (f x) a).sum := by
  induction l with
  | nil => rfl
  | cons x rest ih => rw [List.flatMap_cons, requestsAt_append, ih, List.map_cons, List.sum_cons]

section
variable {start : Nat} {limits : Option CacheLimits} {settings : DispatchSettings}

/-- **Usage comes with what comes back authorized**, in every run. -/
theorem charges_of_run (run : Run system (.new start limits settings) h m) (d : String)
    (a : Account) : requestsAt (answeredIn d h) a + requestsAt (charged d h) a =
      ((authorizations h).map fun x => requestsAt (x.charges d) a).sum := by
  induction run with
  | start => rfl
  | begins run hbegin ih => exact ih
  | @steps h m now actor input p run hstep ih =>
      have hcharges : Charges d h m actor input p :=
        (stepped_of_step hstep).charges (coherent_of_run run) d
      have hcharges := congrArg (requestsAt · a) hcharges
      simp only [requestsAt_append, requestsAt_flatMap] at hcharges
      unfold answeredIn charged authorizations
      rw [requestsAt_append, requestsAt_append, List.map_append, List.sum_append, ← ih, ← hcharges]
      omega

/-! ## When nothing is held any more -/

/-- A backend holds nothing if its buffer is empty and nobody is at work at it. -/
theorem heldAt_eq_zero {b : BufferedBackend} (hempty : b.buffer = .empty)
    (hnobody : ∀ actor, b.jobs.find? actor = none) : b.heldAt a = 0 := by
  have hflight : b.inFlightAt a = 0 := by
    refine Table.sumOf_eq_zero fun actor job hjob => ?_
    rw [hnobody actor] at hjob
    cases hjob
  unfold BufferedBackend.heldAt
  rw [hempty, hflight]
  rfl

/-- With buffered backends, nothing is held once a shutdown and all authorizations have come back. -/
theorem AllAnswered.heldFor_eq_zero (hall : AllAnswered h m)
    (run : Run system (.new start limits settings) h m) (reports : system.ReportsSucceed h)
    {task : Task} (hstopped : (task, .stopped) ∈ h.outcomes) :
    Registry.heldFor m.backends.slots d a = 0 := by
  have hc := coherent_of_run run
  have hdrained := drained_of_stopped run hstopped
  refine sum_map_eq_zero fun s hmem => ?_
  obtain ⟨slot, hs⟩ := List.getElem?_of_mem hmem
  have hnobody := hall.nobody_at_work hc hdrained hs
  -- after the shutdown a buffer is empty, or a call that has not come back is about to flush it
  rcases buffer_empty_or_last run reports hs with
    hempty | ⟨id, ⟨hrunning, -⟩ | ⟨answer, hmine | ⟨-, s', hs', hwork⟩⟩⟩
  · rw [heldAt_eq_zero hempty hnobody, ite_self]
  · exact absurd (hdrained.exited slot s hs) hrunning
  · exact absurd rfl ((hall.no_answer hc hmine).2.1 slot answer)
  · rw [hs] at hs'
    cases hs'
    rw [hnobody] at hwork
    cases hwork

/-- Without buffered backends there are no slots. -/
theorem slots_eq_nil_of_run (run : Run system (.new start limits settings) h m)
    (hdirect : settings.buffered = false) : m.backends.slots = [] := by
  have hregistry := registry_isSome_of_run run
  rw [hdirect, Option.isSome_eq_false_iff, Option.isNone_iff_eq_none] at hregistry
  unfold backends
  rw [hregistry]
  rfl

/-- So nothing is formed there. -/
theorem formedIn_eq_nil (run : Run system (.new start limits settings) h m)
    (hdirect : settings.buffered = false) (d : String) (a : Account) : formedIn d a h = [] := by
  induction run with
  | start => rfl
  | begins run hbegin ih => exact ih
  | steps run hstep ih =>
      unfold formedIn Registry.formedFor
      rw [slots_eq_nil_of_run run hdirect, ih]
      rfl

/-- **Once all have been answered and nothing is held, the usage that has been accepted is that of the authorizations that
have come back authorized.** -/
theorem AllAnswered.usageAccepted_eq (hall : AllAnswered h m)
    (run : Run system (.new start limits settings) h m)
    (hheld : Registry.heldFor m.backends.slots d a = 0) (fits : ∀ n ∈ formedIn d a h, InRange n) :
    usageAccepted d a h = ((authorizations h).map fun x => requestsAt (x.charges d) a).sum := by
  have hrecorded := recorded_eq_held_add_accepted run fits
  have hanswered := recorded_eq_answered_add_owed run d a
  rw [hall.owedAt_eq_zero (coherent_of_run run)] at hanswered
  rw [hheld, hanswered] at hrecorded
  rw [← charges_of_run run d a]
  unfold usageAccepted
  omega

end

end GatewayAuth.Manager
