import GatewayAuth.Proofs.Dispatch.Charged
import GatewayAuth.Proofs.Dispatch.Completion
import GatewayAuth.Proofs.Dispatch.Soundness

/-!
# `GatewayAuth.Proofs.Dispatch.Equivalence` — with buffered backends as without

Under the closed policy, what an authorization comes to is decided by its request, by whether a client for its
destination can be had, and by the answer to its one question, whichever way that is asked. So a manager with buffered
backends gives the same answers as one without, and once it has been shut down the backends have accepted the same
usage: whatever clients for buffered backends could not be built, wherever flushes came between, and in whatever order
calls took their steps.

## Contents
- `answersBy`: runs in which the answer to an authorization goes by its number.
- `outcomeOf`, `result_of_run`: what an authorization comes to.
- `answersOf`, `dispatch_equivalent`: the same answers and the same usage, with buffered backends and without.
-/

namespace GatewayAuth.Manager

-- The zero of a sum is that of the core library, also where another one is in scope.
attribute [local instance (high)] Zero.ofOfNat0

/-- Direct clients are built as `built` says, while one for a buffered backend may fail to be built at any time. The n-th
authorization is answered with `answer n`, whether it asks directly or through a buffered backend. -/
def answersBy (built : String → Except AuthorizerError Unit)
    (answer : Nat → Except BackendError Wire.Response) (past : Past) (actor : Actor) (want : Want)
    (input : Input) : Prop :=
  (∀ d, want = .client (.direct d) → input = .built (built d)) ∧
    (∀ d, want = .client (.buffered d) → input = .built (.ok ()) → built d = .ok ()) ∧
    ∀ id d wire, actor = .call id → want = .reply (.authorize d wire) ∨ want = .reply (.authrep d wire) →
      input = .answered (answer (numberOf id past))

/-- What an authorization comes to under the closed policy, going by the answer to its question. -/
def outcomeOf (built : String → Except AuthorizerError Unit)
    (answer : Nat → Except BackendError Wire.Response) (a : Asking) :
    Except AuthorizerError AuthResponse :=
  match a.request.toWire with
  | .error e => .error e
  | .ok _ =>
    match built a.destination with
    | .error e => .error e
    | .ok () => AuthResponse.ofCall (answer a.number)

/-- What the authorizations that have come back have asked for, and what they have come to. -/
def answersOf (h : Past) : List (Asking × Except AuthorizerError AuthResponse) :=
  (authorizations h).map fun a => (a.asking, a.result)

variable {m m' : Manager} {h h' : Past} {start start' : Nat} {limits limits' : Option CacheLimits}
  {settings : DispatchSettings} {built : String → Except AuthorizerError Unit}
  {answer : Nat → Except BackendError Wire.Response}

theorem builtAs_of_answersBy {past : Past} {actor : Actor} {want : Want} {input : Input}
    (h : answersBy built answer past actor want input) :
    builtAs (fun d result => built d = result) past actor want input := by
  refine ⟨fun d result hwant hinput => ?_, h.2.1⟩
  have hbuilt := h.1 d hwant
  rw [hinput] at hbuilt
  exact (Input.built.inj hbuilt).symm

/-- **What an authorization comes to is decided by its request, its destination and its answer.** -/
theorem result_of_run (run : Run system (.new start limits settings) h m)
    (told : system.Told (answersBy built answer) h)
    (hclosed : settings.buffered = true → settings.policy = .closed) :
    ∀ a ∈ authorizations h, a.result = outcomeOf built answer a.asking := by
  have haccounted := accounted_of_run run (told.imp fun _ _ _ _ => builtAs_of_answersBy)
  intro a ha
  have hasked := told_of_asked run told a ha
  specialize haccounted a ha
  obtain ⟨number, d, request, asked, result⟩ := a
  unfold outcomeOf Authorization.asking
  dsimp only at haccounted hasked ⊢
  -- without a wire form or a client nothing is asked; otherwise the answer to the one question decides
  cases haccounted with
  | malformed hwire => rw [hwire]
  | notOpened hwire notBuilt => rw [hwire, notBuilt]
  | @direct wire past told hwire hbuilt =>
      obtain ⟨id, hrule, hnumber⟩ := hasked _ (List.mem_singleton_self _)
      have htold := Input.answered.inj (hrule.2.2 id d wire rfl (.inr rfl))
      rw [hwire, hbuilt, ← hnumber]
      exact congrArg AuthResponse.ofCall htold
  | @buffered wire past told hwire hbuilt hbuffered =>
      obtain ⟨id, hrule, hnumber⟩ := hasked _ (List.mem_singleton_self _)
      have htold := Input.answered.inj (hrule.2.2 id d wire rfl (.inl rfl))
      rw [hwire, hbuilt, ← hnumber, hclosed hbuffered, FailurePolicy.settle_closed]
      exact congrArg AuthResponse.ofCall htold

/-- Once all have been answered, each has come to what its answer decides. -/
theorem answersOf_perm (run : Run system (.new start limits settings) h m)
    (told : system.Told (answersBy built answer) h)
    (hclosed : settings.buffered = true → settings.policy = .closed) (hall : AllAnswered h m) :
    (answersOf h).Perm ((numbered (requested h)).map fun a => (a, outcomeOf built answer a)) := by
  have hresult := result_of_run run told hclosed
  have hanswers : answersOf h =
      ((authorizations h).map Authorization.asking).map fun a => (a, outcomeOf built answer a) := by
    unfold answersOf
    rw [List.map_map]
    exact List.map_congr_left fun a ha => congrArg (Prod.mk a.asking) (hresult a ha)
  rw [hanswers]
  exact (askings_perm run hall).map _

/-- The usage of the authorizations that have come back goes by their answers. -/
theorem sum_charges (h : Past) (d : String) (a : Account) :
    ((authorizations h).map fun x => requestsAt (x.charges d) a).sum =
      ((answersOf h).map fun x =>
        requestsAt (chargesOf d (some (.authorize x.1.destination x.1.request)) x.2) a).sum := by
  unfold answersOf
  rw [List.map_map]
  rfl

/-- **With buffered backends as without.** Let the same be asked for in two runs, one of a manager with buffered backends
and the closed policy, and one of a manager without; let the n-th authorization be answered alike in both. Asked for one
after the other, authorizations come back from either manager. Once all of them have, they have come back with the same;
and once the first manager has been shut down and if all reports were accepted, the backends have accepted the same usage
in every account whose running totals have kept within 64 bits. -/
theorem dispatch_equivalent {every every' : Nat} {policy : FailurePolicy} {task : Task}
    (run : Run system (.new start limits ⟨true, every, .closed⟩) h m)
    (run' : Run system (.new start' limits' ⟨false, every', policy⟩) h' m')
    (told : system.Told (answersBy built answer) h) (told' : system.Told (answersBy built answer) h')
    (same : requested h = requested h') (hall : AllAnswered h m) (hall' : AllAnswered h' m')
    (reports : system.ReportsSucceed h) (hstopped : (task, .stopped) ∈ h.outcomes) :
    Responsive (.new start limits ⟨true, every, .closed⟩) ∧
      Responsive (.new start' limits' ⟨false, every', policy⟩) ∧
      (answersOf h).Perm (answersOf h') ∧
      (answersOf h').Perm ((numbered (requested h)).map fun a => (a, outcomeOf built answer a)) ∧
      ∀ d a, (∀ n ∈ formedIn d a h, InRange n) → usageAccepted d a h = usageAccepted d a h' := by
  -- either manager has brought back what was asked for, with what the answers decide
  have hperm := answersOf_perm run told (fun _ => rfl) hall
  have hperm' := answersOf_perm run' told' nofun hall'
  rw [← same] at hperm'
  have hanswers := hperm.trans hperm'.symm
  refine ⟨responsive_new _ _ _, responsive_new _ _ _, hanswers, hperm', fun d a fits => ?_⟩
  -- the second manager has no buffers in which usage could be held or summed up
  have hheld' : Registry.heldFor m'.backends.slots d a = 0 := by
    rw [slots_eq_nil_of_run run' rfl]
    rfl
  have fits' : ∀ n ∈ formedIn d a h', InRange n := by
    rw [formedIn_eq_nil run' rfl]
    nofun
  rw [hall.usageAccepted_eq run (hall.heldFor_eq_zero run reports hstopped) fits,
    hall'.usageAccepted_eq run' hheld' fits', sum_charges, sum_charges]
  exact sum_map_of_perm hanswers _

/-! ## The same calls in two managers -/

/-- A world in which answers go by the number of an authorization, all reports are accepted, and the first client for a
buffered backend cannot be built. -/
def fairWorld (answer : Nat → Except BackendError Wire.Response) (past : Past) (actor : Actor) :
    Want → Input
  | .client (.buffered d) =>
    .built (if (requested past).length = 1 then .error (.clientBuild d "not yet") else .ok ())
  | .client _ => .built (.ok ())
  | .reply (.report _ _) => .reported (.ok ())
  | .reply _ =>
    match actor with
    | .call id => .answered (answer (numberOf id past))
    | _ => .turn
  | .tick _ => .tick
  | .turn => .turn
  | .nothing => .turn

theorem answersBy_fairWorld (answer : Nat → Except BackendError Wire.Response) (past : Past)
    (actor : Actor) (want : Want) :
    answersBy (fun _ => .ok ()) answer past actor want (fairWorld answer past actor want) := by
  refine ⟨?_, fun _ _ _ => rfl, ?_⟩
  · rintro d rfl
    rfl
  · rintro id d wire rfl (rfl | rfl)
    · rfl
    · rfl

/-- The third authorization is denied and the fourth meets an outage. -/
def mixedAnswers : Nat → Except BackendError Wire.Response
  | 2 => .ok ⟨false, none, none, none⟩
  | 3 => .error (.transport "connection refused")
  | _ => .ok ⟨true, none, none, none⟩

/-- Five authorizations, with a tick of a flush loop after the second one. -/
def fiveCalls : List (Actor × (Nat ⊕ Task)) :=
  authorizes 0 "a" (hits 5) ++ authorizes 1 "a" (hits 7) ++
    (.flushLoop 0, .inl 15000) :: steps 2 (.flushLoop 0) ++
    authorizes 2 "a" (hits 2) ++ authorizes 3 "a" (hits 4) ++ authorizes 4 "a" (hits 3)

/-- They are followed by a shutdown. -/
def fiveCallsShut : List (Actor × (Nat ⊕ Task)) :=
  fiveCalls ++ (.call 5, .inr .shutdown) :: steps 3 (.call 5) ++ steps 3 (.flushLoop 0) ++
    steps 2 (.call 5)

/-- No call is in progress any more. -/
theorem allAnswered_of_jobs {past : Past} {manager : Manager}
    (hfree : manager.jobs.toList.isEmpty = true) : AllAnswered past manager := by
  intro id job d request hjob
  unfold Table.find? at hjob
  rw [List.isEmpty_iff.1 hfree] at hjob
  cases hjob

theorem dispatch_equivalent_fiveCalls :
    let buffered :=
      system.playIn (fairWorld mixedAnswers) [] (.new 0 none ⟨true, 15000, .closed⟩) fiveCallsShut
    let direct :=
      system.playIn (fairWorld mixedAnswers) [] (.new 0 none ⟨false, 15000, .closed⟩) fiveCalls
    (system.accepted "a" buffered.1).length = 2 ∧ system.accepted "a" direct.1 = [] ∧
      (answersOf buffered.1).Perm (answersOf direct.1) ∧
      usageAccepted "a" BufferedBackend.hitsAccount buffered.1 = 15 ∧
      usageAccepted "a" BufferedBackend.hitsAccount direct.1 = 15 := by
  intro buffered direct
  have hstopped : ∃ task, (task, .stopped) ∈ buffered.1.outcomes :=
    exists_stopped_of_any (by decide +kernel)
  obtain ⟨task, hmem⟩ := hstopped
  have run' : Run system (.new 0 none ⟨false, 15000, .closed⟩) direct.1 direct.2 :=
    System.run_playIn _ fiveCalls .start
  obtain ⟨-, -, hanswers, -, husage⟩ := dispatch_equivalent (System.run_playIn _ fiveCallsShut .start) run'
    (System.told_playIn (answersBy_fairWorld mixedAnswers) fiveCallsShut _ .nil)
    (System.told_playIn (answersBy_fairWorld mixedAnswers) fiveCalls _ .nil)
    (by decide +kernel) (allAnswered_of_jobs (by decide +kernel))
    (allAnswered_of_jobs (by decide +kernel)) (by decide +kernel) hmem
  have hsame := husage "a" BufferedBackend.hitsAccount (by decide +kernel)
  have hbuffered : usageAccepted "a" BufferedBackend.hitsAccount buffered.1 = 15 := by decide +kernel
  exact ⟨by decide +kernel, by decide +kernel, hanswers, hbuffered, hsame.symm.trans hbuffered⟩

end GatewayAuth.Manager
