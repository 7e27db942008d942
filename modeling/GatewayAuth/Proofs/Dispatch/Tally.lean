import GatewayAuth.Proofs.Dispatch.Accounted

/-!
# `GatewayAuth.Proofs.Dispatch.Tally` — every authorization comes back once

Each authorization that has been asked for either has come back, once, or is in progress. What is counted over those that
have been asked for is thus what is counted over these two, whatever is counted. So two runs in which the same has been
asked for, and in which nothing is in progress any more, have brought back the same authorizations.

## Contents
- `Asking`, `numbered`: what has been asked for, each time under its number.
- `asking?`, `inProgress`: what is in progress.
- `Called.comes_back`: how a call ends; `Stepped.tally`, `tally_of_run`: the count of a step and of a run.
- `askings_perm`: what has come back once nothing is in progress; `allAnswered_of_requested`: where only one is asked for.
-/

namespace GatewayAuth.Manager

-- The zero of a sum is that of the core library, also where another one is in scope.
attribute [local instance (high)] Zero.ofOfNat0

/-! ## What is asked for -/

/-- What an authorization asks for, under its number. -/
structure Asking where
  number : Nat
  destination : String
  request : AuthRequest
  deriving DecidableEq

/-- What an authorization that has come back has asked for. -/
def Authorization.asking (a : Authorization) : Asking := ⟨a.number, a.destination, a.request⟩

/-- What has been asked for, each time under its number, the last one first. -/
def numbered : List (String × AuthRequest) → List Asking
  | [] => []
  | (d, request) :: rest => ⟨rest.length, d, request⟩ :: numbered rest

/-- What a call asks for, if it is an authorization. -/
def asking? (h : Past) (id : Nat) : Option Asking :=
  match h.task? (.call id) with
  | some (.authorize d request) => some ⟨numberOf id h, d, request⟩
  | _ => none

/-- The sum of `f` over the authorizations in progress. -/
def inProgress (f : Asking → Int) (h : Past) (m : Manager) : Int :=
  m.jobs.sumOf fun id _ => (asking? h id).elim 0 f

variable {m : Manager} {h : Past} {now id : Nat} {actor : Actor} {input : Input}
  {p : Progress Manager Result Event} {f : Asking → Int}

theorem asking?_stepped (m : Manager) (now : Nat) (actor : Actor) (input : Input)
    (p : Progress Manager Result Event) (h : Past) (id : Nat) :
    asking? (.stepped m now actor input p :: h) id = asking? h id := rfl

/-! ## The count of a step -/

/-- A call goes on, or it comes back and is gone. An authorization comes back with an answer. -/
theorem Called.comes_back (step : Called m now id input p) (hc : Coherent h m) :
    (p.result? = none ∧ p.state.jobs.find? id ≠ none) ∨
      p.state.jobs = m.jobs.erase id ∧ ∃ result, p.result? = some result ∧
        ∀ d request, h.task? (.call id) = some (.authorize d request) →
          ∃ answer, result = .answered answer := by
  have hinsert : ∀ {job : ManagerJob}, (m.jobs.insert id job).find? id ≠ none := by
    intro job
    rw [Table.find?_insert_self]
    nofun
  -- a call with another task
  have hother : ∀ {job : ManagerJob} {result : Result}, m.jobs.find? id = some job →
      (∀ task, Fits m.backends id task job → ∀ d request, task ≠ .authorize d request) →
      ∀ d request, h.task? (.call id) = some (.authorize d request) →
        ∃ answer, result = .answered answer := by
    intro job result hjob hnot d request htask
    obtain ⟨task, htask', hfits⟩ := hc.fits id job hjob
    rw [htask] at htask'
    cases htask'
    exact absurd rfl (hnot _ hfits d request)
  cases step with
  | @fetched job _ _ hjob step =>
      obtain ⟨-, -, -, ⟨hnone, job', hjobs, -⟩ | ⟨hjobs, config, hconfig⟩⟩ := step.frame
      · exact .inl ⟨hnone, by rw [hjobs]; exact hinsert⟩
      · refine .inr ⟨hjobs, _, hconfig, hother hjob ?_⟩
        intro task hfits d request
        have hfetch := step.isFetch
        cases job with
        | validating | looking | connecting | fetching | storing =>
            rw [hfits.1]
            nofun
        | _ => cases hfetch
  | waited hjob hat hr work more => exact .inl ⟨rfl, by rw [hjob]; nofun⟩
  | malformed | returned | flushed | notOpened | called =>
      exact .inr ⟨rfl, _, rfl, fun _ _ _ => ⟨_, rfl⟩⟩
  | followed hjob | stopsNothing hjob | joined hjob =>
      refine .inr ⟨rfl, _, rfl, hother hjob ?_⟩
      rintro task ⟨rfl, -⟩
      nofun
  | _ => exact .inl ⟨rfl, hinsert⟩

/-- No authorization comes back with a step that does not come to an answer. -/
theorem completedNow_eq_nil (hnot : ∀ answer, p.result? ≠ some (.answered answer)) :
    completedNow h m actor input p = [] := by
  unfold completedNow
  split
  · next hresult _ => exact absurd hresult (hnot _)
  · rfl

/-- What is counted of an authorization where it comes back is what was counted of it while it was in progress. -/
theorem sum_completedNow {result : Result} (hresult : p.result? = some result)
    (hanswer : ∀ d request, h.task? (.call id) = some (.authorize d request) →
      ∃ answer, result = .answered answer) :
    ((completedNow h m (.call id) input p).map fun a => f a.asking).sum =
      (asking? h id).elim 0 f := by
  unfold completedNow asking?
  rw [hresult]
  cases htask : h.task? (.call id) with
  | none => cases result <;> rfl
  | some task =>
      cases task with
      | authorize d request =>
          obtain ⟨answer, rfl⟩ := hanswer d request htask
          exact Int.add_zero _
      | fetch location request => cases result <;> rfl
      | shutdown => cases result <;> rfl

/-- **The count of a step**: what comes back is no longer in progress, and nothing else changes. -/
theorem Stepped.tally (step : Stepped m now actor input p) (hc : Coherent h m) (f : Asking → Int) :
    ((completedNow h m actor input p).map fun a => f a.asking).sum +
        inProgress f (.stepped m now actor input p :: h) p.state = inProgress f h m := by
  unfold inProgress
  simp only [asking?_stepped]
  cases step with
  | looped hr work => exact Int.zero_add _
  | refreshed work => exact Int.zero_add _
  | @called id _ _ step =>
      obtain ⟨job, hjob⟩ := Option.ne_none_iff_exists'.1 step.has_job
      rcases step.comes_back hc with ⟨more, hstays⟩ | ⟨herase, result, hresult, hanswer⟩
      · -- the call goes on, so that it still counts as in progress
        rw [completedNow_eq_nil (by rw [more]; nofun)]
        rcases step.jobs with hsame | ⟨job', hinsert⟩ | herase
        · rw [hsame]
          exact Int.zero_add _
        · have hsum := Table.sumOf_insert (fun id _ => (asking? h id).elim 0 f) m.jobs id job'
          rw [hjob, Option.elim_some] at hsum
          rw [hinsert, List.map_nil, List.sum_nil]
          omega
        · rw [herase, Table.find?_erase_self] at hstays
          exact absurd rfl hstays
      · -- it comes back, and counts among those that have
        have hsum := Table.sumOf_erase (fun id _ => (asking? h id).elim 0 f) m.jobs id
        rw [hjob] at hsum
        rw [sum_completedNow hresult hanswer, herase, Int.add_comm]
        exact hsum

/-! ## The count of a run -/

/-- A call that starts is in progress, if it is an authorization; the others are what they were. -/
theorem inProgress_began (hfree : m.jobs.find? id = none) (task : Task) (job : ManagerJob) :
    inProgress f (.began (.call id) task :: h) (m.resume id job) =
      inProgress f h m + (asking? (.began (.call id) task :: h) id).elim 0 f := by
  have hsum := Table.sumOf_insert
    (fun other _ => (asking? (.began (.call id) task :: h) other).elim 0 f) m.jobs id job
  have hothers : inProgress f h m = m.jobs.sumOf fun other _ =>
      (asking? (.began (.call id) task :: h) other).elim 0 f := by
    refine Table.sumOf_congr fun other job hjob => ?_
    have hne : Actor.call id ≠ .call other := by
      intro heq
      cases heq
      rw [hfree] at hjob
      cases hjob
    unfold asking?
    rw [History.task?_began, numberOf_began, if_neg hne, if_neg hne]
  rw [hothers]
  unfold inProgress
  rw [jobs_resume]
  rw [hfree, Option.elim_none, Int.add_zero] at hsum
  exact hsum

/-- **What has been asked for has come back or is in progress**, in every reachable state. -/
theorem tally_of_run {start : Nat} {limits : Option CacheLimits} {settings : DispatchSettings}
    (run : Run system (.new start limits settings) h m) (f : Asking → Int) :
    ((authorizations h).map fun a => f a.asking).sum + inProgress f h m =
      ((numbered (requested h)).map f).sum := by
  induction run with
  | start => rfl
  | @begins h m m' actor task run hbegin ih =>
      cases actor with
      | call id =>
          obtain ⟨hfree, rfl⟩ := eq_resume_of_begin? hbegin
          rw [inProgress_began hfree]
          have hasking : (asking? (.began (.call id) task :: h) id).elim 0 f +
              ((numbered (requested h)).map f).sum =
                ((numbered (requested (.began (.call id) task :: h))).map f).sum := by
            unfold asking?
            rw [History.task?_began, if_pos rfl, numberOf_began, if_pos rfl]
            cases task with
            | authorize d request => rfl
            | fetch location request => exact Int.zero_add _
            | shutdown => exact Int.zero_add _
          rw [← hasking, ← ih]
          show ((authorizations h).map fun a => f a.asking).sum + _ = _
          omega
      | flushLoop slot => cases hbegin
      | refreshLoop => cases hbegin
  | @steps h m now actor input p run hstep ih =>
      have htally := (stepped_of_step hstep).tally (coherent_of_run run) f
      show ((completedNow h m actor input p ++ authorizations h).map fun a => f a.asking).sum + _ =
        ((numbered (requested h)).map f).sum
      rw [List.map_append, List.sum_append, ← ih]
      omega

/-- No authorization is in progress once all have been answered. -/
theorem AllAnswered.inProgress_eq_zero (hall : AllAnswered h m) (f : Asking → Int) :
    inProgress f h m = 0 := by
  refine Table.sumOf_eq_zero fun id job hjob => ?_
  unfold asking?
  split
  · next d request htask => exact absurd htask (hall id job d request hjob)
  · rfl

/-- **Once all have been answered, what has been asked for has come back.** -/
theorem askings_perm {start : Nat} {limits : Option CacheLimits} {settings : DispatchSettings}
    (run : Run system (.new start limits settings) h m) (hall : AllAnswered h m) :
    ((authorizations h).map Authorization.asking).Perm (numbered (requested h)) := by
  refine perm_of_sum_map_eq fun f => ?_
  have htally := tally_of_run run f
  rw [hall.inProgress_eq_zero f, Int.add_zero] at htally
  rw [List.map_map]
  exact htally

/-- Where only one authorization has been asked for and one has come back, all have been answered, and it is that one. -/
theorem allAnswered_of_requested {start : Nat} {limits : Option CacheLimits}
    {settings : DispatchSettings} (run : Run system (.new start limits settings) h m) {d : String}
    {request : AuthRequest} (hone : requested h = [(d, request)]) {a : Authorization}
    (ha : a ∈ authorizations h) : AllAnswered h m ∧ a.asking = ⟨0, d, request⟩ := by
  have htally := tally_of_run run fun _ => 1
  rw [hone, sum_map_one, sum_map_one] at htally
  have hback : 1 ≤ (authorizations h).length := List.length_pos_of_mem ha
  have hall : AllAnswered h m := by
    intro id job d' request' hjob htask
    have hnonneg : ∀ other (_ : ManagerJob), 0 ≤ (asking? h other).elim 0 fun _ => (1 : Int) := by
      intro other _
      cases asking? h other with
      | none => exact Int.le_refl 0
      | some asking => exact Int.one_nonneg
    -- one in progress would be counted besides the one that has come back
    have hcounted := Table.le_sumOf hnonneg hjob
    unfold asking? at hcounted
    rw [htask, Option.elim_some] at hcounted
    have hprogress : 1 ≤ inProgress (fun _ => 1) h m := hcounted
    have hlength : ((numbered [(d, request)]).length : Int) = 1 := rfl
    omega
  refine ⟨hall, ?_⟩
  have hmem := (askings_perm run hall).mem_iff.1 (List.mem_map_of_mem ha)
  rw [hone] at hmem
  exact List.mem_singleton.1 hmem

end GatewayAuth.Manager
