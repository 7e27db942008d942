import GatewayAuth.Proofs.Manager.Coherent
import GatewayAuth.Proofs.Registry.Likeness

/-!
# `GatewayAuth.Proofs.Manager.Likeness` — managers that are alike but for one call

Two managers that know of the same, but for one call and what it may have left in the cells of destinations, let
everyone else take the same steps: each function that makes a step of the first makes one of the second (`Follows`),
with the same result, and leads to managers that are alike again.

## Contents
- `Alike`, `Follows`: managers that are alike but for one call; a step in one that can be taken in the other.
- `Alike.stepped`, `Alike.begins`: whatever others do in one manager, they can do in the other.
- `Alike.exists_step`: and it shows the same, with what is asked of the world outside.
- `Alike.symm`, `Alike.resume_left`: what becomes of the one call makes no difference.
-/

namespace GatewayAuth.Manager

variable {gone : Option Nat} {m m' : Manager} {now id : Nat} {actor : Actor} {input : Input}
  {p : Progress Manager Result Event}

/-- The second manager is like the first, but for one call, of which it knows nothing. -/
structure Alike (gone : Option Nat) (m m' : Manager) : Prop where
  cache : m'.cache = m.cache
  refreshLoop : m'.refreshLoop = m.refreshLoop
  stopRefreshing : m'.stopRefreshing = m.stopRefreshing
  gate : m'.gate = m.gate
  registry : Option.Rel (Registry.Like (gone.map Actor.call)) m.registry m'.registry
  jobs : ∀ id, m'.jobs.find? id = if gone = some id then none else m.jobs.find? id

/-- Who waits at a cell finds one. -/
def Marked (m : Manager) : Prop := ∀ r, m.registry = some r → r.Marked

/-- What two steps have in common, one in each of two managers that are alike. -/
structure Matches (gone : Option Nat) (p p' : Progress Manager Result Event) : Prop where
  result? : p'.result? = p.result?
  events : p'.events = p.events
  alike : Alike gone p.state p'.state

/-- If the first step can be taken, so can the second, and it does the same. -/
def Follows (gone : Option Nat) (s s' : Step) : Prop :=
  ∀ p, s = some p → ∃ p', s' = some p' ∧ Matches gone p p'

/-! ## Changes on both sides -/

namespace Alike

theorem job (alike : Alike gone m m') (hne : gone ≠ some id) :
    m'.jobs.find? id = m.jobs.find? id := (alike.jobs id).trans (if_neg hne)

theorem resume (alike : Alike gone m m') (hne : gone ≠ some id) (job : ManagerJob) :
    Alike gone (m.resume id job) (m'.resume id job) := by
  refine ⟨alike.cache, alike.refreshLoop, alike.stopRefreshing, alike.gate, alike.registry, ?_⟩
  intro other
  rw [jobs_resume, jobs_resume, Table.find?_insert, Table.find?_insert, alike.jobs]
  by_cases hother : id = other
  · subst hother
    rw [if_pos rfl, if_pos rfl, if_neg hne]
  · rw [if_neg hother, if_neg hother]

theorem erase (alike : Alike gone m m') (id : Nat) :
    Alike gone { m with jobs := m.jobs.erase id } { m' with jobs := m'.jobs.erase id } := by
  refine ⟨alike.cache, alike.refreshLoop, alike.stopRefreshing, alike.gate, alike.registry, ?_⟩
  intro other
  show (m'.jobs.erase id).find? other = if gone = some other then none else (m.jobs.erase id).find? other
  rw [Table.find?_erase, Table.find?_erase, alike.jobs]
  split
  · split <;> rfl
  · rfl

theorem goOn (alike : Alike gone m m') (hne : gone ≠ some id) (job : ManagerJob) :
    Follows gone (m.goOn id job) (m'.goOn id job) := by
  intro p hstep
  cases hstep
  exact ⟨_, rfl, rfl, rfl, alike.resume hne job⟩

theorem finish (alike : Alike gone m m') (id : Nat) (result : Result) :
    Follows gone (m.finish id result) (m'.finish id result) := by
  intro p hstep
  cases hstep
  exact ⟨_, rfl, rfl, rfl, alike.erase id⟩

theorem setCache (alike : Alike gone m m') (cache : Option ConfigCache) :
    Alike gone { m with cache } { m' with cache } :=
  ⟨rfl, alike.refreshLoop, alike.stopRefreshing, alike.gate, alike.registry, alike.jobs⟩

theorem setGate (alike : Alike gone m m') (gate : Gate) :
    Alike gone { m with gate } { m' with gate } :=
  ⟨alike.cache, alike.refreshLoop, alike.stopRefreshing, rfl, alike.registry, alike.jobs⟩

theorem setRegistry (alike : Alike gone m m') {r r' : Registry}
    (like : Registry.Like (gone.map Actor.call) r r') :
    Alike gone { m with registry := some r } { m' with registry := some r' } :=
  ⟨alike.cache, alike.refreshLoop, alike.stopRefreshing, alike.gate, .some like, alike.jobs⟩

/-- The registry of the second manager is like that of the first. -/
theorem exists_registry (alike : Alike gone m m') {r : Registry} (hr : m.registry = some r) :
    ∃ r', m'.registry = some r' ∧ Registry.Like (gone.map Actor.call) r r' := by
  have hrel := alike.registry
  rw [hr] at hrel
  cases hm' : m'.registry with
  | none =>
      rw [hm'] at hrel
      cases hrel
  | some r' =>
      rw [hm'] at hrel
      cases hrel with
      | some like => exact ⟨r', rfl, like⟩

theorem registry_eq_none (alike : Alike gone m m') (hr : m.registry = none) : m'.registry = none := by
  have hrel := alike.registry
  rw [hr] at hrel
  cases hm' : m'.registry with
  | none => rfl
  | some r' =>
      rw [hm'] at hrel
      cases hrel

end Alike

theorem map_call_ne (hne : gone ≠ some id) : gone.map Actor.call ≠ some (.call id) := by
  intro heq
  obtain ⟨other, hother, hcall⟩ := Option.map_eq_some_iff.1 heq
  cases hcall
  exact hne hother

theorem Follows.none (s : Step) : Follows gone none s := fun _ hstep => nomatch hstep

/-- Steps that show the same in addition. -/
theorem Follows.showing {s s' : Step} (h : Follows gone s s') (events : List Event) :
    Follows gone (s.map (·.showing events)) (s'.map (·.showing events)) := by
  intro p hstep
  obtain ⟨q, hq, rfl⟩ := Option.map_eq_some_iff.1 hstep
  obtain ⟨q', hq', hresult, hevents, halike⟩ := h q hq
  refine ⟨q'.showing events, by rw [hq']; rfl, hresult, ?_, halike⟩
  show q'.events ++ events = q.events ++ events
  rw [hevents]

/-! ## Steps of others -/

namespace Alike

theorem withRegistry (alike : Alike gone m m') (hne : gone ≠ some id) (task : Registry.Task)
    (job : ManagerJob) : Follows gone (m.withRegistry id task job) (m'.withRegistry id task job) := by
  unfold Manager.withRegistry
  cases hr : m.registry with
  | none => exact .none _
  | some r =>
      obtain ⟨r', hr', like⟩ := alike.exists_registry hr
      rw [hr']
      dsimp only
      cases hbegin : r.begin? (.call id) task with
      | none => exact .none _
      | some r₁ =>
          obtain ⟨r₁', hbegin', like'⟩ := like.begins (map_call_ne hne) hbegin
          rw [hbegin']
          exact (alike.setRegistry like').goOn hne job

theorem stepRegistry (alike : Alike gone m m') (hmarked : m'.Marked) (hne : gone ≠ some id)
    {after : Manager → Registry.Result → Step}
    (hafter : ∀ m m' result, Alike gone m m' → Follows gone (after m result) (after m' result)) :
    Follows gone (m.stepRegistry now id input after) (m'.stepRegistry now id input after) := by
  intro p hstep
  unfold Manager.stepRegistry at hstep ⊢
  split at hstep
  · cases hstep
  · next r hr =>
    obtain ⟨r', hr', like⟩ := alike.exists_registry hr
    rw [hr']
    split at hstep
    · cases hstep
    · next r₁ result? events hq =>
      obtain ⟨⟨r₁', result?', events'⟩, hq', hresult, hevents, like'⟩ :=
        like.called (hmarked r' hr') (map_call_ne hne)
          (show r.stepCall now (.call id) input = some ⟨r₁, result?, events⟩ from hq)
      cases hresult
      cases hevents
      have hq' : r'.step now (.call id) input = some ⟨r₁', result?, events⟩ := hq'
      dsimp only
      rw [hq']
      have alike' := alike.setRegistry like'
      cases result? with
      | none =>
          cases hstep
          exact ⟨_, rfl, rfl, rfl, alike'⟩
      | some result =>
          obtain ⟨q, hq, rfl⟩ := Option.map_eq_some_iff.1 hstep
          obtain ⟨q', hq', hresult, hevents, halike⟩ := hafter _ _ result alike' q hq
          refine ⟨_, Option.map_eq_some_iff.2 ⟨q', hq', rfl⟩, hresult, ?_, halike⟩
          exact congrArg (events.map ofRegistry ++ ·) hevents

theorem stepFetch (alike : Alike gone m m') (hne : gone ≠ some id) {job : ManagerJob} :
    Follows gone (m.stepFetch now id job input) (m'.stepFetch now id job input) := by
  intro p hstep
  unfold Manager.stepFetch at hstep ⊢
  rw [alike.cache]
  split at hstep
  · split at hstep
    · exact alike.finish id _ p hstep
    · split at hstep
      · exact alike.goOn hne _ p hstep
      · exact alike.goOn hne _ p hstep
  · split at hstep
    · cases hstep
    · split at hstep
      · exact ((alike.setCache _).finish id _).showing _ p hstep
      · exact (alike.setCache _).goOn hne _ p hstep
  · exact alike.goOn hne _ p hstep
  · exact alike.finish id _ p hstep
  · exact alike.finish id _ p hstep
  · split at hstep
    · exact alike.goOn hne _ p hstep
    · exact alike.finish id _ p hstep
  · split at hstep
    · cases hstep
    · exact (alike.setCache _).finish id _ p hstep
  · cases hstep

theorem afterAcquire (alike : Alike gone m m') (hne : gone ≠ some id) (d : String) (wire : Wire.Request)
    (result : Registry.Result) :
    Follows gone (Manager.afterAcquire id d wire m result) (Manager.afterAcquire id d wire m' result) := by
  unfold Manager.afterAcquire
  split
  · exact alike.withRegistry hne _ _
  · exact (alike.goOn hne _).showing _
  · exact .none _

theorem afterAuthorize (alike : Alike gone m m') (hne : gone ≠ some id) (slot : Nat)
    (result : Registry.Result) :
    Follows gone (Manager.afterAuthorize id slot m result) (Manager.afterAuthorize id slot m' result) := by
  unfold Manager.afterAuthorize
  split
  · exact alike.goOn hne _
  · exact .none _

theorem afterOwnFlush (alike : Alike gone m m') (answer : Except BackendError Wire.Response)
    (result : Registry.Result) :
    Follows gone (Manager.afterOwnFlush id answer m result) (Manager.afterOwnFlush id answer m' result) := by
  unfold Manager.afterOwnFlush
  split
  · exact alike.finish id _
  · exact .none _

theorem afterDrain (alike : Alike gone m m') (hne : gone ≠ some id) (result : Registry.Result) :
    Follows gone (Manager.afterDrain id m result) (Manager.afterDrain id m' result) := by
  unfold Manager.afterDrain
  split
  · exact alike.goOn hne _
  · exact .none _

theorem stepAuthorize (alike : Alike gone m m') (hmarked : m'.Marked) (hne : gone ≠ some id)
    {job : ManagerJob} :
    Follows gone (m.stepAuthorize now id job input) (m'.stepAuthorize now id job input) := by
  unfold Manager.stepAuthorize
  split
  · split
    · exact alike.finish id _
    · cases hr : m.registry with
      | none =>
          rw [alike.registry_eq_none hr]
          exact alike.goOn hne _
      | some r =>
          obtain ⟨r', hr', -⟩ := alike.exists_registry hr
          rw [hr']
          exact alike.withRegistry hne _ _
  · exact alike.stepRegistry hmarked hne fun m m' result alike => alike.afterAcquire hne _ _ result
  · exact alike.stepRegistry hmarked hne fun m m' result alike => alike.afterAuthorize hne _ result
  · cases hr : m.registry with
    | none => exact .none _
    | some r =>
        obtain ⟨r', hr', like⟩ := alike.exists_registry hr
        have hshut : r'.isShutDown = r.isShutDown := congrArg Option.isNone like.handles
        rw [hr']
        dsimp only
        rw [hshut]
        split
        · exact alike.withRegistry hne _ _
        · exact alike.finish id _
  · exact alike.stepRegistry hmarked hne fun m m' result alike => alike.afterOwnFlush _ result
  · exact alike.goOn hne _
  · exact alike.finish id _
  · exact alike.finish id _
  · exact .none _

theorem stepShutdown (alike : Alike gone m m') (hmarked : m'.Marked) (hne : gone ≠ some id)
    {job : ManagerJob} :
    Follows gone (m.stepShutdown now id job input) (m'.stepShutdown now id job input) := by
  have hexited : m'.refreshExited = m.refreshExited := by
    unfold refreshExited
    rw [alike.refreshLoop]
  unfold Manager.stepShutdown
  split
  · cases hgate : m.gate with
    | closed =>
        rw [alike.gate.trans hgate]
        exact alike.finish id _
    | running => exact .none _
    | opened =>
        rw [alike.gate.trans hgate]
        have alike' := alike.setGate .running
        cases hr : m.registry with
        | none =>
            rw [hr] at alike'
            simp only [alike.registry_eq_none hr] at alike' ⊢
            exact alike'.goOn hne _
        | some r =>
            obtain ⟨r', hr', -⟩ := alike.exists_registry hr
            simp only [hr, hr'] at alike' ⊢
            exact alike'.withRegistry hne _ _
  · exact alike.stepRegistry hmarked hne fun m m' result alike => alike.afterDrain hne result
  · cases hcache : m.cache with
    | none =>
        rw [alike.cache.trans hcache]
        exact ((alike.setCache _).setGate _).finish id _
    | some cache =>
        rw [alike.cache.trans hcache]
        refine Alike.goOn ?_ hne _
        exact ⟨rfl, alike.refreshLoop, rfl, alike.gate, alike.registry, alike.jobs⟩
  · rw [hexited]
    split
    · exact (alike.setGate _).finish id _
    · exact .none _
  · exact .none _

theorem withLoop (alike : Alike gone m m') (cache : ConfigCache) (loop : RefreshLoop) :
    Follows gone (m.withLoop cache loop) (m'.withLoop cache loop) := by
  intro p hstep
  cases hstep
  exact ⟨_, rfl, rfl, rfl, rfl, rfl, alike.stopRefreshing, alike.gate, alike.registry, alike.jobs⟩

theorem stepSweep (alike : Alike gone m m') {cache : ConfigCache} {due : Nat}
    {sweep : Sweep ProxyConfig Refresher} {told : Sweep.Told ProxyConfig} :
    Follows gone (m.stepSweep now cache due sweep told) (m'.stepSweep now cache due sweep told) := by
  unfold Manager.stepSweep
  split
  · exact .none _
  · exact alike.withLoop _ _
  · exact alike.withLoop _ _

theorem retryOrFail (alike : Alike gone m m') {cache : ConfigCache} {due : Nat}
    {sweep : Sweep ProxyConfig Refresher} {retry : RetryPolicy} {attempt : Nat} :
    Follows gone (m.retryOrFail now cache due sweep retry attempt)
      (m'.retryOrFail now cache due sweep retry attempt) := by
  unfold Manager.retryOrFail
  split
  · exact alike.withLoop _ _
  · exact alike.stepSweep

theorem stepRefreshLoop (alike : Alike gone m m') :
    Follows gone (m.stepRefreshLoop now input) (m'.stepRefreshLoop now input) := by
  unfold Manager.stepRefreshLoop
  rw [alike.cache, alike.refreshLoop, alike.stopRefreshing]
  split
  · exact .none _
  · split
    · split
      · exact alike.withLoop _ _
      · exact .none _
    · split
      · exact alike.withLoop _ _
      · exact .none _
    · split
      · split
        · exact .none _
        · exact alike.withLoop _ _
      · split
        · exact .none _
        · exact alike.retryOrFail
      · split
        · exact alike.retryOrFail
        · exact .none _
      · split
        · exact alike.stepSweep
        · exact .none _
      · exact alike.stepSweep
      · exact .none _
    · exact .none _

theorem stepFlushLoop (alike : Alike gone m m') (slot : Nat) :
    Follows gone (m.stepFlushLoop now slot input) (m'.stepFlushLoop now slot input) := by
  intro p hstep
  unfold Manager.stepFlushLoop at hstep ⊢
  split at hstep
  · cases hstep
  · next r hr =>
    obtain ⟨r', hr', like⟩ := alike.exists_registry hr
    rw [hr']
    split at hstep
    · cases hstep
    · next q hq =>
      obtain ⟨q', hq', hmatches⟩ := like.looped (show r.stepLoop now slot input = some q from hq)
      have hq' : r'.step now (.flushLoop slot) input = some q' := hq'
      cases hstep
      dsimp only
      rw [hq']
      exact ⟨_, rfl, rfl, congrArg (List.map ofRegistry) hmatches.events,
        alike.setRegistry hmatches.like⟩

/-- **Whatever step another actor takes in one manager, it can take in the other**, with the same result. -/
theorem stepped (alike : Alike gone m m') (hmarked : m'.Marked)
    (hne : ∀ id, gone = some id → actor ≠ .call id) :
    Follows gone (m.step now actor input) (m'.step now actor input) := by
  unfold Manager.step
  cases actor with
  | flushLoop slot => exact alike.stepFlushLoop slot
  | refreshLoop => exact alike.stepRefreshLoop
  | call id =>
      have hne : gone ≠ some id := fun heq => hne id heq rfl
      dsimp only
      rw [alike.job hne]
      split
      · exact .none _
      · split
        · exact alike.stepFetch hne
        · exact alike.stepFetch hne
        · exact alike.stepFetch hne
        · exact alike.stepFetch hne
        · exact alike.stepFetch hne
        · exact alike.stepShutdown hmarked hne
        · exact alike.stepShutdown hmarked hne
        · exact alike.stepShutdown hmarked hne
        · exact alike.stepShutdown hmarked hne
        · exact alike.stepAuthorize hmarked hne

/-- **Whatever task another call can be given in one manager, it can be given in the other.** -/
theorem begins (alike : Alike gone m m') (hne : gone ≠ some id) {task : Task} {m₁ : Manager}
    (hbegin : m.begin? id task = some m₁) :
    ∃ m₁', m'.begin? id task = some m₁' ∧ Alike gone m₁ m₁' := by
  have hfree : m'.jobs.contains id = m.jobs.contains id := by
    unfold Table.contains
    rw [alike.job hne]
  unfold begin? at hbegin ⊢
  rw [hfree]
  split at hbegin
  · cases hbegin
  · next hidle =>
    rw [if_neg hidle]
    cases task <;> cases hbegin <;> exact ⟨_, rfl, alike.resume hne _⟩

end Alike

/-! ### What is asked of the world outside -/

namespace Alike

theorem wantRegistry (alike : Alike gone m m') (hmarked : m'.Marked)
    (hne : ∀ id, gone = some id → actor ≠ .call id) {r : Registry}
    {q : Progress Registry Registry.Result Registry.Event} (hr : m.registry = some r)
    (hq : r.step now actor input = some q) : m'.wantRegistry actor = m.wantRegistry actor := by
  obtain ⟨r', hr', like⟩ := alike.exists_registry hr
  have hne' : gone.map Actor.call ≠ some actor := by
    intro heq
    obtain ⟨id, hid, hcall⟩ := Option.map_eq_some_iff.1 heq
    exact hne id hid hcall.symm
  unfold Manager.wantRegistry
  rw [hr, hr']
  exact like.want (hmarked r' hr') hne' hq

/-- **Who takes a step in one manager waits for the same in the other.** -/
theorem want (alike : Alike gone m m') (hmarked : m'.Marked)
    (hne : ∀ id, gone = some id → actor ≠ .call id) (hstep : m.step now actor input = some p) :
    m'.want actor = m.want actor := by
  unfold Manager.step at hstep
  unfold Manager.want
  cases actor with
  | refreshLoop =>
      dsimp only
      unfold wantRefreshLoop
      rw [alike.refreshLoop, alike.stopRefreshing]
  | flushLoop slot =>
      unfold Manager.stepFlushLoop at hstep
      dsimp only at hstep ⊢
      split at hstep
      · cases hstep
      · next r hr =>
        split at hstep
        · cases hstep
        · next hq => exact alike.wantRegistry hmarked hne hr hq
  | call id =>
      dsimp only at hstep ⊢
      rw [alike.job fun heq => hne id heq rfl]
      cases hjob : m.jobs.find? id with
      | none => rfl
      | some job =>
          rw [hjob] at hstep
          cases job with
          | acquiring | authorizing | flushing | drainingBackends =>
              obtain ⟨r, q, hr, hq, -⟩ := eq_of_stepRegistry hstep
              exact alike.wantRegistry hmarked hne hr hq
          | entering =>
              dsimp only
              rw [alike.gate]
          | joiningRefresh =>
              dsimp only
              unfold refreshExited
              rw [alike.refreshLoop]
          | _ => rfl

/-- **Whatever step another actor takes in one manager shows the same in the other.** -/
theorem exists_step (alike : Alike gone m m') (hmarked : m'.Marked)
    (hne : ∀ id, gone = some id → actor ≠ .call id) (hstep : m.step now actor input = some p) :
    ∃ p', system.step m' now actor input = some p' ∧
      system.seen (.stepped m' now actor input p') = system.seen (.stepped m now actor input p) ∧
      Alike gone p.state p'.state := by
  obtain ⟨p', hstep', hmatches⟩ := alike.stepped hmarked hne p hstep
  refine ⟨p', hstep', ?_, hmatches.alike⟩
  show System.Seen.stepped now actor (m'.want actor) input p'.result? p'.events = _
  rw [alike.want hmarked hne hstep, hmatches.result?, hmatches.events]
  rfl

/-! ### The one call -/

theorem symm (alike : Alike none m m') : Alike none m' m := by
  refine ⟨alike.cache.symm, alike.refreshLoop.symm, alike.stopRefreshing.symm, alike.gate.symm, ?_,
    fun id => (alike.jobs id).symm⟩
  cases hr : m.registry with
  | none =>
      rw [alike.registry_eq_none hr]
      exact .none
  | some r =>
      obtain ⟨r', hr', like⟩ := alike.exists_registry hr
      rw [hr']
      exact .some like.symm

/-- The call itself comes to another phase. -/
theorem resume_left (alike : Alike (some id) m m') (job : ManagerJob) :
    Alike (some id) (m.resume id job) m' := by
  refine ⟨alike.cache, alike.refreshLoop, alike.stopRefreshing, alike.gate, alike.registry, ?_⟩
  intro other
  rw [alike.jobs, jobs_resume, Table.find?_insert]
  split
  · rfl
  · next hne => rw [if_neg fun heq => hne (congrArg some heq)]

theorem erase_left (alike : Alike (some id) m m') :
    Alike (some id) { m with jobs := m.jobs.erase id } m' := by
  refine ⟨alike.cache, alike.refreshLoop, alike.stopRefreshing, alike.gate, alike.registry, ?_⟩
  intro other
  show _ = if some id = some other then none else (m.jobs.erase id).find? other
  rw [alike.jobs, Table.find?_erase]
  split
  · rfl
  · next hne => rw [if_neg fun heq => hne (congrArg some heq)]

theorem setRegistry_left (alike : Alike gone m m') {r r' : Registry} (hr' : m'.registry = some r')
    (like : Registry.Like (gone.map Actor.call) r r') :
    Alike gone { m with registry := some r } m' := by
  refine ⟨alike.cache, alike.refreshLoop, alike.stopRefreshing, alike.gate, ?_, alike.jobs⟩
  rw [hr']
  exact .some like

end Alike

end GatewayAuth.Manager
