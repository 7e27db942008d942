import GatewayAuth.Proofs.Cache.Operations
import GatewayAuth.Proofs.Manager.Provenance

/-!
# `GatewayAuth.Proofs.Manager.Isolation` — what one cached configuration feels of the others

The refresh loop renews what is due one after the other, and its next tick waits until the sweep is over. So a control
plane that is slow for one key holds up the renewals of others, and these may expire meanwhile (`others_feel_renewals`).
There is no other way for this to happen: what stands under a key is a function of the uses of that key, of the instants
at which sweeps collect, and of nothing else, unless it gives way to another key where the cache is full.

## Contents
- `Cache.standing`, `EntryUse`: what reads of a key go by, and what is done to it; one lemma for each operation.
- `useOf?`, `timeline`: the uses of a key in a past; `evicts`, `reads`: what becomes of it.
- `Stepped.standing`, `Stepped.found`: what a step makes of a key.
- `replay`, `replayReads`, `standing_of_run`: a key follows its timeline.
- `Isolated`, `isolated_of_runs`: two runs with the same timeline of a key.
-/

namespace GatewayAuth

variable {ι ρ : Type}

/-! ## What stands under a key -/

/-- The item under a key and its deadline. -/
def Cache.standing (c : Cache ι ρ) (key : CacheKey) : Option (ι × Nat) :=
  (c.entries.find? key).map fun e => (e.item, e.deadline)

/-- What is done to the entry of a key. -/
inductive EntryUse (ι : Type) where
  /-- It is looked up. -/
  | read
  /-- It is set. -/
  | written (item : ι)
  /-- A sweep collects its work. -/
  | collected
  /-- A sweep writes back what the refresher has come to. -/
  | renewed (item : ι)

/-- What is left of an entry at an instant. -/
def unexpired (now : Nat) (standing : Option (ι × Nat)) : Option (ι × Nat) :=
  standing.filter fun s => now < s.2

/-- What stands under a key after it has been used. -/
def EntryUse.after (ttl now : Nat) : EntryUse ι → Option (ι × Nat) → Option (ι × Nat)
  | read, standing => unexpired now standing
  | written item, _ => some (item, now + ttl)
  | collected, standing => unexpired now standing
  | renewed item, standing => standing.map fun _ => (item, now + ttl)

theorem unexpired_of_lt {now deadline : Nat} (item : ι) (hlive : now < deadline) :
    unexpired now (some (item, deadline)) = some (item, deadline) :=
  Option.filter_some.trans (if_pos (decide_eq_true hlive))

theorem unexpired_of_le {now deadline : Nat} (item : ι) (hexpired : deadline ≤ now) :
    unexpired now (some (item, deadline)) = none :=
  Option.filter_some.trans (if_neg (by simpa using hexpired))

namespace Cache

variable {c c' : Cache ι ρ} {now : Nat} {key key' : CacheKey} {item : ι} {refresher : ρ}

theorem standing_eq_none (h : c.entries.find? key = none) : c.standing key = none := by
  unfold standing
  rw [h]
  rfl

theorem standing_eq_some {e : CacheEntry ι ρ} (h : c.entries.find? key = some e) :
    c.standing key = some (e.item, e.deadline) := by
  unfold standing
  rw [h]
  rfl

theorem standing_congr (h : c'.entries.find? key = c.entries.find? key) :
    c'.standing key = c.standing key := by
  unfold standing
  rw [h]

/-- A read finds what is not expired, and leaves that. -/
theorem standing_get (c : Cache ι ρ) (now : Nat) (key : CacheKey) :
    (c.get now key).1 = (unexpired now (c.standing key)).map Prod.fst ∧
      (c.get now key).2.standing key = unexpired now (c.standing key) := by
  unfold get
  split
  · next e he =>
    rw [standing_eq_some he]
    split
    · next hexpired =>
      rw [unexpired_of_le e.item (of_decide_eq_true hexpired)]
      exact ⟨rfl, standing_eq_none (Table.find?_erase_self _ _)⟩
    · next hlive =>
      have hlt : now < e.deadline := Nat.not_le.1 fun hle => hlive (decide_eq_true hle)
      rw [unexpired_of_lt e.item hlt]
      have hfind : (c.entries.insert key { e with lastUsed := now }).find? key =
          some { e with lastUsed := now } := Table.find?_insert_self _ _ _
      refine ⟨rfl, ?_⟩
      unfold standing
      rw [hfind]
      rfl
  · next he =>
    rw [standing_eq_none he]
    exact ⟨rfl, standing_eq_none he⟩

theorem standing_get_of_ne (hne : key' ≠ key) : (c.get now key').2.standing key = c.standing key := by
  refine standing_congr ?_
  unfold get
  split
  · split
    · exact (Table.find?_erase _ _ _).trans (if_neg hne)
    · exact (Table.find?_insert _ _ _ _).trans (if_neg hne)
  · rfl

theorem standing_set_self (c : Cache ι ρ) (now : Nat) (key : CacheKey) (item : ι) (refresher : ρ) :
    (c.set now key item refresher).standing key = some (item, now + c.limits.ttl) :=
  standing_eq_some (find?_set_self _ _ _ _ _)

/-- What does not give way to another key stays as it is. -/
theorem standing_set_of_ne (hne : key' ≠ key)
    (hkept : (c.standing key).isSome = true →
      ((c.set now key' item refresher).standing key).isSome = true) :
    (c.set now key' item refresher).standing key = c.standing key := by
  cases hafter : (c.set now key' item refresher).entries.find? key with
  | some e =>
      rw [standing_eq_some hafter, standing_eq_some (find?_of_set_of_ne hne hafter)]
  | none =>
      rw [standing_eq_none hafter] at hkept ⊢
      cases hbefore : c.standing key with
      | none => rfl
      | some s =>
          rw [hbefore] at hkept
          cases hkept rfl

/-- A sweep that collects leaves what is not expired. -/
theorem standing_startSweep (c : Cache ι ρ) (now : Nat) (key : CacheKey) :
    (c.startSweep now).1.standing key = unexpired now (c.standing key) := by
  cases hafter : (c.startSweep now).1.entries.find? key with
  | some e =>
      obtain ⟨he, hlive⟩ := find?_startSweep.1 hafter
      rw [standing_eq_some hafter, standing_eq_some he, unexpired_of_lt e.item hlive]
  | none =>
      rw [standing_eq_none hafter]
      cases hbefore : c.entries.find? key with
      | none =>
          rw [standing_eq_none hbefore]
          rfl
      | some e =>
          have hexpired : e.deadline ≤ now := Nat.not_lt.1 fun hlive => by
            rw [find?_startSweep.2 ⟨hbefore, hlive⟩] at hafter
            cases hafter
          rw [standing_eq_some hbefore, unexpired_of_le e.item hexpired]

theorem standing_storeRefreshed (c : Cache ι ρ) (now : Nat) (key' : CacheKey) (item : ι)
    (key : CacheKey) :
    (c.storeRefreshed now key' item).2.standing key =
      if key' = key then (c.standing key).map fun _ => (item, now + c.limits.ttl)
      else c.standing key := by
  unfold standing
  rw [find?_storeRefreshed]
  split
  · next hkey =>
    subst hkey
    rw [Option.map_map, Option.map_map]
    rfl
  · rfl

end Cache

/-- What a sweep is about to do to the entry of a key. -/
def Sweep.useOf? (key : CacheKey) : Sweep ι ρ → Option (EntryUse ι)
  | .starting => some .collected
  | .storing key' item _ _ => if key' = key then some (.renewed item) else none
  | _ => none

/-- What stands under a key after what is done to it, if anything is. -/
def after? (ttl now : Nat) : Option (EntryUse ι) → Option (ι × Nat) → Option (ι × Nat)
  | none, standing => standing
  | some use, standing => use.after ttl now standing

theorem Sweep.standing_of_step {c c' : Cache ι ρ} {now : Nat} {sweep : Sweep ι ρ} {told : Told ι}
    {out : Sweep ι ρ ⊕ SweepSummary} (hstep : sweep.step c now told = some (c', out))
    (key : CacheKey) :
    c'.standing key = after? c.limits.ttl now (sweep.useOf? key) (c.standing key) ∧
      c'.limits = c.limits := by
  cases sweep with
  | starting =>
      cases told with
      | renewed item? => cases hstep
      | turn =>
          cases hstep
          exact ⟨Cache.standing_startSweep _ _ _, rfl⟩
  | refreshing key' refresher rest summary =>
      cases told with
      | turn => cases hstep
      | renewed item? =>
          cases item? <;> cases hstep <;> exact ⟨rfl, rfl⟩
  | storing key' item rest summary =>
      cases told with
      | renewed item? => cases hstep
      | turn =>
          cases hstep
          refine ⟨(Cache.standing_storeRefreshed _ _ _ _ _).trans ?_, Cache.limits_storeRefreshed _ _ _ _⟩
          by_cases hkey : key' = key
          · rw [useOf?, if_pos hkey, if_pos hkey]
            rfl
          · rw [useOf?, if_neg hkey, if_neg hkey]
            rfl
  | closing summary =>
      cases told with
      | renewed item? => cases hstep
      | turn =>
          cases hstep
          exact ⟨rfl, rfl⟩

namespace Manager

/-! ## The timeline of a key -/

/-- What stands under a key in the cache of a manager. -/
def standing (m : Manager) (key : CacheKey) : Option (ProxyConfig × Nat) :=
  m.cache.bind (·.standing key)

/-- What an actor does to the entry of a key with its next step. -/
def useOf? (m : Manager) (key : CacheKey) : Actor → Option (EntryUse ProxyConfig)
  | .call id =>
    match m.jobs.find? id with
    | some (.looking location request) => if request.key location = key then some .read else none
    | some (.storing location request config) =>
      if request.key location = key then some (.written config) else none
    | _ => none
  | .refreshLoop =>
    match m.refreshLoop with
    | .sweeping _ sweep _ _ => sweep.useOf? key
    | _ => none
  | .flushLoop _ => none

/-- The instant and the use, if the entry of a key is used at this moment. -/
def used? (key : CacheKey) :
    Moment Manager Task Result Event → Option (Nat × EntryUse ProxyConfig)
  | .began _ _ => none
  | .stepped m now actor _ _ => (m.useOf? key actor).map fun use => (now, use)

/-- The uses of a key, the last one first. -/
def timeline (key : CacheKey) (h : Past) : List (Nat × EntryUse ProxyConfig) :=
  h.filterMap (used? key)

/-- Whether the entry of a key gives way to another one at this moment. -/
def evicts (key : CacheKey) : Moment Manager Task Result Event → Bool
  | .stepped m _ (.call id) _ p =>
    match m.jobs.find? id with
    | some (.storing _ _ _) => (m.standing key).isSome && (p.state.standing key).isNone
    | _ => false
  | _ => false

/-- The instant and what is found, if a key is read at this moment. -/
def read? (key : CacheKey) :
    Moment Manager Task Result Event → Option (Nat × Option ProxyConfig)
  | .began _ _ => none
  | .stepped m now actor _ p =>
    match m.useOf? key actor with
    | some .read => some (now, p.result?.bind Result.config?)
    | _ => none

/-- What all reads of a key have found, the last one first. -/
def reads (key : CacheKey) (h : Past) : List (Nat × Option ProxyConfig) := h.filterMap (read? key)

variable {m m₁ m₂ : Manager} {h h₁ h₂ : Past} {now start : Nat} {actor : Actor} {input : Input}
  {p : Progress Manager Result Event} {key : CacheKey} {limits : CacheLimits}
  {settings : DispatchSettings} {cache : ConfigCache}

theorem standing_of_cache (hcache : m.cache = some cache) : m.standing key = cache.standing key := by
  unfold standing
  rw [hcache]
  rfl

/-- What a call does to an entry, it does at a fetch. -/
theorem useOf?_of_not_isFetch {id : Nat} {job : ManagerJob} (hjob : m.jobs.find? id = some job)
    (hfetch : job.isFetch = false) : m.useOf? key (.call id) = none := by
  cases job with
  | looking | storing => cases hfetch
  | _ => simp only [useOf?, hjob]

/-- What leaves the cache alone leaves what stands under a key. -/
theorem standing_of_beside (hcache : p.state.cache = m.cache) (huse : m.useOf? key actor = none)
    (hlimits : ∀ cache, m.cache = some cache → cache.limits = limits) :
    p.state.standing key = after? limits.ttl now (m.useOf? key actor) (m.standing key) ∧
      ∀ cache, p.state.cache = some cache → cache.limits = limits := by
  rw [huse, hcache]
  exact ⟨congrArg (fun cache? => cache?.bind (·.standing key)) hcache, hlimits⟩

/-! ## What a step makes of a key -/

/-- A step of a fetch does to the cache what the call is at. -/
theorem Fetched.standing {id : Nat} {job : ManagerJob} (step : Fetched m now id job input p)
    (hjob : m.jobs.find? id = some job) (hlimits : ∀ cache, m.cache = some cache → cache.limits = limits)
    (hkept : evicts key (.stepped m now (.call id) input p) = false) :
    p.state.standing key = after? limits.ttl now (m.useOf? key (.call id)) (m.standing key) ∧
      ∀ cache, p.state.cache = some cache → cache.limits = limits := by
  have hread : ∀ {location request} {cache cache' : ConfigCache} {found? : Option ProxyConfig},
      job = .looking location request → m.cache = some cache →
      cache.get now (request.key location) = (found?, cache') → p.state.cache = some cache' →
      p.state.standing key = after? limits.ttl now (m.useOf? key (.call id)) (m.standing key) ∧
        ∀ cache, p.state.cache = some cache → cache.limits = limits := by
    intro location request cache cache' found? hlooking hcache hget hafter
    have huse : m.useOf? key (.call id) =
        if request.key location = key then some .read else none := by
      simp only [useOf?, hjob, hlooking]
    have hcache' : cache' = (cache.get now (request.key location)).2 := by rw [hget]
    rw [standing_of_cache hcache, standing_of_cache hafter, huse, hcache', hafter]
    refine ⟨?_, ?_⟩
    · by_cases hkey : request.key location = key
      · subst hkey
        rw [if_pos rfl]
        exact (Cache.standing_get _ _ _).2
      · rw [if_neg hkey]
        exact Cache.standing_get_of_ne hkey
    · intro cache₁ h
      cases h
      rw [hcache', Cache.limits_get]
      exact hlimits cache hcache
  cases step with
  | hit hcache hget => exact hread rfl hcache hget rfl
  | missed hcache hget => exact hread rfl hcache hget rfl
  | @stored location request config cache hcache =>
      have huse : m.useOf? key (.call id) =
          if request.key location = key then some (.written config) else none := by
        simp only [useOf?, hjob]
      rw [huse]
      simp only [evicts, hjob] at hkept
      rw [standing_of_cache hcache] at hkept ⊢
      refine ⟨?_, ?_⟩
      · show (cache.set now (request.key location) config _).standing key = _
        by_cases hkey : request.key location = key
        · subst hkey
          rw [if_pos rfl, Cache.standing_set_self, hlimits cache hcache]
          rfl
        · rw [if_neg hkey]
          refine Cache.standing_set_of_ne hkey fun hbefore => ?_
          rw [hbefore, Bool.true_and, Option.isNone_eq_false_iff] at hkept
          exact hkept
      · intro cache₁ h
        cases h
        exact hlimits cache hcache
  | _ => exact standing_of_beside rfl (by simp only [useOf?, hjob]) hlimits

/-- The other steps of a call leave the cache alone. -/
theorem Called.standing {id : Nat} (step : Called m now id input p)
    (hlimits : ∀ cache, m.cache = some cache → cache.limits = limits)
    (hkept : evicts key (.stepped m now (.call id) input p) = false) :
    p.state.standing key = after? limits.ttl now (m.useOf? key (.call id)) (m.standing key) ∧
      ∀ cache, p.state.cache = some cache → cache.limits = limits := by
  obtain ⟨job, hjob⟩ := Option.ne_none_iff_exists'.1 step.has_job
  cases hfetch : job.isFetch with
  | true => exact (step.fetched_of_isFetch hjob hfetch).standing hjob hlimits hkept
  | false =>
      rcases step.fetched_or_beside with ⟨job', hjob', fetched⟩ | ⟨hcache, -, -, -⟩
      · rw [hjob] at hjob'
        cases hjob'
        rw [fetched.isFetch] at hfetch
        cases hfetch
      · exact standing_of_beside hcache (useOf?_of_not_isFetch hjob hfetch) hlimits

/-- **A step does to what stands under a key what its use of the key does**, and nothing else, unless it evicts it. -/
theorem Stepped.standing (step : Stepped m now actor input p)
    (hlimits : ∀ cache, m.cache = some cache → cache.limits = limits)
    (hkept : evicts key (.stepped m now actor input p) = false) :
    p.state.standing key = after? limits.ttl now (m.useOf? key actor) (m.standing key) ∧
      ∀ cache, p.state.cache = some cache → cache.limits = limits := by
  cases step with
  | called step => exact step.standing hlimits hkept
  | looped hr work => exact ⟨rfl, hlimits⟩
  | @refreshed input cache loop work =>
      show cache.standing key = _ ∧ ∀ cache', some cache = some cache' → _
      have hsame : m.cache = some cache → cache.standing key = m.standing key ∧
          ∀ cache', some cache = some cache' → cache'.limits = limits := by
        intro hcache
        exact ⟨(standing_of_cache hcache).symm, fun cache' h => hlimits cache' (hcache.trans h)⟩
      cases work with
      | ticked hcache idle hdue =>
          simp only [useOf?, idle]
          exact hsame hcache
      | told hcache idle stop =>
          simp only [useOf?, idle]
          exact hsame hcache
      | attempted hcache hloop refreshing =>
          obtain ⟨key', refresher, rest, summary, rfl⟩ := refreshing
          simp only [useOf?, hloop]
          exact hsame hcache
      | @swept cache cache' due attempt connected sweep told input out hcache hloop hstep hrenewed =>
          obtain ⟨hstanding, hafter⟩ := Sweep.standing_of_step hstep key
          simp only [useOf?, hloop]
          rw [standing_of_cache hcache, hstanding, hlimits cache hcache]
          refine ⟨rfl, fun cache'' h => ?_⟩
          cases h
          exact hafter.trans (hlimits cache hcache)

/-- **A read finds what stands under its key and is not expired.** -/
theorem Stepped.found (step : Stepped m now actor input p) (huse : m.useOf? key actor = some .read) :
    p.result?.bind Result.config? = (unexpired now (m.standing key)).map Prod.fst := by
  cases step with
  | looped hr work => cases huse
  | refreshed work =>
      -- a sweep reads nothing
      simp only [useOf?] at huse
      split at huse
      · next due sweep attempt connected hloop =>
        unfold Sweep.useOf? at huse
        split at huse
        · cases huse
        · split at huse <;> cases huse
        · cases huse
      · cases huse
  | @called id input p step =>
      simp only [useOf?] at huse
      split at huse
      · next location request hjob =>
        split at huse
        · next hkey =>
          subst hkey
          cases step.fetched_of_isFetch hjob rfl with
          | @hit location request cache cache' config hcache hget =>
              have hfound := (Cache.standing_get cache now (request.key location)).1
              rw [hget] at hfound
              rw [standing_of_cache hcache, ← hfound]
              rfl
          | @missed location request cache cache' hcache hget =>
              have hfound := (Cache.standing_get cache now (request.key location)).1
              rw [hget] at hfound
              rw [standing_of_cache hcache, ← hfound]
              rfl
        · cases huse
      · split at huse <;> cases huse
      · cases huse

/-! ## A key follows its timeline -/

/-- What stands under a key after the uses that have been made of it. -/
def replay (ttl : Nat) : List (Nat × EntryUse ProxyConfig) → Option (ProxyConfig × Nat)
  | [] => none
  | (now, use) :: earlier => use.after ttl now (replay ttl earlier)

/-- What the reads among them have found. -/
def replayReads (ttl : Nat) : List (Nat × EntryUse ProxyConfig) → List (Nat × Option ProxyConfig)
  | [] => []
  | (now, .read) :: earlier =>
    (now, (unexpired now (replay ttl earlier)).map Prod.fst) :: replayReads ttl earlier
  | _ :: earlier => replayReads ttl earlier

theorem reads_stepped_of_read (huse : m.useOf? key actor = some .read) :
    reads key (.stepped m now actor input p :: h) =
      (now, p.result?.bind Result.config?) :: reads key h := by
  refine List.filterMap_cons_some ?_
  simp only [read?, huse]

theorem reads_stepped_of_ne (huse : m.useOf? key actor ≠ some .read) :
    reads key (.stepped m now actor input p :: h) = reads key h := by
  refine List.filterMap_cons_none ?_
  simp only [read?]

/-- **What stands under a key and what its reads have found follows from its timeline**, where it has not been evicted. -/
theorem standing_of_run (run : Run system (.new start (some limits) settings) h m)
    (hkept : ∀ moment ∈ h, evicts key moment = false) :
    m.standing key = replay limits.withDefaults.ttl (timeline key h) ∧
      reads key h = replayReads limits.withDefaults.ttl (timeline key h) ∧
      ∀ cache, m.cache = some cache → cache.limits = limits.withDefaults := by
  induction run with
  | start =>
      refine ⟨rfl, rfl, fun cache hcache => ?_⟩
      cases hcache
      rfl
  | @begins h m m' actor task run hbegin ih =>
      have hkept' := fun moment hmem => hkept moment (List.mem_cons_of_mem _ hmem)
      obtain ⟨hstanding, hreads, hlimits⟩ := ih hkept'
      cases actor with
      | flushLoop slot => cases hbegin
      | refreshLoop => cases hbegin
      | call id =>
          obtain ⟨-, rfl⟩ := eq_resume_of_begin? hbegin
          exact ⟨hstanding, hreads, hlimits⟩
  | @steps h m now actor input p run hstep ih =>
      have hkept' := fun moment hmem => hkept moment (List.mem_cons_of_mem _ hmem)
      obtain ⟨hstanding, hreads, hlimits⟩ := ih hkept'
      have step : Stepped m now actor input p := stepped_of_step hstep
      obtain ⟨hafter, hlimits'⟩ := step.standing hlimits (hkept _ List.mem_cons_self)
      rw [hafter, hstanding]
      cases huse : m.useOf? key actor with
      | none =>
          have hsame : timeline key (.stepped m now actor input p :: h) = timeline key h :=
            List.filterMap_cons_none (Option.map_eq_none_iff.2 huse)
          have hne : m.useOf? key actor ≠ some .read := by
            rw [huse]
            nofun
          rw [hsame, reads_stepped_of_ne hne]
          exact ⟨rfl, hreads, hlimits'⟩
      | some use =>
          have hmore : timeline key (.stepped m now actor input p :: h) =
              (now, use) :: timeline key h :=
            List.filterMap_cons_some (Option.map_eq_some_iff.2 ⟨use, huse, rfl⟩)
          rw [hmore]
          refine ⟨rfl, ?_, hlimits'⟩
          cases use with
          | read =>
              rw [reads_stepped_of_read huse, step.found huse, hstanding, hreads]
              rfl
          | written | collected | renewed =>
              have hne : m.useOf? key actor ≠ some .read := by
                rw [huse]
                nofun
              exact (reads_stepped_of_ne hne).trans hreads

/-- Two runs that make no difference to a key. -/
structure Isolated (key : CacheKey) (h₁ : Past) (m₁ : Manager) (h₂ : Past) (m₂ : Manager) : Prop where
  /-- Every read of it has found the same in both. -/
  reads : Manager.reads key h₁ = Manager.reads key h₂
  /-- The same item stands under it, and expires at the same instant. -/
  standing : m₁.standing key = m₂.standing key

/-- **Other keys make no difference to a key** whose own timeline is the same in two runs, and which is evicted in neither
of them: whatever their refreshers do, for as long as sweeps collect, and the renewals of the key come back, at the same
instants. -/
theorem isolated_of_runs (run₁ : Run system (.new start (some limits) settings) h₁ m₁)
    (run₂ : Run system (.new start (some limits) settings) h₂ m₂)
    (agree : timeline key h₁ = timeline key h₂)
    (kept₁ : ∀ moment ∈ h₁, evicts key moment = false)
    (kept₂ : ∀ moment ∈ h₂, evicts key moment = false) : Isolated key h₁ m₁ h₂ m₂ := by
  obtain ⟨hstanding₁, hreads₁, -⟩ := standing_of_run run₁ kept₁
  obtain ⟨hstanding₂, hreads₂, -⟩ := standing_of_run run₂ kept₂
  constructor
  case reads => rw [hreads₁, hreads₂, agree]
  case standing => rw [hstanding₁, hstanding₂, agree]

/-! ## Runs -/

/-- A configuration of some version. -/
def configVersion (n : Int64) : ProxyConfig := { (default : ProxyConfig) with version := n }

/-- A call looks for the configuration of a service. -/
def lookAt (now id : Nat) (service : String) : List (Move Task) :=
  [.begin (.call id) (.fetch "cp" ⟨"alpha", service, "production"⟩), .step now (.call id) .turn,
    .step now (.call id) .turn]

/-- A call that finds nothing fetches a configuration and stores it. -/
def fetchAt (now id : Nat) (service : String) : List (Move Task) :=
  lookAt now id service ++
    [.step now (.call id) (.built (.ok ())), .step now (.call id) (.fetched (.ok (configVersion 1))),
      .step now (.call id) .turn]

/-- A sweep collects. -/
def collectAt (now : Nat) : List (Move Task) :=
  [.step now .refreshLoop .tick, .step now .refreshLoop .turn]

/-- A renewal begins. -/
def beginAt (now : Nat) : List (Move Task) := [.step now .refreshLoop (.built (.ok ()))]

/-- A renewal comes back, and is stored. -/
def comeBackAt (now : Nat) : List (Move Task) :=
  [.step now .refreshLoop (.fetched (.ok (configVersion 2))), .step now .refreshLoop .turn]

/-- A renewal fails. -/
def failAt (now : Nat) : List (Move Task) :=
  [.step now .refreshLoop (.fetched (.error (.transport "timed out")))]

/-- A sweep ends. -/
def closeAt (now : Nat) : List (Move Task) := [.step now .refreshLoop .turn]

/-- A manager with room for some entries, which live for 100 seconds, and with sweeps every 60 seconds. -/
def refreshing (room : Nat) : Manager := .new 0 (some ⟨room, 0, 60000, 100000⟩) ⟨false, 15000, .closed⟩

/-- The instants of all reads of a service, and the versions that they have found. -/
def versions (service : String) (run : Past × Manager) : List (Nat × Option Int64) :=
  (reads ⟨"cp", service⟩ run.1).map fun r => (r.1, r.2.map (·.version))

/-- The entry of one service is due at 60 seconds; that of another one is not, but its deadline comes before that of the
renewed one. -/
def renewing : List (Move Task) :=
  fetchAt 0 0 "slow" ++ fetchAt 30000 1 "other" ++ collectAt 60000 ++ beginAt 60000

/-- The renewal comes back at once, and the next sweep renews both entries. -/
def renewedAtOnce : List (Move Task) :=
  renewing ++ comeBackAt 60000 ++ closeAt 60000 ++ collectAt 120000 ++ beginAt 120000 ++
    comeBackAt 120000 ++ beginAt 120000 ++ comeBackAt 120000 ++ closeAt 120000

/-- Two entries fill the cache. One of them is due at 60 seconds, and read later on. -/
def renewingFull : List (Move Task) :=
  fetchAt 0 0 "failing" ++ fetchAt 30000 1 "other" ++ collectAt 60000 ++ beginAt 60000

/-- A read at 90 seconds, a sweep at 120 seconds that renews as many entries as there are, and a third entry. -/
def refilled (due : Nat) : List (Move Task) :=
  lookAt 90000 2 "failing" ++ collectAt 120000 ++
    (List.replicate due (beginAt 120000 ++ comeBackAt 120000)).flatten ++ closeAt 120000 ++
    fetchAt 125000 3 "third" ++ lookAt 140000 4 "other"

/-- **What becomes of the renewal of one entry makes a difference to others.** It may hold up the sweep for so long that
another entry expires, which a later sweep would have renewed. And where it fails, the entry expires, and there is room
for another one that would have been evicted. -/
theorem others_feel_renewals :
    let atOnce := system.play (refreshing 10) (renewedAtOnce ++ lookAt 140000 2 "other")
    let slowly := system.play (refreshing 10) (renewing ++ lookAt 140000 2 "other")
    let renewed := system.play (refreshing 2) (renewingFull ++ comeBackAt 60000 ++ closeAt 60000 ++ refilled 2)
    let failed := system.play (refreshing 2) (renewingFull ++ failAt 60000 ++ closeAt 60000 ++ refilled 1)
    versions "other" atOnce = [(140000, some 2), (30000, none)] ∧
      versions "other" slowly = [(140000, none), (30000, none)] ∧
      slowly.2.want .refreshLoop = .reply (.fetch "cp" "alpha" "slow" "production") ∧
      versions "other" renewed = [(140000, none), (30000, none)] ∧
      versions "other" failed = [(140000, some 2), (30000, none)] :=
  ⟨by decide +kernel, by decide +kernel, by decide +kernel, by decide +kernel, by decide +kernel⟩

/-- The renewal of one entry comes back at once; then that of another one comes to something. -/
def renewingAfter (outcome : List (Move Task)) : List (Move Task) :=
  fetchAt 0 0 "quick" ++ fetchAt 0 1 "slow" ++ collectAt 60000 ++ beginAt 60000 ++ comeBackAt 60000 ++
    beginAt 60000 ++ outcome

theorem isolated_renewingAfter :
    let succeeds := system.play (refreshing 10) (renewingAfter (comeBackAt 60000 ++ closeAt 60000) ++
      collectAt 120000 ++ beginAt 120000 ++ comeBackAt 120000 ++ lookAt 130000 2 "quick")
    let fails := system.play (refreshing 10) (renewingAfter (failAt 115000 ++ closeAt 115000) ++
      collectAt 120000 ++ beginAt 120000 ++ comeBackAt 120000 ++ lookAt 130000 2 "quick")
    versions "quick" fails = [(130000, some 2), (0, none)] ∧
      Isolated ⟨"cp", "quick"⟩ succeeds.1 succeeds.2 fails.1 fails.2 := by
  intro succeeds fails
  refine ⟨by decide +kernel, ?_⟩
  refine isolated_of_runs (system.run_play _ _) (system.run_play _ _) ?_ ?_ ?_
  · rfl
  · decide +kernel
  · decide +kernel

end Manager

end GatewayAuth
