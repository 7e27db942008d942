import GatewayAuth.Proofs.Cache.Freshness

/-!
# `GatewayAuth.Proofs.Cache.Pacing` — sweeps at regular intervals

A sweep renews the entries that would expire by the next sweep, and drops those that are expired. If entries live for
longer than the interval between sweeps, an entry that has once been found by a sweep has a deadline after the next one,
or is in the hands of the sweep at work: it lives on. If they do not, a renewal takes them no further than to the next
sweep, which drops them.

## Contents
- `Paced`: sweeps come at regular instants, take no time, and their refreshers succeed; `Paced.before_step`,
  `scheduled_of_run`, `Paced.le_of_latest`.
- `Sweep.keys`, `Holding`: what sweeps have in hand; `Stepped.holding`, `Stepped.holding_of_after`.
- `Finds`: a sweep finds an entry.
- `Alive`, `Alive.stepped`, `alive_of_found`: the invariant of entries that live for longer than the interval.
- `Fading`, `Fading.stepped`, `fading_of_found`: that of entries that do not.
- `PacedSweeps`, `pacedSweeps_of_run`: what becomes of an entry that a sweep has found.
-/

namespace GatewayAuth

variable {ι ρ : Type}

/-- The keys that a sweep has in hand. -/
def Sweep.keys : Sweep ι ρ → List CacheKey
  | .refreshing key _ rest _ => key :: rest.map Prod.fst
  | .storing key _ rest _ => key :: rest.map Prod.fst
  | _ => []

@[simp] theorem Sweep.keys_next (summary : SweepSummary) (rest : List (CacheKey × ρ)) :
    (next summary rest : Sweep ι ρ).keys = rest.map Prod.fst := by
  cases rest <;> rfl

/-- The instant at which a sweep in progress has looked at the clock. -/
def CacheJob.clock? : CacheJob ρ → Option Nat
  | .sweeping clock _ => some clock
  | _ => none

/-- A sweep collects what is close to its deadline. -/
theorem Cache.mem_due {c : Cache ι ρ} {now : Nat} {key : CacheKey} {e : CacheEntry ι ρ}
    (he : c.entries.find? key = some e) (hlive : now < e.deadline)
    (hdue : e.deadline ≤ now + c.limits.refreshInterval) :
    key ∈ (c.startSweep now).2.1.map Prod.fst := by
  have hkept := Table.find?_eq_some_iff.1 (find?_startSweep.2 ⟨he, hlive⟩)
  refine List.mem_map.2 ⟨(key, e.refresher), List.mem_map.2 ⟨(key, e), ?_, rfl⟩, rfl⟩
  exact List.mem_filter.2 ⟨hkept, decide_eq_true hdue⟩

/-- A read before the deadline finds the entry. -/
theorem Cache.get_of_live {c : Cache ι ρ} {now : Nat} {key : CacheKey} {e : CacheEntry ι ρ}
    (he : c.entries.find? key = some e) (hlive : now < e.deadline) :
    (c.get now key).1 = some e.item := by
  have hnot := isExpired_eq_false_iff.2 hlive
  unfold get
  simp only [he, hnot, Bool.false_eq_true, if_false]

/-- Reads leave what is not expired. -/
theorem Cache.exists_find?_get {c : Cache ι ρ} {now : Nat} {key : CacheKey} {e : CacheEntry ι ρ}
    (he : c.entries.find? key = some e) (hlive : now < e.deadline) (key' : CacheKey) :
    ∃ e', (c.get now key').2.entries.find? key = some e' := by
  unfold get
  split
  · next e₀ he₀ =>
    split
    · next hexpired =>
      refine ⟨e, (Table.find?_erase _ _ _).trans ((if_neg ?_).trans he)⟩
      rintro rfl
      -- it would be the entry that is expired
      rw [he] at he₀
      cases he₀
      exact absurd (of_decide_eq_true hexpired) (Nat.not_le.2 hlive)
    · by_cases hkey : key' = key
      · exact ⟨_, (Table.find?_insert _ _ _ _).trans (if_pos hkey)⟩
      · exact ⟨e, (Table.find?_insert _ _ _ _).trans ((if_neg hkey).trans he)⟩
  · exact ⟨e, he⟩

namespace SharedCache

/-! ## Pace -/

/-- The instants at which the sweeps in progress have looked at the clock. -/
def clocks (c : SharedCache ρ) : List Nat := c.jobs.values.filterMap CacheJob.clock?

/-- The instant, if a sweep looks at the clock at this moment. -/
def wakes? : Moment (SharedCache ρ) (Task ρ) Result Empty → Option Nat
  | .began _ _ => none
  | .stepped c now actor _ _ =>
    match c.jobs.find? actor with
    | some .waking => some now
    | _ => none

/-- The instant as of which a sweep collects its work, if one does so at this moment. -/
def collects? : Moment (SharedCache ρ) (Task ρ) Result Empty → Option Nat
  | .began _ _ => none
  | .stepped c _ actor _ _ =>
    match c.jobs.find? actor with
    | some (.sweeping clock .starting) => some clock
    | _ => none

/-- Whether every sweep in progress has looked at the clock at this very instant. -/
def isPrompt : Moment (SharedCache ρ) (Task ρ) Result Empty → Bool
  | .began _ _ => true
  | .stepped c now _ _ _ => c.clocks.all (· = now)

/-- Whether a refresher fails at this moment. -/
def fails : Moment (SharedCache ρ) (Task ρ) Result Empty → Bool
  | .began _ _ => false
  | .stepped c _ actor input _ =>
    match c.jobs.find? actor, told? input with
    | some (.sweeping _ (.refreshing _ _ _ _)), some (.renewed none) => true
    | _, _ => false

/-- Sweeps come at `start`, `start + period`, …, up to the instant `t`. -/
structure Paced (start period : Nat) (h : Past ρ) (c : SharedCache ρ) (t : Nat) : Prop where
  /-- Time does not run backwards. -/
  forward : (t :: h.filterMap Moment.now?).Pairwise (· ≥ ·)
  /-- There are no sweeps at other instants. -/
  scheduled : ∀ now ∈ h.filterMap wakes?, ∃ n, now = start + n * period
  /-- A sweep takes no time. -/
  prompt : (∀ clock ∈ c.clocks, clock = t) ∧ ∀ moment ∈ h, isPrompt moment = true
  /-- No sweep is left out. -/
  complete : ∀ n, start + n * period < t → start + n * period ∈ h.filterMap collects?
  /-- Every refresher succeeds. -/
  succeed : ∀ moment ∈ h, fails moment = false

variable {c c' : SharedCache ρ} {h since before : Past ρ} {now s t start period : Nat} {actor : Actor}
  {input : Input} {p : Progress (SharedCache ρ) Result Empty} {key : CacheKey} {limits : CacheLimits}
  {moment : Moment (SharedCache ρ) (Task ρ) Result Empty}

theorem mem_clocks {clock : Nat} :
    clock ∈ c.clocks ↔ ∃ actor sweep, c.jobs.find? actor = some (.sweeping clock sweep) := by
  unfold clocks Table.values
  rw [List.mem_filterMap]
  constructor
  · rintro ⟨job, hmem, hclock⟩
    obtain ⟨⟨actor, job⟩, hentry, rfl⟩ := List.mem_map.1 hmem
    cases job with
    | sweeping clock' sweep =>
        cases hclock
        exact ⟨actor, sweep, Table.find?_eq_some_iff.2 hentry⟩
    | _ => cases hclock
  · rintro ⟨actor, sweep, hjob⟩
    exact ⟨_, List.mem_map.2 ⟨_, Table.find?_eq_some_iff.1 hjob, rfl⟩, rfl⟩

theorem Paced.clock_eq (paced : Paced start period h c t) {sweep : Sweep ProxyConfig ρ}
    (job : c.jobs.find? actor = some (.sweeping s sweep)) : s = t :=
  paced.prompt.1 s (mem_clocks.2 ⟨actor, sweep, job⟩)

theorem Paced.le_of_mem (paced : Paced start period h c t) (hnow : now ∈ h.filterMap Moment.now?) :
    now ≤ t :=
  (List.pairwise_cons.1 paced.forward).1 now hnow

theorem collects?_of_starting (job : c.jobs.find? actor = some (.sweeping s .starting)) :
    collects? (.stepped c now actor input p) = some s := by
  simp only [collects?, job]

/-- A moment of collection is one at which its actor is about to collect. -/
theorem starting_of_collects? (hcollects : collects? (.stepped c now actor input p) = some s) :
    c.jobs.find? actor = some (.sweeping s .starting) := by
  simp only [collects?] at hcollects
  split at hcollects
  · next job => cases hcollects; exact job
  · cases hcollects

/-- Sweeps that are paced after a step were so before it. -/
theorem Paced.before_step
    (paced : Paced start period (.stepped c now actor input p :: h) p.state t) :
    Paced start period h c now := by
  have hprompt : ∀ clock ∈ c.clocks, clock = now := by
    have hall := paced.prompt.2 _ List.mem_cons_self
    exact fun clock hclock => of_decide_eq_true (List.all_eq_true.1 hall clock hclock)
  have hforward : (now :: h.filterMap Moment.now?).Pairwise (· ≥ ·) :=
    (List.pairwise_cons.1 paced.forward).2
  have hnow : now ≤ t := paced.le_of_mem List.mem_cons_self
  constructor
  case forward => exact hforward
  case scheduled =>
    intro now' hmem
    refine paced.scheduled now' ?_
    rw [List.filterMap_cons]
    split
    · exact hmem
    · exact List.mem_cons_of_mem _ hmem
  case prompt =>
    exact ⟨hprompt, fun moment hmem => paced.prompt.2 moment (List.mem_cons_of_mem _ hmem)⟩
  case complete =>
    -- a collection at the last moment would be one at the instant of that moment
    intro n hn
    have hmem := paced.complete n (Nat.lt_of_lt_of_le hn hnow)
    rw [List.filterMap_cons] at hmem
    split at hmem
    · exact hmem
    · next s hcollects =>
      rcases List.mem_cons.1 hmem with heq | hold
      · have hs := hprompt s (mem_clocks.2 ⟨actor, .starting, starting_of_collects? hcollects⟩)
        omega
      · exact hold
  case succeed => exact fun moment hmem => paced.succeed moment (List.mem_cons_of_mem _ hmem)

/-- A call that starts is no sweep in progress yet. -/
theorem mem_clocks_resume {task : Task ρ} (hfree : c.jobs.find? actor = none) {clock : Nat}
    (hclock : clock ∈ c.clocks) : clock ∈ (c.resume actor task.job).clocks := by
  obtain ⟨other, sweep, hjob⟩ := mem_clocks.1 hclock
  refine mem_clocks.2 ⟨other, sweep, (Table.find?_insert _ _ _ _).trans ?_⟩
  rw [if_neg]
  · exact hjob
  · rintro rfl
    rw [hfree] at hjob
    cases hjob

theorem Paced.before_begin {task : Task ρ} (hfree : c.jobs.find? actor = none)
    (paced : Paced start period (.began actor task :: h) (c.resume actor task.job) t) :
    Paced start period h c t where
  forward := paced.forward
  scheduled := paced.scheduled
  prompt := ⟨fun clock hclock => paced.prompt.1 clock (mem_clocks_resume hfree hclock),
    fun moment hmem => paced.prompt.2 moment (List.mem_cons_of_mem _ hmem)⟩
  complete := paced.complete
  succeed := fun moment hmem => paced.succeed moment (List.mem_cons_of_mem _ hmem)

/-- Sweeps have looked at the clock at their instants only, and they collect as of these. -/
theorem scheduled_of_run (run : Run system (.new limits) h c) (paced : Paced start period h c t) :
    (∀ s ∈ c.clocks, ∃ n, s = start + n * period) ∧
      ∀ s ∈ h.filterMap collects?, ∃ n, s = start + n * period := by
  induction run generalizing t with
  | start => exact ⟨fun s hs => (nomatch hs), fun s hs => (nomatch hs)⟩
  | @begins h c c' actor task run hbegin ih =>
      obtain ⟨id, rfl, hfree, rfl⟩ := exists_resume_of_begin? hbegin
      obtain ⟨hclocks, hcollections⟩ := ih (paced.before_begin hfree)
      refine ⟨fun s hs => ?_, hcollections⟩
      obtain ⟨other, sweep, hjob⟩ := mem_clocks.1 hs
      have hjob := (Table.find?_insert _ _ _ _).symm.trans hjob
      split at hjob
      · cases task <;> cases hjob
      · exact hclocks s (mem_clocks.2 ⟨other, sweep, hjob⟩)
  | @steps h c now actor input p run hstep ih =>
      have step : Stepped c now actor input p := stepped_of_step hstep
      obtain ⟨hclocks, hcollections⟩ := ih paced.before_step
      constructor
      · intro s hs
        obtain ⟨other, sweep, hjob⟩ := mem_clocks.1 hs
        by_cases hother : other = actor
        · subst hother
          cases step with
          | read | wrote | removed | closed => cases (find?_leave c other _).symm.trans hjob
          | woke job =>
              cases (find?_resume c other _).symm.trans hjob
              refine paced.scheduled now (List.mem_filterMap.2 ⟨_, List.mem_cons_self, ?_⟩)
              simp only [wakes?, job]
          | collected job | stored job =>
              cases (find?_resume _ other _).symm.trans hjob
              exact hclocks s (mem_clocks.2 ⟨other, _, job⟩)
          | renewed job | failed job =>
              cases (find?_resume c other _).symm.trans hjob
              exact hclocks s (mem_clocks.2 ⟨other, _, job⟩)
        · rw [step.others hother] at hjob
          exact hclocks s (mem_clocks.2 ⟨other, sweep, hjob⟩)
      · intro s hs
        rw [List.filterMap_cons] at hs
        split at hs
        · exact hcollections s hs
        · next s' hcollects =>
          rcases List.mem_cons.1 hs with rfl | hold
          · exact hclocks s (mem_clocks.2 ⟨actor, _, starting_of_collects? hcollects⟩)
          · exact hcollections s hold

/-- A sweep has collected its work as of `s`, and none later on. -/
def Latest (h : Past ρ) (s : Nat) : Prop :=
  s ∈ h.filterMap collects? ∧ ∀ s' ∈ h.filterMap collects?, s' ≤ s

/-- **Since the last sweep has collected, no more than one interval has passed.** -/
theorem Paced.le_of_latest (paced : Paced start period h c t) (run : Run system (.new limits) h c)
    (hperiod : 0 < period) (hlatest : Latest h s) : t ≤ s + period := by
  obtain ⟨n, rfl⟩ := (scheduled_of_run run paced).2 s hlatest.1
  refine Nat.not_lt.1 fun hlate => ?_
  have hnext : start + (n + 1) * period = start + n * period + period := by
    rw [Nat.succ_mul, Nat.add_assoc]
  have hmem := paced.complete (n + 1) (hnext ▸ hlate)
  have hle := hlatest.2 _ hmem
  omega

/-- Two instants of sweeps are at least one interval apart. -/
theorem add_le_of_lt {n n' : Nat} (hlt : start + n * period < start + n' * period) :
    start + n * period + period ≤ start + n' * period := by
  have hn : n + 1 ≤ n' := Nat.lt_of_mul_lt_mul_right (Nat.lt_of_add_lt_add_left hlt)
  have hle := Nat.mul_le_mul_right period hn
  rw [Nat.succ_mul] at hle
  omega

/-! ## What sweeps have in hand -/

/-- Some sweep that has looked at the clock at `s` has a key in hand. -/
def Holding (c : SharedCache ρ) (key : CacheKey) (s : Nat) : Prop :=
  ∃ actor sweep, c.jobs.find? actor = some (.sweeping s sweep) ∧ key ∈ sweep.keys

theorem not_holding_leave {cache : Cache ProxyConfig ρ} {sweep : Sweep ProxyConfig ρ} :
    (c.leave actor cache).jobs.find? actor ≠ some (.sweeping s sweep) := by
  rw [find?_leave]
  nofun

/-- **What a sweep has in hand it keeps, until it writes it back.** -/
theorem Stepped.holding (step : Stepped c now actor input p)
    (hsucceeds : fails (.stepped c now actor input p) = false) (hholding : c.Holding key s) :
    p.state.Holding key s ∨
      ∃ item rest summary, c.jobs.find? actor = some (.sweeping s (.storing key item rest summary)) := by
  obtain ⟨other, sweep, hjob, hkey⟩ := hholding
  by_cases hother : other = actor
  · subst hother
    cases step with
    | read job | wrote job | removed job | woke job =>
        rw [hjob] at job
        cases job
    | collected job =>
        rw [hjob] at job
        cases job
        cases hkey
    | closed job =>
        rw [hjob] at job
        cases job
        cases hkey
    | renewed job =>
        rw [hjob] at job
        cases job
        exact .inl ⟨other, _, find?_resume _ _ _, hkey⟩
    | failed job told =>
        simp only [fails, job, told, reduceCtorEq] at hsucceeds
    | @stored clock key' item rest summary summary' job =>
        rw [hjob] at job
        cases job
        rcases List.mem_cons.1 hkey with rfl | hrest
        · exact .inr ⟨_, _, _, hjob⟩
        · refine .inl ⟨other, _, find?_resume _ _ _, ?_⟩
          rw [Sweep.keys_next]
          exact hrest
  · exact .inl ⟨other, sweep, (step.others hother).trans hjob, hkey⟩

/-- **What a sweep has in hand it has collected**, from an entry that is stored and not expired. -/
theorem Stepped.holding_of_after (step : Stepped c now actor input p)
    (hholding : p.state.Holding key s) :
    c.Holding key s ∨ c.jobs.find? actor = some (.sweeping s .starting) ∧
      ∃ e, c.cache.entries.find? key = some e ∧ s < e.deadline := by
  obtain ⟨other, sweep, hjob, hkey⟩ := hholding
  by_cases hother : other = actor
  · subst hother
    cases step with
    | read | wrote | removed | closed => exact absurd hjob not_holding_leave
    | woke job =>
        cases (find?_resume c other _).symm.trans hjob
        cases hkey
    | collected job =>
        cases (find?_resume _ other _).symm.trans hjob
        rw [Sweep.keys_next] at hkey
        obtain ⟨⟨key', refresher⟩, hmem, rfl⟩ := List.mem_map.1 hkey
        obtain ⟨e, he, -, hlive, -⟩ := Cache.exists_of_mem_due hmem
        exact .inr ⟨job, e, he, hlive⟩
    | renewed job =>
        cases (find?_resume c other _).symm.trans hjob
        exact .inl ⟨other, _, job, hkey⟩
    | failed job told =>
        cases (find?_resume c other _).symm.trans hjob
        rw [Sweep.keys_next] at hkey
        exact .inl ⟨other, _, job, List.mem_cons_of_mem _ hkey⟩
    | stored job =>
        cases (find?_resume _ other _).symm.trans hjob
        rw [Sweep.keys_next] at hkey
        exact .inl ⟨other, _, job, List.mem_cons_of_mem _ hkey⟩
  · rw [step.others hother] at hjob
    exact .inl ⟨other, sweep, hjob, hkey⟩

/-- A call that starts has nothing in hand, and leaves others what they have. -/
theorem holding_resume_iff {task : Task ρ} (hfree : c.jobs.find? actor = none) :
    (c.resume actor task.job).Holding key s ↔ c.Holding key s := by
  constructor
  · rintro ⟨other, sweep, hjob, hkey⟩
    have hjob := (Table.find?_insert _ _ _ _).symm.trans hjob
    split at hjob
    · cases task <;> cases hjob
    · exact ⟨other, sweep, hjob, hkey⟩
  · rintro ⟨other, sweep, hjob, hkey⟩
    refine ⟨other, sweep, (Table.find?_insert _ _ _ _).trans ?_, hkey⟩
    rw [if_neg]
    · exact hjob
    · rintro rfl
      rw [hfree] at hjob
      cases hjob

/-- What a sweep that is about to collect makes of the cache, and what it then has in hand. -/
theorem Stepped.state_of_starting (step : Stepped c now actor input p)
    (job : c.jobs.find? actor = some (.sweeping s .starting)) :
    p.state = ({ c with cache := (c.cache.startSweep s).1 } : SharedCache ρ).resume actor
      (.sweeping s (.next (c.cache.startSweep s).2.2 (c.cache.startSweep s).2.1)) := by
  cases step with
  | collected job' =>
      rw [job] at job'
      cases job'
      rfl
  | _ => simp_all only [Option.some.injEq, reduceCtorEq, CacheJob.sweeping.injEq, and_false]

/-- What is stored and close to its deadline is in hand once a sweep has collected. -/
theorem Stepped.holding_of_due (step : Stepped c now actor input p)
    (job : c.jobs.find? actor = some (.sweeping s .starting)) {e : CacheEntry ProxyConfig ρ}
    (he : c.cache.entries.find? key = some e) (hlive : s < e.deadline)
    (hdue : e.deadline ≤ s + c.cache.limits.refreshInterval) : p.state.Holding key s := by
  rw [step.state_of_starting job]
  refine ⟨actor, _, find?_resume _ _ _, ?_⟩
  rw [Sweep.keys_next]
  exact Cache.mem_due he hlive hdue

/-- A sweep that writes an entry has its key in hand. -/
theorem holding_of_storing {item : ProxyConfig} {rest : List (CacheKey × ρ)} {summary : SweepSummary}
    (job : c.jobs.find? actor = some (.sweeping s (.storing key item rest summary))) :
    c.Holding key s :=
  ⟨actor, _, job, List.mem_cons_self⟩

theorem itemFor?_of_storing {item : ProxyConfig} {rest : List (CacheKey × ρ)} {summary : SweepSummary}
    (job : c.jobs.find? actor = some (.sweeping s (.storing key item rest summary)))
    {e : CacheEntry ProxyConfig ρ} (he : c.cache.entries.find? key = some e) :
    c.itemFor? key actor = some item := by
  simp only [itemFor?, job, Table.contains_eq_true_iff.2 ⟨e, he⟩, and_self, if_true]

/-! ## Collections -/

/-- A sweep collects at this moment as of `s`, and it finds the entry of a key stored and not expired. -/
def Finds (key : CacheKey) (s : Nat) : Moment (SharedCache ρ) (Task ρ) Result Empty → Prop
  | .began _ _ => False
  | .stepped c _ actor _ _ =>
    c.jobs.find? actor = some (.sweeping s .starting) ∧
      ∃ e, c.cache.entries.find? key = some e ∧ s < e.deadline

theorem Paced.le_of_collects (paced : Paced start period h c t) (hs : s ∈ h.filterMap collects?) :
    s ≤ t := by
  obtain ⟨moment, hmem, hcollects⟩ := List.mem_filterMap.1 hs
  cases moment with
  | began actor task => cases hcollects
  | stepped c₀ now₀ actor input p =>
      have hprompt := paced.prompt.2 _ hmem
      have hclock := mem_clocks.2 ⟨actor, .starting, starting_of_collects? hcollects⟩
      have hs : s = now₀ := of_decide_eq_true (List.all_eq_true.1 hprompt s hclock)
      rw [hs]
      exact paced.le_of_mem (List.mem_filterMap.2 ⟨_, hmem, rfl⟩)

theorem latest_cons_of_none (hnone : collects? moment = none) : Latest (moment :: h) s ↔ Latest h s := by
  unfold Latest
  rw [List.filterMap_cons_none hnone]

/-- A sweep that collects is the latest one. -/
theorem Paced.latest_of_starting
    (paced : Paced start period (.stepped c now actor input p :: h) p.state t)
    (job : c.jobs.find? actor = some (.sweeping s .starting)) :
    Latest (.stepped c now actor input p :: h) s := by
  have hs : s = now := paced.before_step.clock_eq job
  unfold Latest
  rw [List.filterMap_cons_some (collects?_of_starting job)]
  refine ⟨List.mem_cons_self, fun s' hs' => ?_⟩
  rcases List.mem_cons.1 hs' with rfl | hold
  · exact Nat.le_refl _
  · rw [hs]
    exact paced.before_step.le_of_collects hold

/-! ## Entries that live for longer than the interval -/

/-- Whether the entry of a key is removed at this moment, or gives way to another one. -/
def takesOut (key : CacheKey) : Moment (SharedCache ρ) (Task ρ) Result Empty → Bool
  | .began _ _ => false
  | .stepped c now actor input p =>
    match c.jobs.find? actor with
    | some (.removing _) => leaves key (.stepped c now actor input p)
    | some (.writing _ _ _) => leaves key (.stepped c now actor input p)
    | _ => false

/-- The deadline of an entry is more than one interval after the latest sweep, or that sweep has it in hand. -/
def Alive (interval : Nat) (key : CacheKey) (h : Past ρ) (c : SharedCache ρ) : Prop :=
  ∃ e s, c.cache.entries.find? key = some e ∧ Latest h s ∧
    (s + interval < e.deadline ∨ s < e.deadline ∧ c.Holding key s)

theorem Alive.exists_live (alive : Alive period key h c) (paced : Paced start period h c t)
    (run : Run system (.new limits) h c) (hperiod : 0 < period) :
    ∃ e, c.cache.entries.find? key = some e ∧ t < e.deadline := by
  obtain ⟨e, s, he, hlatest, hlong | ⟨hlive, actor, sweep, job, -⟩⟩ := alive
  · exact ⟨e, he, Nat.lt_of_le_of_lt (paced.le_of_latest run hperiod hlatest) hlong⟩
  · rw [paced.clock_eq job] at hlive
    exact ⟨e, he, hlive⟩

/-- An entry that is not expired stays, unless it is taken out. -/
theorem Stepped.exists_of_live (step : Stepped c now actor input p)
    (hprompt : ∀ clock ∈ c.clocks, clock = now) {e : CacheEntry ProxyConfig ρ}
    (he : c.cache.entries.find? key = some e) (hlive : now < e.deadline)
    (hkept : takesOut key (.stepped c now actor input p) = false) :
    ∃ e', p.state.cache.entries.find? key = some e' := by
  have hstored := Table.contains_eq_true_iff.2 ⟨e, he⟩
  cases step with
  | @read key' item? cache job hget =>
      have hleft := Cache.exists_find?_get he hlive key'
      rw [hget] at hleft
      exact hleft
  | wrote job | removed job =>
      simp only [takesOut, job, leaves, hstored, Bool.true_and, Bool.not_eq_false'] at hkept
      exact Table.contains_eq_true_iff.1 hkept
  | @collected clock job =>
      have hclock := hprompt clock (mem_clocks.2 ⟨actor, _, job⟩)
      exact ⟨e, Cache.find?_startSweep.2 ⟨he, hclock ▸ hlive⟩⟩
  | @stored clock key' item rest summary summary' job =>
      have hfind := Cache.find?_storeRefreshed c.cache now key' item key
      by_cases hkey : key' = key
      · subst hkey
        rw [if_pos rfl, he] at hfind
        exact ⟨_, hfind⟩
      · rw [if_neg hkey, he] at hfind
        exact ⟨_, hfind⟩
  | woke | renewed | failed | closed => exact ⟨e, he⟩

/-- What a sweep finds is alive once the sweep has collected. -/
theorem Paced.alive_of_finds
    (paced : Paced start period (.stepped c now actor input p :: h) p.state t)
    (step : Stepped c now actor input p) (hperiod : c.cache.limits.refreshInterval = period)
    (finds : Finds key s (.stepped c now actor input p)) :
    Alive period key (.stepped c now actor input p :: h) p.state := by
  obtain ⟨job, e, he, hlive⟩ := finds
  have he' : p.state.cache.entries.find? key = some e := by
    rw [step.state_of_starting job]
    exact Cache.find?_startSweep.2 ⟨he, hlive⟩
  refine ⟨e, s, he', paced.latest_of_starting job, ?_⟩
  by_cases hdue : e.deadline ≤ s + period
  · exact .inr ⟨hlive, step.holding_of_due job he hlive (hperiod ▸ hdue)⟩
  · exact .inl (Nat.not_le.1 hdue)

/-- **What is alive stays alive**, at every step that does not take it out. -/
theorem Alive.stepped (alive : Alive period key h c) (run : Run system (.new limits) h c)
    (paced : Paced start period (.stepped c now actor input p :: h) p.state t)
    (step : Stepped c now actor input p) (hperiod : c.cache.limits.refreshInterval = period)
    (hpositive : 0 < period) (hlong : period < c.cache.limits.ttl)
    (hkept : takesOut key (.stepped c now actor input p) = false) :
    Alive period key (.stepped c now actor input p :: h) p.state := by
  have before := paced.before_step
  obtain ⟨e, he, hlive⟩ := alive.exists_live before run hpositive
  obtain ⟨e₁, s, he₁, hlatest, hcase⟩ := alive
  rw [he] at he₁
  cases he₁
  cases hcollects : collects? (.stepped c now actor input p) with
  | some s' =>
      have job := starting_of_collects? hcollects
      have hlive' : s' < e.deadline := by
        rw [before.clock_eq job]
        exact hlive
      exact paced.alive_of_finds step hperiod ⟨job, e, he, hlive'⟩
  | none =>
      have hlatest' := (latest_cons_of_none (h := h) hcollects).2 hlatest
      obtain ⟨e', he'⟩ := step.exists_of_live before.prompt.1 he hlive hkept
      cases hwrite : c.itemFor? key actor with
      | some item =>
          -- it has a fresh time to live
          obtain ⟨e₁, he₁, -, hdeadline⟩ := step.of_write hwrite
          have hs : s ≤ now := before.le_of_collects hlatest.1
          exact ⟨e₁, s, he₁, hlatest', .inl (by omega)⟩
      | none =>
          obtain ⟨e₀, he₀, alike⟩ := step.of_no_write hwrite he'
          rw [he] at he₀
          cases he₀
          refine ⟨e', s, he', hlatest', ?_⟩
          rw [alike.deadline]
          rcases hcase with hfar | ⟨hlt, hholding⟩
          · exact .inl hfar
          · rcases step.holding (paced.succeed _ List.mem_cons_self) hholding with hstill | hstores
            · exact .inr ⟨hlt, hstill⟩
            · obtain ⟨item, rest, summary, job⟩ := hstores
              rw [itemFor?_of_storing job he] at hwrite
              cases hwrite

/-- What a sweep has found is alive for as long as it is not taken out. -/
theorem alive_of_found (hlong : limits.withDefaults.refreshInterval < limits.withDefaults.ttl)
    (run : Run system (.new limits) (since ++ moment :: before) c)
    (paced : Paced start limits.withDefaults.refreshInterval (since ++ moment :: before) c t)
    (finds : Finds key s moment) (hkept : ∀ moment ∈ since, takesOut key moment = false) :
    Alive limits.withDefaults.refreshInterval key (since ++ moment :: before) c := by
  induction since generalizing c t with
  | nil =>
      cases run with
      | begins run hbegin => cases finds
      | steps run hstep =>
          exact paced.alive_of_finds (stepped_of_step hstep) (by rw [limits_of_run run]) finds
  | cons last since ih =>
      have hkept' := fun moment hmem => hkept moment (List.mem_cons_of_mem _ hmem)
      cases run with
      | begins run hbegin =>
          obtain ⟨id, rfl, hfree, rfl⟩ := exists_resume_of_begin? hbegin
          obtain ⟨e, s, he, hlatest, hcase⟩ := ih run (paced.before_begin hfree) hkept'
          refine ⟨e, s, he, (latest_cons_of_none rfl).2 hlatest, ?_⟩
          rw [holding_resume_iff hfree]
          exact hcase
      | steps run hstep =>
          have hlimits := limits_of_run run
          refine (ih run paced.before_step hkept').stepped run paced (stepped_of_step hstep) ?_
            limits.withDefaults_pos.2.1 ?_ (hkept _ List.mem_cons_self)
          · rw [hlimits]
          · rw [hlimits]
            exact hlong

/-! ## Entries that do not -/

/-- Whether a key is set at this moment. -/
def sets (key : CacheKey) : Moment (SharedCache ρ) (Task ρ) Result Empty → Bool
  | .began _ _ => false
  | .stepped c _ actor _ _ =>
    match c.jobs.find? actor with
    | some (.writing key' _ _) => key' = key
    | _ => false

/-- Since a sweep at `s` the entry of a key has been renewed by that sweep and by no other one. -/
structure Fading (ttl : Nat) (key : CacheKey) (s : Nat) (since : Past ρ) (c : SharedCache ρ) : Prop where
  bounded : ∀ e, c.cache.entries.find? key = some e → e.deadline ≤ s + ttl
  held : ∀ s', c.Holding key s' → s' = s
  renewed : ∀ e, c.cache.entries.find? key = some e → e.deadline = s + ttl ∨ c.Holding key s
  gone : ∀ s' ∈ since.filterMap collects?, s < s' → c.cache.entries.find? key = none

/-- Without a set, an entry that there is after a step keeps its deadline, or is written back by a sweep that has it in
hand. -/
theorem Stepped.deadline_of_not_set (step : Stepped c now actor input p)
    (hunset : sets key (.stepped c now actor input p) = false) {e' : CacheEntry ProxyConfig ρ}
    (he' : p.state.cache.entries.find? key = some e') :
    ∃ e, c.cache.entries.find? key = some e ∧
      (e'.deadline = e.deadline ∨
        e'.deadline = now + c.cache.limits.ttl ∧ ∃ s, c.Holding key s) := by
  cases step.entryFrom he' with
  | kept hfind alike => exact ⟨_, hfind, .inl alike.deadline⟩
  | set job => simp only [sets, job, decide_true, reduceCtorEq] at hunset
  | renewed job hfind => exact ⟨_, hfind, .inr ⟨rfl, _, holding_of_storing job⟩⟩

/-- Where an entry lives no longer than the interval, a sweep that finds it renews it. -/
theorem Stepped.fading_of_finds (step : Stepped c now actor input p)
    (hclock : ∀ clock ∈ c.clocks, clock = now) (hshort : c.cache.limits.ttl ≤ c.cache.limits.refreshInterval)
    (hbounded : ∀ e, c.cache.entries.find? key = some e → e.deadline ≤ now + c.cache.limits.ttl)
    (finds : Finds key s (.stepped c now actor input p)) :
    Fading c.cache.limits.ttl key s [] p.state := by
  obtain ⟨job, -⟩ := finds
  have hs : s = now := hclock s (mem_clocks.2 ⟨actor, _, job⟩)
  have hbefore : ∀ e, p.state.cache.entries.find? key = some e →
      c.cache.entries.find? key = some e ∧ s < e.deadline := by
    rw [step.state_of_starting job]
    exact fun e he => Cache.find?_startSweep.1 he
  constructor
  case bounded =>
    intro e he
    rw [hs]
    exact hbounded e (hbefore e he).1
  case held =>
    intro s' hholding
    rcases step.holding_of_after hholding with ⟨other, sweep, job', -⟩ | ⟨job', -⟩
    · exact (hclock s' (mem_clocks.2 ⟨other, _, job'⟩)).trans hs.symm
    · rw [job] at job'
      cases job'
      rfl
  case renewed =>
    intro e he
    obtain ⟨he₀, hlive⟩ := hbefore e he
    have hle := hbounded e he₀
    exact .inr (step.holding_of_due job he₀ hlive (by omega))
  case gone => exact fun s' hs' => (nomatch hs')

/-- **What fades is not renewed again**, at any step that does not set it. -/
theorem Fading.stepped (fading : Fading c.cache.limits.ttl key s since c)
    (step : Stepped c now actor input p) (hclock : ∀ clock ∈ c.clocks, clock = now)
    (hnext : ∀ s', c.jobs.find? actor = some (.sweeping s' .starting) →
      s' = s ∨ s + c.cache.limits.ttl ≤ s')
    (hsucceeds : fails (.stepped c now actor input p) = false)
    (hunset : sets key (.stepped c now actor input p) = false) :
    Fading c.cache.limits.ttl key s (.stepped c now actor input p :: since) p.state := by
  have hheld : ∀ s', c.Holding key s' → s = now := by
    rintro s' ⟨other, sweep, job, hkey⟩
    rw [← fading.held s' ⟨other, sweep, job, hkey⟩]
    exact hclock s' (mem_clocks.2 ⟨other, sweep, job⟩)
  constructor
  case bounded =>
    intro e' he'
    obtain ⟨e, he, hsame | ⟨hfresh, s', hholding⟩⟩ := step.deadline_of_not_set hunset he'
    · rw [hsame]
      exact fading.bounded e he
    · rw [hheld s' hholding]
      exact Nat.le_of_eq hfresh
  case held =>
    intro s' hholding
    rcases step.holding_of_after hholding with hbefore | ⟨job, e, he, hlive⟩
    · exact fading.held s' hbefore
    · -- a later sweep would find the entry expired
      have hle := fading.bounded e he
      rcases hnext s' job with heq | hlate
      · exact heq
      · omega
  case renewed =>
    intro e' he'
    obtain ⟨e, he, hsame | ⟨hfresh, s', hholding⟩⟩ := step.deadline_of_not_set hunset he'
    · rcases fading.renewed e he with hrenewed | hholding
      · exact .inl (hsame.trans hrenewed)
      · rcases step.holding hsucceeds hholding with hstill | ⟨item, rest, summary, job⟩
        · exact .inr hstill
        · -- it is written back at this step
          rw [step.find?_of_storing job, he] at he'
          cases he'
          rw [hheld s hholding]
          exact .inl rfl
    · rw [hfresh, hheld s' hholding]
      exact .inl rfl
  case gone =>
    intro s' hs' hlater
    have hnone : c.cache.entries.find? key = none → p.state.cache.entries.find? key = none := by
      intro hnone
      cases he' : p.state.cache.entries.find? key with
      | none => rfl
      | some e' =>
          obtain ⟨e, he, -⟩ := step.deadline_of_not_set hunset he'
          rw [hnone] at he
          cases he
    cases hcollects : collects? (.stepped c now actor input p) with
    | none =>
        rw [List.filterMap_cons_none hcollects] at hs'
        exact hnone (fading.gone s' hs' hlater)
    | some s₁ =>
        rw [List.filterMap_cons_some hcollects] at hs'
        rcases List.mem_cons.1 hs' with rfl | hold
        · -- what a later sweep leaves is not expired
          have job := starting_of_collects? hcollects
          cases he' : p.state.cache.entries.find? key with
          | none => rfl
          | some e' =>
              rw [step.state_of_starting job] at he'
              obtain ⟨he, hlive⟩ := Cache.find?_startSweep.1 he'
              have hle := fading.bounded e' he
              rcases hnext s' job with heq | hlate <;> omega
        · exact hnone (fading.gone s' hold hlater)

/-- What a sweep has found fades for as long as it is not set. -/
theorem fading_of_found (hshort : limits.withDefaults.ttl ≤ limits.withDefaults.refreshInterval)
    (run : Run system (.new limits) (since ++ moment :: before) c)
    (paced : Paced start limits.withDefaults.refreshInterval (since ++ moment :: before) c t)
    (finds : Finds key s moment) (hunset : ∀ moment ∈ since, sets key moment = false) :
    Fading limits.withDefaults.ttl key s since c := by
  induction since generalizing c t with
  | nil =>
      cases run with
      | begins run hbegin => cases finds
      | steps run hstep =>
          have hlimits := limits_of_run run
          rw [← hlimits] at hshort ⊢
          refine (stepped_of_step hstep).fading_of_finds paced.before_step.prompt.1 hshort ?_ finds
          intro e he
          obtain ⟨w, hlast, hdeadline, -⟩ := dated_of_run run key e he
          have hw := le_of_lastWrite? hlast fun moment hmem now' hnow' =>
            paced.before_step.le_of_mem (List.mem_filterMap.2 ⟨moment, hmem, hnow'⟩)
          omega
  | cons last since ih =>
      have hunset' := fun moment hmem => hunset moment (List.mem_cons_of_mem _ hmem)
      cases run with
      | begins run hbegin =>
          obtain ⟨id, rfl, hfree, rfl⟩ := exists_resume_of_begin? hbegin
          obtain ⟨hbounded, hheld, hrenewed, hgone⟩ := ih run (paced.before_begin hfree) hunset'
          refine ⟨hbounded, ?_, ?_, hgone⟩
          · intro s' hholding
            exact hheld s' ((holding_resume_iff hfree).1 hholding)
          · intro e he
            exact (hrenewed e he).imp_right (holding_resume_iff hfree).2
      | @steps _ c now actor input p run hstep =>
          have paced' := paced.before_step
          have hlimits := limits_of_run run
          have fading := ih run paced' hunset'
          rw [← hlimits] at fading ⊢
          refine fading.stepped (stepped_of_step hstep) paced'.prompt.1 ?_
            (paced.succeed _ List.mem_cons_self) (hunset _ List.mem_cons_self)
          -- two sweeps come at one instant, or at least one interval apart
          intro s' job
          obtain ⟨hclocks, hcollections⟩ := scheduled_of_run run paced'
          have hmem : s ∈ (since ++ moment :: before).filterMap collects? := by
            cases moment with
            | began _ _ => cases finds
            | stepped c₀ now₀ actor₀ input₀ p₀ =>
                refine List.mem_filterMap.2 ⟨_, List.mem_append_right _ List.mem_cons_self, ?_⟩
                exact collects?_of_starting finds.1
          obtain ⟨n, hn⟩ := hcollections s hmem
          obtain ⟨n', hn'⟩ := hclocks s' (mem_clocks.2 ⟨actor, _, job⟩)
          have hle : s ≤ s' := by
            rw [paced'.clock_eq job]
            exact paced'.le_of_collects hmem
          rcases Nat.eq_or_lt_of_le hle with heq | hlt
          · exact .inl heq.symm
          · rw [hn, hn'] at hlt
            have hapart := add_le_of_lt hlt
            rw [hlimits]
            right
            omega

/-! ## What becomes of an entry that a sweep has found -/

/-- What has become, by the instant `t`, of entries that a sweep has found in a shared cache that stands at `c` with the
past `h`. -/
structure PacedSweeps (limits : CacheLimits) (h : Past ρ) (c : SharedCache ρ) (t : Nat) : Prop where
  /-- Where entries live for longer than the interval, an entry that a sweep has found stored and not expired, and that
  has neither been removed nor given way to another one since, is not expired, and every read of it finds it. -/
  kept : limits.refreshInterval < limits.ttl → ∀ since moment before key s,
    h = since ++ moment :: before → Finds key s moment →
    (∀ moment ∈ since, takesOut key moment = false) →
    ∃ e, c.cache.entries.find? key = some e ∧ t < e.deadline ∧
      ∀ actor, c.jobs.find? actor = some (.reading key) →
        ∃ c', system.step c t actor .turn = some (.done c' (.found (some e.item)))
  /-- Where they do not, an entry that a sweep has found so, and that has not been set since, expires with the next sweep
  at the latest, although it has been renewed by the sweep that found it. From then on no read finds it, and reads and
  sweeps leave nothing of it. -/
  lost : limits.ttl ≤ limits.refreshInterval → ∀ since moment before key s,
    h = since ++ moment :: before → Finds key s moment →
    (∀ moment ∈ since, sets key moment = false) →
    (∀ e, c.cache.entries.find? key = some e →
      e.deadline ≤ s + limits.refreshInterval ∧ (s < t → e.deadline = s + limits.ttl)) ∧
    (∀ actor, s + limits.refreshInterval ≤ t → c.jobs.find? actor = some (.reading key) →
      ∃ c', system.step c t actor .turn = some (.done c' (.found none)) ∧
        c'.cache.entries.find? key = none) ∧
    ((∃ s' ∈ since.filterMap collects?, s < s') → c.cache.entries.find? key = none)

/-- **Regular sweeps keep entries alive if and only if these live for longer than the interval**, in every reachable
state. -/
theorem pacedSweeps_of_run (run : Run system (.new limits) h c)
    (paced : Paced start limits.withDefaults.refreshInterval h c t) :
    PacedSweeps limits.withDefaults h c t := by
  constructor
  case kept =>
    rintro hlong since moment before key s rfl finds hkept
    have alive := alive_of_found hlong run paced finds hkept
    obtain ⟨e, he, hlive⟩ := alive.exists_live paced run limits.withDefaults_pos.2.1
    refine ⟨e, he, hlive, fun actor job => ?_⟩
    have hget := Cache.get_of_live he hlive
    refine ⟨c.leave actor (c.cache.get t key).2, ?_⟩
    simp only [system, step, job, hget]
  case lost =>
    rintro hshort since moment before key s rfl finds hunset
    have fading := fading_of_found hshort run paced finds hunset
    refine ⟨fun e he => ⟨?_, fun hlater => ?_⟩, fun actor hlate job => ?_, ?_⟩
    · have hle := fading.bounded e he
      omega
    · rcases fading.renewed e he with hrenewed | ⟨other, sweep, job, -⟩
      · exact hrenewed
      · -- a sweep takes no time
        have hclock := paced.clock_eq job
        omega
    · cases hget : c.cache.get t key with
      | mk item? cache =>
        have hstep : system.step c t actor .turn = some (.done (c.leave actor cache) (.found item?)) := by
          simp only [system, step, job, hget]
        cases item? with
        | none => exact ⟨_, hstep, Cache.get_eq_none hget⟩
        | some item =>
            obtain ⟨e, he, -, hlive⟩ := Cache.get_eq_some hget
            have hle := fading.bounded e he
            omega
    · rintro ⟨s', hs', hlater⟩
      exact fading.gone s' hs' hlater

/-! ## Two runs -/

/-- A sweep that takes no time and renews what it finds to be due. -/
def sweepAt (now id : Nat) (renewed : List ProxyConfig) : List (Move (Task String)) :=
  prompt now id .sweep ++ [.step now (.call id) .turn] ++
    (renewed.flatMap fun item =>
      [.step now (.call id) (.fetched (.ok item)), .step now (.call id) .turn]) ++
    [.step now (.call id) .turn]

/-- A time to live of 60 milliseconds, and 100 between sweeps. -/
def shortLived : CacheLimits := ⟨2, 0, 100, 60⟩

/-- An entry with a time to live of 100 milliseconds; it is not due at the first one of three sweeps. -/
def sweptThrice : List (Move (Task String)) :=
  prompt 30 0 (.set (service "42") (version 1) "alpha") ++ sweepAt 60 1 [] ++
    sweepAt 120 2 [version 2] ++ sweepAt 180 3 [version 3] ++ [.begin (.call 4) (.get (service "42"))]

/-- An entry with a time to live of 60 milliseconds; the first one of two sweeps renews it. -/
def sweptAway : List (Move (Task String)) :=
  prompt 0 0 (.set (service "42") (version 1) "alpha") ++ sweepAt 50 1 [version 2] ++
    prompt 105 2 (.get (service "42")) ++ sweepAt 150 3 [] ++ [.begin (.call 4) (.get (service "42"))]

theorem pacedSweeps_sweptThrice :
    let kept := system.play (.new smallLimits) sweptThrice
    let lost := system.play (.new shortLived) sweptAway
    let found := fun (run : Past String × SharedCache String) t =>
      (system.step run.2 t (.call 4) .turn).bind (·.result?.bind Result.version?)
    found kept 230 = some 3 ∧ found lost 150 = none ∧
      PacedSweeps smallLimits.withDefaults kept.1 kept.2 230 ∧
      PacedSweeps shortLived.withDefaults lost.1 lost.2 150 := by
  intro kept lost found
  have hkept : Paced 60 60 kept.1 kept.2 230 := by
    constructor
    case forward => decide +kernel
    case scheduled =>
      intro now hnow
      have htimes : kept.1.filterMap wakes? = [180, 120, 60] := by decide +kernel
      rw [htimes] at hnow
      simp only [List.mem_cons, List.not_mem_nil, or_false] at hnow
      exact ⟨now / 60 - 1, by omega⟩
    case prompt => exact ⟨by decide +kernel, by decide +kernel⟩
    case complete =>
      intro n hn
      have htimes : kept.1.filterMap collects? = [180, 120, 60] := by decide +kernel
      rw [htimes]
      simp only [List.mem_cons, List.not_mem_nil, or_false]
      omega
    case succeed => decide +kernel
  have hlost : Paced 50 100 lost.1 lost.2 150 := by
    constructor
    case forward => decide +kernel
    case scheduled =>
      intro now hnow
      have htimes : lost.1.filterMap wakes? = [150, 50] := by decide +kernel
      rw [htimes] at hnow
      simp only [List.mem_cons, List.not_mem_nil, or_false] at hnow
      exact ⟨now / 100, by omega⟩
    case prompt => exact ⟨by decide +kernel, by decide +kernel⟩
    case complete =>
      intro n hn
      have htimes : lost.1.filterMap collects? = [150, 50] := by decide +kernel
      rw [htimes]
      simp only [List.mem_cons, List.not_mem_nil, or_false]
      omega
    case succeed => decide +kernel
  refine ⟨by decide +kernel, by decide +kernel, ?_, ?_⟩
  · exact pacedSweeps_of_run (system.run_play _ _) hkept
  · exact pacedSweeps_of_run (system.run_play _ _) hlost

end SharedCache

end GatewayAuth
