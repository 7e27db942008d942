import GatewayAuth.Proofs.Cache.Freshness

/-!
# `GatewayAuth.Proofs.Cache.Origin` — whose refresher has brought what an entry holds

A sweep writes what it has been brought to the entry that there is under the key by then. All that it looks at is whether
there is one. So the item of an entry has been set together with its refresher, or it has been brought by the refresher
that an entry of the same key had when a sweep collected it. That is the entry's own, unless the key has been set anew
between the collection and the writing (`newer_entry_overwritten`).

## Contents
- `SetWith`, `ProducedIn`, `CollectedSince`, `WrittenAfter`: what a past tells of an item and of a refresher.
- `OwnUnlessSet`, `InHand`, `Brought`, `Origin`, `Traced`: the invariant; `traced_of_run`.
- `SweepsTrace`: what sweeps write, and what they leave; `sweepsTrace_of_run`.
- `overtaken`, `newer_entry_overwritten`: a newer entry that an older refresher overwrites.
-/

namespace GatewayAuth.SharedCache

variable {ρ : Type}

/-! ## What a past tells -/

/-- The item and the refresher, if a key is set at this moment. -/
def setting? (key : CacheKey) :
    Moment (SharedCache ρ) (Task ρ) Result Empty → Option (ProxyConfig × ρ)
  | .began _ _ => none
  | .stepped c _ actor _ _ =>
    match c.jobs.find? actor with
    | some (.writing key' item refresher) => if key' = key then some (item, refresher) else none
    | _ => none

/-- The sweep, the refresher and the item, if a refresher that is run for a key comes back with an item at this moment. -/
def bringing? (key : CacheKey) :
    Moment (SharedCache ρ) (Task ρ) Result Empty → Option (Actor × ρ × ProxyConfig)
  | .stepped c _ actor (.fetched (.ok item)) _ =>
    match c.jobs.find? actor with
    | some (.sweeping _ (.refreshing key' refresher _ _)) =>
      if key' = key then some (actor, refresher, item) else none
    | _ => none
  | _ => none

/-- An actor collects what is due at this moment. -/
def Collects (actor : Actor) : Moment (SharedCache ρ) (Task ρ) Result Empty → Prop
  | .began _ _ => False
  | .stepped c _ other _ _ =>
    other = actor ∧ ∃ clock, c.jobs.find? actor = some (.sweeping clock .starting)

/-- An item has been set with a refresher. -/
def SetWith (past : Past ρ) (key : CacheKey) (item : ProxyConfig) (refresher : ρ) : Prop :=
  ∃ moment ∈ past, setting? key moment = some (item, refresher)

/-- A key has been set. -/
def SetIn (past : Past ρ) (key : CacheKey) : Prop :=
  ∃ item refresher, SetWith past key item refresher

/-- A refresher that a sweep has run for a key has come back with an item. -/
def ProducedIn (past : Past ρ) (actor : Actor) (key : CacheKey) (refresher : ρ)
    (item : ProxyConfig) : Prop :=
  ∃ moment ∈ past, bringing? key moment = some (actor, refresher, item)

/-- When a sweep collected last, it collected the entry of a key with its refresher; `since` has happened since then. -/
def CollectedSince (actor : Actor) (key : CacheKey) (refresher : ρ) (since past : Past ρ) : Prop :=
  ∃ c now input p before clock e, past = since ++ .stepped c now actor input p :: before ∧
    (∀ moment ∈ since, ¬ Collects actor moment) ∧
    c.jobs.find? actor = some (.sweeping clock .starting) ∧
    c.cache.entries.find? key = some e ∧ e.refresher = refresher ∧ clock < e.deadline

/-- A sweep has written an item for a key, when `before` had happened. -/
def WrittenAfter (before : Past ρ) (actor : Actor) (key : CacheKey) (item : ProxyConfig)
    (past : Past ρ) : Prop :=
  ∃ later c now input p clock rest summary, past = later ++ .stepped c now actor input p :: before ∧
    c.jobs.find? actor = some (.sweeping clock (.storing key item rest summary))

variable {c c' : SharedCache ρ} {h since before : Past ρ} {now : Nat} {actor other : Actor} {input : Input}
  {p : Progress (SharedCache ρ) Result Empty} {key : CacheKey} {refresher : ρ} {item : ProxyConfig}
  {limits : CacheLimits} {moment : Moment (SharedCache ρ) (Task ρ) Result Empty}

theorem SetWith.cons (hset : SetWith h key item refresher) :
    SetWith (moment :: h) key item refresher := by
  obtain ⟨earlier, hmem, hsome⟩ := hset
  exact ⟨earlier, List.mem_cons_of_mem _ hmem, hsome⟩

theorem SetIn.cons (hset : SetIn h key) : SetIn (moment :: h) key := by
  obtain ⟨item, refresher, hset⟩ := hset
  exact ⟨item, refresher, hset.cons⟩

theorem ProducedIn.cons (hproduced : ProducedIn h actor key refresher item) :
    ProducedIn (moment :: h) actor key refresher item := by
  obtain ⟨earlier, hmem, hsome⟩ := hproduced
  exact ⟨earlier, List.mem_cons_of_mem _ hmem, hsome⟩

theorem CollectedSince.cons (hcollected : CollectedSince actor key refresher since h)
    (hmoment : ¬ Collects actor moment) :
    CollectedSince actor key refresher (moment :: since) (moment :: h) := by
  obtain ⟨c, now, input, p, before, clock, e, rfl, hsince, hrest⟩ := hcollected
  refine ⟨c, now, input, p, before, clock, e, rfl, ?_, hrest⟩
  intro m hm
  rcases List.mem_cons.1 hm with rfl | hold
  · exact hmoment
  · exact hsince m hold

theorem WrittenAfter.cons (hwritten : WrittenAfter before actor key item h) :
    WrittenAfter before actor key item (moment :: h) := by
  obtain ⟨later, c, now, input, p, clock, rest, summary, rfl, job⟩ := hwritten
  exact ⟨moment :: later, c, now, input, p, clock, rest, summary, rfl, job⟩

/-- A step that sets a key. -/
theorem setWith_of_job (job : c.jobs.find? actor = some (.writing key item refresher)) :
    SetWith (.stepped c now actor input p :: h) key item refresher := by
  refine ⟨_, List.mem_cons_self, ?_⟩
  simp only [setting?, job, if_true]

/-- A sweep collects with its first step only. -/
theorem not_collects {clock : Nat} {sweep : Sweep ProxyConfig ρ}
    (job : c.jobs.find? actor = some (.sweeping clock sweep)) (hne : sweep ≠ .starting) :
    ¬ Collects actor (.stepped c now actor input p) := by
  rintro ⟨-, clock', job'⟩
  rw [job] at job'
  cases job'
  exact hne rfl

/-! ## The invariant -/

/-- The refresher is that of the present entry of the key, unless the key has been set since. -/
def OwnUnlessSet (c : SharedCache ρ) (key : CacheKey) (refresher : ρ) (since : Past ρ) : Prop :=
  ∀ e, c.cache.entries.find? key = some e → e.refresher = refresher ∨ SetIn since key

/-- A refresher that a sweep has in hand is the one that the entry of the key had when the sweep collected it. -/
def InHand (h : Past ρ) (c : SharedCache ρ) (actor : Actor) (key : CacheKey) (refresher : ρ) :
    Prop :=
  ∃ since, CollectedSince actor key refresher since h ∧ OwnUnlessSet c key refresher since

/-- An item that a sweep is about to write has been brought by such a refresher. -/
def Brought (h : Past ρ) (c : SharedCache ρ) (actor : Actor) (key : CacheKey)
    (item : ProxyConfig) : Prop :=
  ∃ since refresher, CollectedSince actor key refresher since h ∧
    ProducedIn since actor key refresher item ∧ OwnUnlessSet c key refresher since

/-- Where the item of an entry comes from: it has been set with the entry's refresher; or a sweep has written it, after it
had been brought by the refresher that the entry of the key had when the sweep collected it. That is the entry's own,
unless the key was set between the collection and the writing. -/
def Origin (h : Past ρ) (key : CacheKey) (e : CacheEntry ProxyConfig ρ) : Prop :=
  SetWith h key e.item e.refresher ∨
    ∃ before since actor refresher, WrittenAfter before actor key e.item h ∧
      CollectedSince actor key refresher since before ∧
      ProducedIn since actor key refresher e.item ∧ (e.refresher = refresher ∨ SetIn since key)

/-- What there is in a cache and in the hands of sweeps can be traced. -/
structure Traced (h : Past ρ) (c : SharedCache ρ) : Prop where
  sweeps : ∀ actor clock sweep, c.jobs.find? actor = some (.sweeping clock sweep) →
    sweep.Fit (Brought h c actor) (InHand h c actor)
  entries : ∀ key e, c.cache.entries.find? key = some e → Origin h key e
  /-- The refresher of an entry has been set under its key. -/
  bound : ∀ key e, c.cache.entries.find? key = some e → ∃ item, SetWith h key item e.refresher

theorem Origin.cons {e : CacheEntry ProxyConfig ρ} (horigin : Origin h key e) :
    Origin (moment :: h) key e := by
  rcases horigin with hset | ⟨before, since, actor, refresher, hwritten, hrest⟩
  · exact .inl hset.cons
  · exact .inr ⟨before, since, actor, refresher, hwritten.cons, hrest⟩

theorem Origin.of_alike {e e' : CacheEntry ProxyConfig ρ} (horigin : Origin h key e)
    (alike : e.Alike e') : Origin h key e' := by
  unfold Origin at horigin ⊢
  rw [alike.item, alike.refresher]
  exact horigin

/-- **A step changes the refresher of an entry by setting its key only.** -/
theorem Stepped.ownUnlessSet (step : Stepped c now actor input p)
    (hown : OwnUnlessSet c key refresher since) :
    OwnUnlessSet p.state key refresher (.stepped c now actor input p :: since) := by
  intro e' he'
  cases step.entryFrom he' with
  | kept hfind alike =>
      rw [alike.refresher]
      exact (hown _ hfind).imp_right .cons
  | set job => exact .inr ⟨_, _, setWith_of_job job⟩
  | renewed job hfind => exact (hown _ hfind).imp_right .cons

theorem OwnUnlessSet.cons (hown : OwnUnlessSet c key refresher since) :
    OwnUnlessSet c key refresher (moment :: since) :=
  fun e he => (hown e he).imp_right .cons

/-- What a sweep has in hand it has after a moment in which it does not collect. -/
theorem InHand.cons (hhand : InHand h c actor key refresher) (hmoment : ¬ Collects actor moment)
    (hown : ∀ since, OwnUnlessSet c key refresher since →
      OwnUnlessSet c' key refresher (moment :: since)) :
    InHand (moment :: h) c' actor key refresher := by
  obtain ⟨since, hcollected, hbefore⟩ := hhand
  exact ⟨_, hcollected.cons hmoment, hown since hbefore⟩

theorem Brought.cons (hbrought : Brought h c actor key item) (hmoment : ¬ Collects actor moment)
    (hown : ∀ refresher since, OwnUnlessSet c key refresher since →
      OwnUnlessSet c' key refresher (moment :: since)) :
    Brought (moment :: h) c' actor key item := by
  obtain ⟨since, refresher, hcollected, hproduced, hbefore⟩ := hbrought
  exact ⟨_, refresher, hcollected.cons hmoment, hproduced.cons, hown refresher since hbefore⟩

/-- What a sweep collects, it has in hand. -/
theorem inHand_of_collected {clock : Nat}
    (job : c.jobs.find? actor = some (.sweeping clock .starting))
    (hcache : p.state.cache = (c.cache.startSweep clock).1)
    (hmem : (key, refresher) ∈ (c.cache.startSweep clock).2.1) :
    InHand (.stepped c now actor input p :: h) p.state actor key refresher := by
  obtain ⟨e, hfind, hrefresher, hlive, -⟩ := Cache.exists_of_mem_due hmem
  refine ⟨[], ⟨c, now, input, p, h, clock, e, rfl, ?_, job, hfind, hrefresher, hlive⟩, ?_⟩
  · intro moment hmoment
    cases hmoment
  · -- the entry that the collection leaves is the one that was collected
    intro e' he'
    rw [hcache] at he'
    have hbefore := (Cache.find?_startSweep.1 he').1
    rw [hfind] at hbefore
    cases hbefore
    exact .inl hrefresher

/-- What a refresher comes back with, it has brought. -/
theorem Stepped.brought_of_renewed (step : Stepped c now actor (.fetched (.ok item)) p) {clock : Nat}
    {rest : List (CacheKey × ρ)} {summary : SweepSummary}
    (job : c.jobs.find? actor = some (.sweeping clock (.refreshing key refresher rest summary)))
    (hhand : InHand h c actor key refresher) :
    Brought (.stepped c now actor (.fetched (.ok item)) p :: h) p.state actor key item := by
  obtain ⟨since, hcollected, hown⟩ := hhand
  refine ⟨_, refresher, hcollected.cons (not_collects job ?_), ⟨_, List.mem_cons_self, ?_⟩,
    step.ownUnlessSet hown⟩
  · nofun
  · simp only [bringing?, job, if_true]

/-- **A step keeps what sweeps have in hand traced.** -/
theorem Traced.sweep_stepped (ht : Traced h c) (step : Stepped c now actor input p) {clock : Nat}
    {sweep : Sweep ProxyConfig ρ}
    (hjob : p.state.jobs.find? other = some (.sweeping clock sweep)) :
    sweep.Fit (Brought (.stepped c now actor input p :: h) p.state other)
      (InHand (.stepped c now actor input p :: h) p.state other) := by
  by_cases hother : other = actor
  · subst hother
    have hself := step
    -- what is left to refresh stays in hand, whatever the sweep does with the first one
    have hrest : ∀ {clock' : Nat} {before : Sweep ProxyConfig ρ} {rest : List (CacheKey × ρ)},
        c.jobs.find? other = some (.sweeping clock' before) → before ≠ .starting →
        (∀ e ∈ rest, InHand h c other e.1 e.2) →
        ∀ e ∈ rest, InHand (.stepped c now other input p :: h) p.state other e.1 e.2 := by
      intro clock' before rest job hne hlist e he
      exact (hlist e he).cons (not_collects job hne) fun _ => step.ownUnlessSet
    cases step with
    | read | wrote | removed | closed => cases (find?_leave c other _).symm.trans hjob
    | woke job =>
        cases (find?_resume c other _).symm.trans hjob
        trivial
    | collected job =>
        cases (find?_resume _ other _).symm.trans hjob
        exact Sweep.fit_next (fun e he => inHand_of_collected job rfl he) _
    | renewed job =>
        cases (find?_resume c other _).symm.trans hjob
        obtain ⟨hhand, hlist⟩ := ht.sweeps _ _ _ job
        exact ⟨hself.brought_of_renewed job hhand, hrest job nofun hlist⟩
    | failed job told =>
        cases (find?_resume c other _).symm.trans hjob
        exact Sweep.fit_next (hrest job nofun (ht.sweeps _ _ _ job).2) _
    | stored job =>
        cases (find?_resume _ other _).symm.trans hjob
        exact Sweep.fit_next (hrest job nofun (ht.sweeps _ _ _ job).2) _
  · -- another sweep is where it was, with what it had
    rw [step.others hother] at hjob
    have hmoment : ¬ Collects other (.stepped c now actor input p) := fun hc => hother hc.1.symm
    have hown : ∀ key refresher since, OwnUnlessSet c key refresher since →
        OwnUnlessSet p.state key refresher (.stepped c now actor input p :: since) :=
      fun _ _ _ => step.ownUnlessSet
    exact (ht.sweeps other clock sweep hjob).imp
      (fun key _ hbrought => hbrought.cons hmoment (hown key))
      fun key refresher hhand => hhand.cons hmoment (hown key refresher)

theorem Traced.stepped (ht : Traced h c) (step : Stepped c now actor input p) :
    Traced (.stepped c now actor input p :: h) p.state where
  sweeps := fun other clock sweep hjob => ht.sweep_stepped step hjob
  entries := by
    intro key e' he'
    cases step.entryFrom he' with
    | kept hfind alike => exact ((ht.entries key _ hfind).of_alike alike).cons
    | set job => exact .inl (setWith_of_job job)
    | renewed job hfind =>
        -- whose entry it is by now was known of the item before it is written
        obtain ⟨⟨since, refresher, hcollected, hproduced, hown⟩, -⟩ := ht.sweeps _ _ _ job
        have howned := hown _ hfind
        refine .inr ⟨h, since, actor, refresher, ?_, hcollected, hproduced, howned⟩
        exact ⟨[], c, now, input, p, _, _, _, rfl, job⟩
  bound := by
    intro key e' he'
    cases step.entryFrom he' with
    | kept hfind alike =>
        obtain ⟨item, hset⟩ := ht.bound key _ hfind
        rw [alike.refresher]
        exact ⟨item, hset.cons⟩
    | set job => exact ⟨_, setWith_of_job job⟩
    | renewed job hfind =>
        obtain ⟨item, hset⟩ := ht.bound key _ hfind
        exact ⟨item, hset.cons⟩

/-- A call that starts has nothing in hand. -/
theorem Traced.began (ht : Traced h c) (task : Task ρ) :
    Traced (.began actor task :: h) (c.resume actor task.job) where
  sweeps := by
    intro other clock sweep hjob
    by_cases hother : actor = other
    · subst hother
      have hjob := (find?_resume c actor task.job).symm.trans hjob
      cases task <;> cases hjob
    · have hjob := (Table.find?_insert _ _ _ _).symm.trans hjob
      rw [if_neg hother] at hjob
      exact (ht.sweeps other clock sweep hjob).imp
        (fun _ _ hbrought => hbrought.cons id fun _ _ hown => hown.cons)
        fun _ _ hhand => hhand.cons id fun _ hown => hown.cons
  entries := fun key e he => (ht.entries key e he).cons
  bound := by
    intro key e he
    obtain ⟨item, hset⟩ := ht.bound key e he
    exact ⟨item, hset.cons⟩

/-- **Every reachable state is traced.** -/
theorem traced_of_run (run : Run system (.new limits) h c) : Traced h c := by
  induction run with
  | start =>
      have hempty : ∀ key e, (new limits : SharedCache ρ).cache.entries.find? key ≠ some e := by
        intro key e he
        cases he
      constructor
      · intro actor clock sweep hjob
        cases hjob
      · intro key e he
        exact absurd he (hempty key e)
      · intro key e he
        exact absurd he (hempty key e)
  | begins run hbegin ih =>
      obtain ⟨id, -, -, rfl⟩ := exists_resume_of_begin? hbegin
      exact ih.began _
  | steps run hstep ih => exact ih.stepped (stepped_of_step hstep)

/-! ## What sweeps write, and what they leave -/

/-- What sweeps write in a shared cache that stands at `c` with the past `h`, and what they leave. -/
structure SweepsTrace (limits : CacheLimits) (h : Past ρ) (c : SharedCache ρ) : Prop where
  /-- A sweep that comes back with an item looks for the entry that there is under the key by then. Without one it writes
  nothing. Otherwise it writes the item there with a fresh time to live, and leaves the refresher alone. It was brought
  the item, since it collected the key, by the refresher that the entry of the key had at that time; and that is the one
  of the entry it writes to, unless the key has been set since then. -/
  written : ∀ actor clock key item rest summary now input p,
    c.jobs.find? actor = some (.sweeping clock (.storing key item rest summary)) →
    system.step c now actor input = some p →
    (c.cache.entries.find? key = none → p.state.cache = c.cache) ∧
      ∀ e, c.cache.entries.find? key = some e →
        p.state.cache.entries.find? key = some { e with item, deadline := now + limits.ttl } ∧
          ∃ since refresher, CollectedSince actor key refresher since h ∧
            ProducedIn since actor key refresher item ∧ (e.refresher = refresher ∨ SetIn since key)
  /-- With any other step, also when a refresher fails, it leaves each entry as it is, if it leaves that; and it writes to
  no other key. -/
  unwritten : ∀ actor clock sweep key now input p e,
    c.jobs.find? actor = some (.sweeping clock sweep) →
    (∀ item rest summary, sweep ≠ .storing key item rest summary) →
    system.step c now actor input = some p → p.state.cache.entries.find? key = some e →
    c.cache.entries.find? key = some e
  /-- A set stores its item and its refresher for a full time to live, whatever there was under the key. -/
  set : ∀ actor key item refresher now input p,
    c.jobs.find? actor = some (.writing key item refresher) →
    system.step c now actor input = some p →
    p.state.cache.entries.find? key = some ⟨item, refresher, now + limits.ttl, now⟩
  /-- That is what the entry keeps until its key is written again, in every run from here on. -/
  kept : ∀ key since c' e', Run system c since c' → (∀ moment ∈ since, write? key moment = none) →
    c'.cache.entries.find? key = some e' →
    ∃ e, c.cache.entries.find? key = some e ∧ e'.item = e.item ∧ e'.refresher = e.refresher ∧
      e'.deadline = e.deadline
  /-- So the item of every entry has been set with its refresher, or brought by that of an entry of the same key. -/
  origin : ∀ key e, c.cache.entries.find? key = some e → Origin h key e
  /-- The refresher of every entry has been set under its key. -/
  bound : ∀ key e, c.cache.entries.find? key = some e → ∃ item, SetWith h key item e.refresher

/-- A step of a sweep that does not write to a key leaves its entry as it is, if it leaves that. -/
theorem Stepped.find?_of_sweeping (step : Stepped c now actor input p) {clock : Nat}
    {sweep : Sweep ProxyConfig ρ} (job : c.jobs.find? actor = some (.sweeping clock sweep))
    (hsweep : ∀ item rest summary, sweep ≠ .storing key item rest summary)
    {e : CacheEntry ProxyConfig ρ} (he : p.state.cache.entries.find? key = some e) :
    c.cache.entries.find? key = some e := by
  cases step with
  | read job' | wrote job' | removed job' | woke job' =>
      rw [job] at job'
      cases job'
  | collected => exact (Cache.find?_startSweep.1 he).1
  | @stored clock' key' item rest summary summary' job' =>
      rw [job] at job'
      cases job'
      have hne : key' ≠ key := by
        rintro rfl
        exact hsweep _ _ _ rfl
      exact ((Cache.find?_storeRefreshed _ _ _ _ _).trans (if_neg hne)).symm.trans he
  | renewed | failed | closed => exact he

/-- **What a sweep writes has been brought by the refresher that it collected**, in every reachable state. -/
theorem sweepsTrace_of_run (run : Run system (.new limits) h c) :
    SweepsTrace limits.withDefaults h c := by
  have ht := traced_of_run run
  have hlimits := limits_of_run run
  constructor
  case written =>
    intro actor clock key item rest summary now input p job hstep
    have step : Stepped c now actor input p := stepped_of_step hstep
    constructor
    · intro hnone
      exact step.cache_of_storing job hnone
    · intro e he
      obtain ⟨⟨since, refresher, hcollected, hproduced, hown⟩, -⟩ := ht.sweeps _ _ _ job
      refine ⟨?_, since, refresher, hcollected, hproduced, hown e he⟩
      rw [step.find?_of_storing job, he, hlimits]
      rfl
  case unwritten =>
    intro actor clock sweep key now input p e job hsweep hstep he
    exact (stepped_of_step hstep).find?_of_sweeping job hsweep he
  case set =>
    intro actor key item refresher now input p job hstep
    rw [← hlimits]
    exact (stepped_of_step hstep).find?_of_writing job
  case kept =>
    intro key since c' e' hrun hnone he'
    obtain ⟨e, he, alike⟩ := alike_of_run hrun hnone he'
    exact ⟨e, he, alike.item, alike.refresher, alike.deadline⟩
  case origin => exact ht.entries
  case bound => exact ht.bound

/-! ## A run -/

/-- An entry is set with the refresher "alpha", and a sweep collects it. The key is set anew, with "beta", before "alpha"
comes back with an item. -/
def overtaken : List (Move (Task String)) :=
  prompt 0 0 (.set (service "42") (version 1) "alpha") ++
    prompt 50 1 .sweep ++ [.step 50 (.call 1) .turn] ++
    prompt 60 2 (.set (service "42") (version 2) "beta") ++
    [.step 70 (.call 1) (.fetched (.ok (version 3)))]

/-- The version, the refresher and the deadline that there are for a service. -/
def shown (c : SharedCache String) (id : String) : Option (Int64 × String × Nat) :=
  (c.cache.entries.find? (service id)).map fun e => (e.item.version, e.refresher, e.deadline)

theorem sweepsTrace_overtaken :
    let run := system.play (.new smallLimits) overtaken
    shown run.2 "42" = some (2, "beta", 160) ∧
      run.2.jobs.find? (.call 1) =
        some (.sweeping 50 (.storing (service "42") (version 3) [] ⟨0, 0, 0, 0⟩)) ∧
      SweepsTrace smallLimits.withDefaults run.1 run.2 := by
  refine ⟨by decide +kernel, rfl, ?_⟩
  exact sweepsTrace_of_run (system.run_play _ _)

/-- The sweep of an older entry gives its item to the newer one, whose refresher neither was set with it nor has brought
it. -/
theorem newer_entry_overwritten :
    let before := system.play (.new smallLimits) overtaken
    let after := system.play (.new smallLimits) (overtaken ++ [.step 71 (.call 1) .turn])
    shown before.2 "42" = some (2, "beta", 160) ∧ shown after.2 "42" = some (3, "beta", 171) ∧
      ∀ e, after.2.cache.entries.find? (service "42") = some e →
        ¬ SetWith after.1 (service "42") e.item e.refresher ∧
          ∀ actor, ¬ ProducedIn after.1 actor (service "42") e.refresher e.item := by
  intro before after
  have hshown : shown after.2 "42" = some (3, "beta", 171) := by decide +kernel
  refine ⟨by decide +kernel, hshown, ?_⟩
  intro e he
  rw [shown, he] at hshown
  obtain ⟨hversion, hrest⟩ := Prod.mk.inj (Option.some.inj hshown)
  obtain ⟨hrefresher, -⟩ := Prod.mk.inj hrest
  constructor
  · rintro ⟨moment, hmem, hset⟩
    have hall : ∀ moment ∈ after.1, (setting? (service "42") moment).map
        (fun set => (set.1.version, set.2)) ≠ some (3, "beta") := by decide +kernel
    apply hall moment hmem
    rw [hset, Option.map_some, hversion, hrefresher]
  · rintro actor ⟨moment, hmem, hbrought⟩
    have hall : ∀ moment ∈ after.1, (bringing? (service "42") moment).map
        (fun brought => brought.2.1) ≠ some "beta" := by decide +kernel
    apply hall moment hmem
    rw [hbrought, Option.map_some, hrefresher]

end GatewayAuth.SharedCache
