import GatewayAuth.Proofs.Cache.Capacity

/-!
# `GatewayAuth.Proofs.Cache.Eviction` — what gives way, and whether it was still alive

What gives way at a set is chosen by last uses only, and a deadline counts from the last write. A set is both a use and
a write, so the two orders agree as long as there are only sets. They part in two ways: a read uses an entry that it does
not write, and a sweep writes an entry that it does not use. So a live entry gives way to a new one and leaves an expired
one behind only if the expired one has been found since its last write, or the live one has been renewed since its last
use. Both happen.

## Contents
- `lastUsed_le_of_set`: what gives way was used no later than what stays.
- `finds`, `renews`, `sinceLastUse`: uses that do not write, and writes that do not use.
- `le_of_findSome?`, `used_le_written`, `written_le_used`: what was not seen since something else came no later.
- `EvictsByUse`, `evictsByUse_of_run`: what gives way, in every reachable state.
- `live_entries_give_way`: both ways in which a live entry goes and an expired one stays.
-/

namespace GatewayAuth

namespace Cache

variable {ι ρ : Type} {c : Cache ι ρ} {now : Nat} {key victim other : CacheKey} {item : ι}
  {refresher : ρ} {e e' : CacheEntry ι ρ}

/-- **What gives way at a set was used no later than what stays**, but for the entry that is set. -/
theorem lastUsed_le_of_set (he : c.entries.find? victim = some e)
    (hgone : (c.set now key item refresher).entries.find? victim = none) (hne : other ≠ key)
    (he' : (c.set now key item refresher).entries.find? other = some e') :
    e.lastUsed ≤ e'.lastUsed := by
  have hvictim : victim ≠ key := by
    rintro rfl
    rw [find?_set_self] at hgone
    cases hgone
  rw [find?_set_eq_ite hvictim, he] at hgone
  rw [find?_set_eq_ite hne] at he'
  split at hgone
  · next hgoes =>
    split at he'
    · cases he'
    · next hstays =>
      exact lastUsed_le_of_mem_victims hgoes hstays hne ((find?_entriesWith_of_ne hvictim).trans he)
        ((find?_entriesWith_of_ne hne).trans he')
  · cases hgone

end Cache

namespace SharedCache

variable {ρ : Type}

/-! ## Uses and writes -/

/-- Whether a read finds the entry of a key at this moment. -/
def finds (key : CacheKey) : Moment (SharedCache ρ) (Task ρ) Result Empty → Bool
  | .began _ _ => false
  | .stepped c now actor _ _ =>
    match c.jobs.find? actor with
    | some (.reading key') => decide (key' = key) && (c.cache.get now key').1.isSome
    | _ => false

/-- Whether a sweep renews the entry of a key at this moment. -/
def renews (key : CacheKey) : Moment (SharedCache ρ) (Task ρ) Result Empty → Bool
  | .began _ _ => false
  | .stepped c _ actor _ _ =>
    match c.jobs.find? actor with
    | some (.sweeping _ (.storing key' _ _ _)) => decide (key' = key) && c.cache.entries.contains key
    | _ => false

/-- What has happened since the last use of a key. -/
def sinceLastUse (key : CacheKey) (h : Past ρ) : Past ρ :=
  h.takeWhile fun moment => (useOf? key moment).isNone

variable {c : SharedCache ρ} {h : Past ρ} {now : Nat} {actor : Actor} {input : Input}
  {p : Progress (SharedCache ρ) Result Empty} {limits : CacheLimits} {key : CacheKey}
  {moment : Moment (SharedCache ρ) (Task ρ) Result Empty}

theorem used?_of_useOf? {t : Nat} (huse : useOf? key (.stepped c now actor input p) = some t) :
    c.used? now actor = some key ∧ now = t := by
  by_cases hused : c.used? now actor = some key
  · rw [useOf?_stepped_of_used hused] at huse
    exact ⟨hused, Option.some.inj huse⟩
  · rw [useOf?_stepped_of_not_used hused] at huse
    cases huse

/-- A use that does not write is a read that finds something. -/
theorem finds_of_useOf? (hnone : write? key moment = none) {t : Nat} (huse : useOf? key moment = some t) :
    finds key moment = true := by
  cases moment with
  | began actor task => cases huse
  | stepped c now actor input p =>
      have hused := (used?_of_useOf? huse).1
      have hwrite : c.itemFor? key actor = none := Option.map_eq_none_iff.1 hnone
      unfold used? at hused
      unfold itemFor? at hwrite
      split at hused
      · next key' item refresher job =>
        cases hused
        simp only [job, if_true, reduceCtorEq] at hwrite
      · next key' job =>
        split at hused
        · next hfound =>
          cases hused
          simp only [finds, job, decide_true, hfound, Bool.and_self]
        · cases hused
      · cases hused

/-- A write that does not use is one by a sweep. -/
theorem renews_of_write? (hnone : useOf? key moment = none) {w : Nat × ProxyConfig}
    (hwrite : write? key moment = some w) : renews key moment = true := by
  cases moment with
  | began actor task => cases hwrite
  | stepped c now actor input p =>
      obtain ⟨item, hitem, -⟩ := Option.map_eq_some_iff.1 hwrite
      unfold itemFor? at hitem
      split at hitem
      · next key' item' refresher job =>
        split at hitem
        · next hkey =>
          -- a set is a use
          have hused : c.used? now actor = some key := by simp only [used?, job, hkey]
          rw [useOf?_stepped_of_used hused] at hnone
          cases hnone
        · cases hitem
      · next clock key' item' rest summary job =>
        split at hitem
        · next hkey => simp only [renews, job, hkey, decide_true, Bool.and_self]
        · cases hitem
      · cases hitem

theorem now?_of_useOf? {t : Nat} (huse : useOf? key moment = some t) : moment.now? = some t := by
  cases moment with
  | began actor task => cases huse
  | stepped c now actor input p => exact congrArg some (used?_of_useOf? huse).2

theorem now?_of_write? {w : Nat × ProxyConfig} (hwrite : write? key moment = some w) :
    moment.now? = some w.1 := by
  cases moment with
  | began actor task => cases hwrite
  | stepped c now actor input p =>
      obtain ⟨item, -, rfl⟩ := Option.map_eq_some_iff.1 hwrite
      rfl

/-- Of two kinds of events, let the second not have been seen since the last one of the first. Then its last one came no
later, as long as time does not run backwards. -/
theorem le_of_findSome? {α β : Type} {f : Moment (SharedCache ρ) (Task ρ) Result Empty → Option α}
    {g : Moment (SharedCache ρ) (Task ρ) Result Empty → Option β} {time : α → Nat} {time' : β → Nat}
    (hf : ∀ moment a, f moment = some a → moment.now? = some (time a))
    (hg : ∀ moment b, g moment = some b → moment.now? = some (time' b))
    (forward : (h.filterMap Moment.now?).Pairwise (· ≥ ·))
    (hnone : ∀ moment ∈ h.takeWhile (fun moment => (f moment).isNone), f moment = none → g moment = none)
    {a : α} {b : β} (ha : h.findSome? f = some a) (hb : h.findSome? g = some b) :
    time' b ≤ time a := by
  induction h with
  | nil => cases ha
  | cons moment h ih =>
      rw [List.findSome?_cons] at ha
      cases hfm : f moment with
      | some a' =>
          -- it happens at the last moment of all, and nothing comes later
          rw [hfm] at ha
          cases ha
          rw [List.filterMap_cons, hf moment a hfm] at forward
          obtain ⟨moment', hmem, hgm⟩ := List.exists_of_findSome?_eq_some hb
          rcases List.mem_cons.1 hmem with rfl | hold
          · have hsame : some (time a) = some (time' b) := (hf _ a hfm).symm.trans (hg _ b hgm)
            exact Nat.le_of_eq (Option.some.inj hsame).symm
          · exact (List.pairwise_cons.1 forward).1 _ (List.mem_filterMap.2 ⟨moment', hold, hg _ b hgm⟩)
      | none =>
          have htake : (moment :: h).takeWhile (fun moment => (f moment).isNone) =
              moment :: h.takeWhile (fun moment => (f moment).isNone) := by
            rw [List.takeWhile_cons, hfm]
            rfl
          rw [htake] at hnone
          rw [hfm] at ha
          rw [List.findSome?_cons, hnone moment List.mem_cons_self hfm] at hb
          refine ih ?_ (fun moment hmem => hnone moment (List.mem_cons_of_mem _ hmem)) ha hb
          exact forward.sublist ((List.sublist_cons_self moment h).filterMap _)

/-- An entry that no read has found since its last write was used no later than it was written. -/
theorem used_le_written (forward : (h.filterMap Moment.now?).Pairwise (· ≥ ·))
    (hnone : ∀ moment ∈ sinceLastWrite key h, finds key moment = false) {used : Nat}
    {written : Nat × ProxyConfig} (hused : lastUse? key h = some used)
    (hwritten : lastWrite? key h = some written) : used ≤ written.1 := by
  refine le_of_findSome? (fun _ _ => now?_of_write?) (fun _ _ => now?_of_useOf?) forward ?_ hwritten hused
  intro moment hmem hwrite
  cases huse : useOf? key moment with
  | none => rfl
  | some t =>
      have hfinds := finds_of_useOf? hwrite huse
      rw [hnone moment hmem] at hfinds
      cases hfinds

/-- An entry that no sweep has renewed since its last use was written no later than it was used. -/
theorem written_le_used (forward : (h.filterMap Moment.now?).Pairwise (· ≥ ·))
    (hnone : ∀ moment ∈ sinceLastUse key h, renews key moment = false) {used : Nat}
    {written : Nat × ProxyConfig} (hused : lastUse? key h = some used)
    (hwritten : lastWrite? key h = some written) : written.1 ≤ used := by
  refine le_of_findSome? (fun _ _ => now?_of_useOf?) (fun _ _ => now?_of_write?) forward ?_ hused hwritten
  intro moment hmem huse
  cases hwrite : write? key moment with
  | none => rfl
  | some w =>
      have hrenews := renews_of_write? huse hwrite
      rw [hnone moment hmem] at hrenews
      cases hrenews

/-! ## What gives way -/

/-- What gives way in a shared cache that stands at `c` with the past `h`. -/
structure EvictsByUse (h : Past ρ) (c : SharedCache ρ) : Prop where
  /-- What is set is alive. -/
  fresh : ∀ actor key item refresher now input p, c.jobs.find? actor = some (.writing key item refresher) →
    system.step c now actor input = some p →
    ∃ e, p.state.cache.entries.find? key = some e ∧ e.isExpired now = false
  /-- What gives way to it was used, set or found by a read, no later than anything else that stays. -/
  order : ∀ actor key item refresher now input p, c.jobs.find? actor = some (.writing key item refresher) →
    system.step c now actor input = some p →
    ∀ victim other, c.cache.entries.contains victim = true → p.state.cache.entries.contains victim = false →
      other ≠ key → p.state.cache.entries.contains other = true →
      ∃ used used', lastUse? victim h = some used ∧ lastUse? other h = some used' ∧ used ≤ used'
  /-- Where an entry gives way that is alive, nothing that stays is expired, unless it has been found by a read since it
  was written, or what gives way has been renewed by a sweep since it was used. -/
  live : ∀ actor key item refresher now input p, c.jobs.find? actor = some (.writing key item refresher) →
    system.step c now actor input = some p → (h.filterMap Moment.now?).Pairwise (· ≥ ·) →
    ∀ victim e, c.cache.entries.find? victim = some e → p.state.cache.entries.find? victim = none →
      e.isExpired now = false → (∀ moment ∈ sinceLastUse victim h, renews victim moment = false) →
      ∀ other e', p.state.cache.entries.find? other = some e' →
        (∀ moment ∈ sinceLastWrite other h, finds other moment = false) → e'.isExpired now = false

/-- **Capacity is kept by last uses, whether entries are alive or not**, in every reachable state. -/
theorem evictsByUse_of_run (run : Run system (.new limits) h c) : EvictsByUse h c := by
  have hlater : ∀ now, now < now + c.cache.limits.ttl := by
    intro now
    rw [limits_of_run run]
    exact Nat.lt_add_of_pos_right limits.withDefaults_pos.2.2
  constructor
  case fresh =>
    intro actor key item refresher now input p job hstep
    exact ⟨_, (stepped_of_step hstep).find?_of_writing job, Cache.isExpired_eq_false_iff.2 (hlater now)⟩
  case order =>
    intro actor key item refresher now input p job hstep victim other hthere hgone hne hstays
    rw [(stepped_of_step hstep).cache_of_writing job] at hgone hstays
    obtain ⟨e, he⟩ := Table.contains_eq_true_iff.1 hthere
    obtain ⟨e', he'⟩ := Table.contains_eq_true_iff.1 hstays
    refine ⟨e.lastUsed, e'.lastUsed, lastUse?_of_run run he, ?_, ?_⟩
    · exact lastUse?_of_run run (Cache.find?_of_set_of_ne (Ne.symm hne) he')
    · exact Cache.lastUsed_le_of_set he (Table.contains_eq_false_iff.1 hgone) hne he'
  case live =>
    intro actor key item refresher now input p job hstep forward victim e he hgone halive hunrenewed
      other e' hstays hunfound
    rw [Cache.isExpired_eq_false_iff] at halive ⊢
    by_cases hkey : other = key
    · subst hkey
      rw [(stepped_of_step hstep).find?_of_writing job] at hstays
      cases hstays
      exact hlater now
    · rw [(stepped_of_step hstep).cache_of_writing job] at hgone hstays
      have hbefore := Cache.find?_of_set_of_ne (Ne.symm hkey) hstays
      obtain ⟨written, hwritten, hdeadline, -⟩ := dated_of_run run victim e he
      obtain ⟨written', hwritten', hdeadline', -⟩ := dated_of_run run other e' hbefore
      -- the last write of what gives way came no later than that of what stays
      have hle : written ≤ written' := calc
        written ≤ e.lastUsed := written_le_used forward hunrenewed (lastUse?_of_run run he) hwritten
        _ ≤ e'.lastUsed := Cache.lastUsed_le_of_set he hgone hkey hstays
        _ ≤ written' := used_le_written forward hunfound (lastUse?_of_run run hbefore) hwritten'
      rw [hdeadline] at halive
      rw [hdeadline']
      exact Nat.lt_of_lt_of_le halive (Nat.add_le_add_right hle _)

/-! ## Runs -/

/-- Two entries fill a cache. -/
def filled : List (Move (Task String)) :=
  prompt 0 0 (.set (service "42") (version 1) "alpha") ++
    prompt 50 1 (.set (service "43") (version 2) "beta")

/-- A third entry is about to be set. -/
def third : Move (Task String) := .begin (.call 3) (.set (service "44") (version 3) "gamma")

/-- The keys that there are, each with whether its entry is expired. -/
def expiries (c : SharedCache String) (now : Nat) : List (CacheKey × Bool) :=
  c.cache.entries.toList.map fun e => (e.1, e.2.isExpired now)

/-- The keys that there are after the third entry has been set. -/
def keysAfter (c : SharedCache String) (now : Nat) : Option (List CacheKey) :=
  (system.step c now (.call 3) .turn).map fun p => p.state.cache.entries.keys

theorem evictsByUse_filled :
    let run := system.play (.new smallLimits) (filled ++ [third])
    expiries run.2 60 = [(service "42", false), (service "43", false)] ∧
      keysAfter run.2 60 = some [service "43", service "44"] ∧
      (run.1.filterMap Moment.now?).Pairwise (· ≥ ·) ∧
      (∀ moment ∈ sinceLastUse (service "42") run.1, renews (service "42") moment = false) ∧
      (∀ moment ∈ sinceLastWrite (service "43") run.1, finds (service "43") moment = false) ∧
      EvictsByUse run.1 run.2 := by
  refine ⟨by decide +kernel, by decide +kernel, by decide +kernel, by decide +kernel, by decide +kernel, ?_⟩
  exact evictsByUse_of_run (system.run_play _ _)

/-- The first entry is found once more, right before it expires. -/
def foundLate : List (Move (Task String)) := filled ++ prompt 99 2 (.get (service "42")) ++ [third]

/-- The first entry is renewed by a sweep, to which the second one is not due yet. -/
def renewedEarly : List (Move (Task String)) :=
  prompt 0 0 (.set (service "42") (version 1) "alpha") ++
    prompt 10 1 (.set (service "43") (version 2) "beta") ++ prompt 45 2 .sweep ++
    [.step 45 (.call 2) .turn, .step 46 (.call 2) (.fetched (.ok (version 4))), .step 46 (.call 2) .turn,
      .step 46 (.call 2) .turn, third]

/-- **A live entry gives way, and an expired one stays**: in the one run because the expired entry has been found late,
in the other because the live one has been renewed since it was set. -/
theorem live_entries_give_way :
    let found := system.play (.new smallLimits) foundLate
    let renewed := system.play (.new smallLimits) renewedEarly
    (Run system (.new smallLimits) found.1 found.2 ∧
      expiries found.2 100 = [(service "42", true), (service "43", false)] ∧
      keysAfter found.2 100 = some [service "42", service "44"]) ∧
    Run system (.new smallLimits) renewed.1 renewed.2 ∧
      expiries renewed.2 120 = [(service "42", false), (service "43", true)] ∧
      keysAfter renewed.2 120 = some [service "43", service "44"] := by
  refine ⟨⟨system.run_play _ _, ?_, ?_⟩, system.run_play _ _, ?_, ?_⟩
  · decide +kernel
  · decide +kernel
  · decide +kernel
  · decide +kernel

end SharedCache

end GatewayAuth
