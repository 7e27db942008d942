import GatewayAuth.Proofs.Cache.Shared

/-!
# `GatewayAuth.Proofs.Cache.Freshness` — a read finds the last write, for as long as that lives

An entry is written by a set, or by a sweep that comes back with a renewed item and finds the entry there. The deadline
in an entry is one time to live after its last write, and nothing but a write moves it. So a read needs no more than the
entry to find the last write or to find it dead: an entry that is there has been there since its last write.

## Contents
- `itemFor?`, `write?`, `leaves`: when the entry of a key is written, and when it goes; `alike_of_run`.
- `lastWrite?`, `sinceLastWrite`: what a past tells of a key.
- `Dated`: every entry has the item and the deadline of its last write; `dated_of_run`.
- `ReadsFresh`: what a read finds, and what moves no deadline; `readsFresh_of_run`.
-/

namespace GatewayAuth.SharedCache

variable {ρ : Type}

/-! ## Writes -/

/-- The item that an actor writes to the entry of a key with its next step: by a set, or by a sweep that finds it. -/
def itemFor? (c : SharedCache ρ) (key : CacheKey) (actor : Actor) : Option ProxyConfig :=
  match c.jobs.find? actor with
  | some (.writing key' item _) => if key' = key then some item else none
  | some (.sweeping _ (.storing key' item _ _)) =>
    if key' = key ∧ c.cache.entries.contains key = true then some item else none
  | _ => none

/-- The instant and the item, if the entry of a key is written at this moment. -/
def write? (key : CacheKey) :
    Moment (SharedCache ρ) (Task ρ) Result Empty → Option (Nat × ProxyConfig)
  | .began _ _ => none
  | .stepped c now actor _ _ => (c.itemFor? key actor).map fun item => (now, item)

/-- Whether the entry of a key goes at this moment: it is removed, gives way to another one, or is dropped as expired. -/
def leaves (key : CacheKey) : Moment (SharedCache ρ) (Task ρ) Result Empty → Bool
  | .began _ _ => false
  | .stepped c _ _ _ p => c.cache.entries.contains key && !p.state.cache.entries.contains key

/-- The last write of a key. -/
def lastWrite? (key : CacheKey) (h : Past ρ) : Option (Nat × ProxyConfig) :=
  h.findSome? (write? key)

/-- What has happened since then. -/
def sinceLastWrite (key : CacheKey) (h : Past ρ) : Past ρ :=
  h.takeWhile fun moment => (write? key moment).isNone

variable {c c' : SharedCache ρ} {h : Past ρ} {now t : Nat} {actor : Actor} {input : Input}
  {p : Progress (SharedCache ρ) Result Empty} {key : CacheKey} {limits : CacheLimits}
  {moment : Moment (SharedCache ρ) (Task ρ) Result Empty}

theorem lastWrite?_cons_of_none (hnone : write? key moment = none) :
    lastWrite? key (moment :: h) = lastWrite? key h ∧
      sinceLastWrite key (moment :: h) = moment :: sinceLastWrite key h := by
  constructor
  · unfold lastWrite?
    rw [List.findSome?_cons, hnone]
  · unfold sinceLastWrite
    rw [List.takeWhile_cons, hnone]
    rfl

theorem lastWrite?_cons_of_some {w : Nat × ProxyConfig} (hsome : write? key moment = some w) :
    lastWrite? key (moment :: h) = some w ∧ sinceLastWrite key (moment :: h) = [] := by
  constructor
  · unfold lastWrite?
    rw [List.findSome?_cons, hsome]
  · unfold sinceLastWrite
    rw [List.takeWhile_cons, hsome]
    rfl

/-- What is written at a step is there after it, for one time to live. -/
theorem Stepped.of_write {item : ProxyConfig} (step : Stepped c now actor input p)
    (hwrite : c.itemFor? key actor = some item) :
    ∃ e, p.state.cache.entries.find? key = some e ∧ e.item = item ∧
      e.deadline = now + c.cache.limits.ttl := by
  unfold itemFor? at hwrite
  split at hwrite
  · next key' item' refresher job =>
    split at hwrite
    · next hkey =>
      subst hkey
      cases hwrite
      exact ⟨_, step.find?_of_writing job, rfl, rfl⟩
    · cases hwrite
  · next clock key' item' rest summary job =>
    split at hwrite
    · next hkey =>
      obtain ⟨rfl, hstored⟩ := hkey
      cases hwrite
      obtain ⟨e, hfind⟩ := Table.contains_eq_true_iff.1 hstored
      let e' : CacheEntry ProxyConfig ρ := { e with item, deadline := now + c.cache.limits.ttl }
      refine ⟨e', ?_, rfl, rfl⟩
      rw [step.find?_of_storing job, hfind]
      rfl
    · cases hwrite
  · cases hwrite

/-- **A step that does not write an entry leaves its item and its deadline.** -/
theorem Stepped.of_no_write (step : Stepped c now actor input p)
    (hwrite : c.itemFor? key actor = none) {e' : CacheEntry ProxyConfig ρ}
    (he : p.state.cache.entries.find? key = some e') :
    ∃ e, c.cache.entries.find? key = some e ∧ e.Alike e' := by
  unfold itemFor? at hwrite
  cases step.entryFrom he with
  | kept hfind alike => exact ⟨_, hfind, alike⟩
  | set job => simp only [job, if_true, reduceCtorEq] at hwrite
  | renewed job hfind =>
      have hstored := Table.contains_eq_true_iff.2 ⟨_, hfind⟩
      simp only [job, hstored, and_self, if_true, reduceCtorEq] at hwrite

/-- **Until its key is written again, an entry keeps its item and its deadline**, in every run from any state. -/
theorem alike_of_run (run : Run system c h c') (hnone : ∀ moment ∈ h, write? key moment = none)
    {e' : CacheEntry ProxyConfig ρ} (he' : c'.cache.entries.find? key = some e') :
    ∃ e, c.cache.entries.find? key = some e ∧ e.Alike e' := by
  -- the entry at the end is followed back, one step after the other
  induction run generalizing e' with
  | start => exact ⟨e', he', .refl _⟩
  | begins run hbegin ih =>
      obtain ⟨id, -, -, rfl⟩ := exists_resume_of_begin? hbegin
      exact ih (fun moment hmem => hnone moment (List.mem_cons_of_mem _ hmem)) he'
  | steps run hstep ih =>
      have hwrite := hnone _ List.mem_cons_self
      obtain ⟨e₁, he₁, alike₁⟩ :=
        (stepped_of_step hstep).of_no_write (Option.map_eq_none_iff.1 hwrite) he'
      obtain ⟨e, he, alike⟩ := ih (fun moment hmem => hnone moment (List.mem_cons_of_mem _ hmem)) he₁
      exact ⟨e, he, alike.trans alike₁⟩

/-! ## The deadline of an entry -/

/-- Every entry has the item of the last write of its key, is due one time to live after it, and has been there since
then. -/
def Dated (h : Past ρ) (c : SharedCache ρ) : Prop :=
  ∀ key e, c.cache.entries.find? key = some e →
    ∃ w, lastWrite? key h = some (w, e.item) ∧ e.deadline = w + c.cache.limits.ttl ∧
      ∀ moment ∈ sinceLastWrite key h, leaves key moment = false

theorem Dated.stepped (hd : Dated h c) (step : Stepped c now actor input p) :
    Dated (.stepped c now actor input p :: h) p.state := by
  intro key e' he'
  rw [step.limits]
  cases hwrite : c.itemFor? key actor with
  | some item =>
      -- the entry is new or renewed, and nothing has happened since
      obtain ⟨e, he, hitem, hdeadline⟩ := step.of_write hwrite
      rw [he'] at he
      cases he
      have hsome : write? key (.stepped c now actor input p) = some (now, item) := by
        rw [write?, hwrite, Option.map_some]
      obtain ⟨hlast, hsince⟩ := lastWrite?_cons_of_some (h := h) hsome
      refine ⟨now, ?_, hdeadline, ?_⟩
      · rw [hlast, hitem]
      · rw [hsince]
        intro moment hmem
        cases hmem
  | none =>
      -- the entry was there before, with the item and the deadline of the same write
      obtain ⟨e, he, alike⟩ := step.of_no_write hwrite he'
      obtain ⟨w, hlast, hdeadline, hstays⟩ := hd key e he
      have hnone : write? key (.stepped c now actor input p) = none := by
        rw [write?, hwrite, Option.map_none]
      obtain ⟨hlast', hsince⟩ := lastWrite?_cons_of_none (h := h) hnone
      refine ⟨w, ?_, ?_, ?_⟩
      · rw [hlast', alike.item]
        exact hlast
      · rw [alike.deadline]
        exact hdeadline
      · rw [hsince]
        intro moment hmem
        rcases List.mem_cons.1 hmem with rfl | hold
        · -- the entry is there after the step
          have hstored := Table.contains_eq_true_iff.2 ⟨e', he'⟩
          show (c.cache.entries.contains key && !p.state.cache.entries.contains key) = false
          rw [hstored, Bool.not_true, Bool.and_false]
        · exact hstays moment hold

/-- **Every entry in every reachable state is dated by its last write.** -/
theorem dated_of_run (run : Run system (.new limits) h c) : Dated h c := by
  induction run with
  | start =>
      intro key e he
      rw [show (new limits).cache.entries.find? key = none from rfl] at he
      cases he
  | @begins h c c' actor task run hbegin ih =>
      obtain ⟨id, -, -, rfl⟩ := exists_resume_of_begin? hbegin
      intro key e he
      have hnone : write? key (.began actor task : Moment (SharedCache ρ) _ _ _) = none := rfl
      obtain ⟨w, hlast, hdeadline, hstays⟩ := ih key e he
      obtain ⟨hlast', hsince⟩ := lastWrite?_cons_of_none (h := h) hnone
      refine ⟨w, hlast'.trans hlast, hdeadline, ?_⟩
      rw [hsince]
      intro moment hmem
      rcases List.mem_cons.1 hmem with rfl | hold
      · rfl
      · exact hstays moment hold
  | steps run hstep ih => exact ih.stepped (stepped_of_step hstep)

/-! ## Reads -/

/-- What reads find in a shared cache that stands at `c` with the past `h`, and what moves no deadline. -/
structure ReadsFresh (limits : CacheLimits) (h : Past ρ) (c : SharedCache ρ) : Prop where
  /-- A read at `t` comes to a result. What it finds is the last write of its key; that is less than one time to live
  ago, and since then the entry has neither been removed, nor evicted, nor dropped. One time to live after the last write
  the read finds nothing, and leaves nothing. -/
  reads : ∀ actor key t, c.jobs.find? actor = some (.reading key) →
    ∃ c' item?, system.step c t actor .turn = some (.done c' (.found item?)) ∧
      (∀ item, item? = some item → ∃ w, lastWrite? key h = some (w, item) ∧ t < w + limits.ttl ∧
        ((∀ moment ∈ h, ∀ now, moment.now? = some now → now ≤ t) → w ≤ t) ∧
        ∀ moment ∈ sinceLastWrite key h, leaves key moment = false) ∧
      ∀ w item, lastWrite? key h = some (w, item) → w + limits.ttl ≤ t →
        item? = none ∧ c'.cache.entries.find? key = none
  /-- What is not a write of a key leaves item and deadline of its entry, if it leaves that. -/
  unwritten : ∀ actor key now input p e', system.step c now actor input = some p →
    c.itemFor? key actor = none → p.state.cache.entries.find? key = some e' →
    ∃ e, c.cache.entries.find? key = some e ∧ e'.item = e.item ∧ e'.deadline = e.deadline
  /-- Nor does a read move the deadline of any entry. -/
  read : ∀ actor key key' now input p e', c.jobs.find? actor = some (.reading key') →
    system.step c now actor input = some p → p.state.cache.entries.find? key = some e' →
    ∃ e, c.cache.entries.find? key = some e ∧ e'.item = e.item ∧ e'.deadline = e.deadline
  /-- A refresh that fails changes nothing in the cache. -/
  failed : ∀ actor clock key refresher rest summary now input p,
    c.jobs.find? actor = some (.sweeping clock (.refreshing key refresher rest summary)) →
    told? input = some (.renewed none) → system.step c now actor input = some p →
    p.state.cache = c.cache

/-- A write that is found in a past was made at some moment of it. -/
theorem le_of_lastWrite? {w : Nat} {item : ProxyConfig} (hlast : lastWrite? key h = some (w, item))
    (hclock : ∀ moment ∈ h, ∀ now, moment.now? = some now → now ≤ t) : w ≤ t := by
  obtain ⟨moment, hmem, hwrite⟩ := List.exists_of_findSome?_eq_some hlast
  cases moment with
  | began actor task => cases hwrite
  | stepped c now actor input p =>
      obtain ⟨item', -, heq⟩ := Option.map_eq_some_iff.1 hwrite
      cases heq
      exact hclock _ hmem w rfl

/-- **A read finds the last write of its key while that lives**, in every reachable state. -/
theorem readsFresh_of_run (run : Run system (.new limits) h c) :
    ReadsFresh limits.withDefaults h c := by
  have hdated := dated_of_run run
  have hlimits := limits_of_run run
  constructor
  case reads =>
    intro actor key t job
    obtain ⟨item?, cache, hget⟩ : ∃ item? cache, c.cache.get t key = (item?, cache) := ⟨_, _, rfl⟩
    have hstep : system.step c t actor .turn = some (.done (c.leave actor cache) (.found item?)) := by
      simp only [system, step, job, hget]
    refine ⟨_, item?, hstep, ?_, ?_⟩
    · rintro item rfl
      obtain ⟨e, he, rfl, hlive⟩ := Cache.get_eq_some hget
      obtain ⟨w, hlast, hdeadline, hstays⟩ := hdated key e he
      rw [hlimits] at hdeadline
      exact ⟨w, hlast, hdeadline ▸ hlive, le_of_lastWrite? hlast, hstays⟩
    · intro w item hlast hlate
      have hnone : item? = none := by
        cases item? with
        | none => rfl
        | some item' =>
            -- the entry would be that of the last write, and it would not be expired
            obtain ⟨e, he, -, hlive⟩ := Cache.get_eq_some hget
            obtain ⟨w', hlast', hdeadline, -⟩ := hdated key e he
            rw [hlast] at hlast'
            cases hlast'
            rw [hlimits] at hdeadline
            omega
      subst hnone
      exact ⟨rfl, Cache.get_eq_none hget⟩
  case unwritten =>
    intro actor key now input p e' hstep hwrite he'
    obtain ⟨e, he, alike⟩ := (stepped_of_step hstep).of_no_write hwrite he'
    exact ⟨e, he, alike.item, alike.deadline⟩
  case read =>
    intro actor key key' now input p e' job hstep he'
    have hwrite : c.itemFor? key actor = none := by
      unfold itemFor?
      rw [job]
    obtain ⟨e, he, alike⟩ := (stepped_of_step hstep).of_no_write hwrite he'
    exact ⟨e, he, alike.item, alike.deadline⟩
  case failed =>
    intro actor clock key refresher rest summary now input p job told hstep
    have step : Stepped c now actor input p := stepped_of_step hstep
    cases step with
    | failed job' told' => rfl
    | renewed job' => cases told
    | _ => simp_all only [Option.some.injEq, reduceCtorEq, CacheJob.sweeping.injEq, and_false]

/-! ## A run -/

/-- A configuration of some version. -/
def version (n : Int64) : ProxyConfig := { (default : ProxyConfig) with version := n }

/-- The key of a service. -/
def service (id : String) : CacheKey := ⟨"cp", id⟩

/-- The version that a read has found. -/
def Result.version? : Result → Option Int64
  | .found (some item) => some item.version
  | _ => none

/-- A call that comes back as soon as it has started. -/
def prompt (now id : Nat) (task : Task String) : List (Move (Task String)) :=
  [.begin (.call id) task, .step now (.call id) .turn]

/-- Room for two entries; a time to live of 100 milliseconds, and 60 between sweeps. -/
def smallLimits : CacheLimits := ⟨2, 0, 60, 100⟩

/-- An entry is set and read, and a sweep renews it while another one is set. Then it is about to be read again. -/
def renewedOnce : List (Move (Task String)) :=
  prompt 0 0 (.set (service "42") (version 1) "alpha") ++
    prompt 50 1 .sweep ++ [.step 50 (.call 1) .turn] ++
    prompt 55 2 (.set (service "43") (version 5) "beta") ++ prompt 60 3 (.get (service "42")) ++
    [.step 70 (.call 1) (.fetched (.ok (version 2))), .step 71 (.call 1) .turn, .step 71 (.call 1) .turn,
      .begin (.call 4) (.get (service "42"))]

theorem readsFresh_renewedOnce :
    let run := system.play (.new smallLimits) renewedOnce
    let foundAt := fun t => (system.step run.2 t (.call 4) .turn).bind (·.result?.bind Result.version?)
    (lastWrite? (service "42") run.1).map (fun w => (w.1, w.2.version)) = some (71, 2) ∧
      foundAt 170 = some 2 ∧ foundAt 171 = none ∧
      ReadsFresh smallLimits.withDefaults run.1 run.2 := by
  refine ⟨by decide +kernel, by decide +kernel, by decide +kernel, ?_⟩
  exact readsFresh_of_run (system.run_play _ _)

end GatewayAuth.SharedCache
