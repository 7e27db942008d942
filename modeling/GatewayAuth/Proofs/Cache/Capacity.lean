import GatewayAuth.Proofs.Cache.Freshness
import Mathlib.Data.List.Nodup

/-!
# `GatewayAuth.Proofs.Cache.Capacity` — how much a cache holds, and what gives way

A set is all that adds a key, and where it finds the cache full, one entry gives way to the new one. That is the entry
whose last use is the oldest one: an entry is used when it is set and when a read finds it, and by nothing else. So the
last use that stands in an entry is the last one in the past of its key, and where no two uses come at the same instant,
there is only one entry that can give way.

## Contents
- `mem_evictionOrder`, `length_evictionOrder`, `lastUsed_le_of_mem_victims`, `exists_victim`: who gives way, in one
  operation; `find?_set_eq_ite`: what a set leaves.
- `size_set`, `size_get_le`, `size_startSweep_le`, `size_storeRefreshed`: sizes.
- `used?`, `use?`, `lastUse?`, `useTimes`: when an entry is used; `Stepped.lastUsed`, `lastUse?_of_run`.
- `KeepsCapacity`, `keepsCapacity_of_run`: capacity and the choice of what gives way, in every reachable state.
-/

namespace GatewayAuth

namespace Cache

variable {ι ρ : Type} {c c' : Cache ι ρ} {maxSize now : Nat}
  {entries : Table CacheKey (CacheEntry ι ρ)} {key key' keep : CacheKey} {item : ι} {refresher : ρ}
  {e e' : CacheEntry ι ρ}

/-! ## What gives way -/

/-- The order of eviction is that of last uses, over all entries but one. -/
theorem exists_evictionOrder_eq (entries : Table CacheKey (CacheEntry ι ρ)) (keep : CacheKey) :
    ∃ l : List (CacheKey × CacheEntry ι ρ), evictionOrder entries keep = l.map Prod.fst ∧
      l.Perm (entries.erase keep).toList ∧ l.Pairwise fun a b => a.2.lastUsed ≤ b.2.lastUsed := by
  refine ⟨_, rfl, ?_, ?_⟩
  · rw [Table.toList_erase]
    exact Sorted.perm_sort _ _
  · exact Sorted.pairwise_sort_key Nat.le_total Nat.le_trans
      (fun e : CacheKey × CacheEntry ι ρ => e.2.lastUsed) _

theorem mem_evictionOrder :
    key ∈ evictionOrder entries keep ↔ key ≠ keep ∧ entries.contains key = true := by
  obtain ⟨l, heq, hperm, -⟩ := exists_evictionOrder_eq entries keep
  rw [heq, (hperm.map Prod.fst).mem_iff, Table.contains_eq_true_iff]
  constructor
  · intro hmem
    obtain ⟨⟨k, e⟩, he, rfl⟩ := List.mem_map.1 hmem
    have hfind := Table.find?_eq_some_iff.2 he
    rw [Table.find?_erase] at hfind
    split at hfind
    · cases hfind
    · next hne => exact ⟨Ne.symm hne, e, hfind⟩
  · rintro ⟨hne, e, he⟩
    have hfind : (entries.erase keep).find? key = some e := by
      rw [Table.find?_erase, if_neg (Ne.symm hne)]
      exact he
    exact List.mem_map.2 ⟨_, Table.find?_eq_some_iff.1 hfind, rfl⟩

theorem nodup_evictionOrder (entries : Table CacheKey (CacheEntry ι ρ)) (keep : CacheKey) :
    (evictionOrder entries keep).Nodup := by
  obtain ⟨l, heq, hperm, -⟩ := exists_evictionOrder_eq entries keep
  rw [heq, (hperm.map Prod.fst).nodup_iff]
  exact (entries.erase keep).nodup

/-- All entries but one are candidates. -/
theorem length_evictionOrder (hkeep : entries.contains keep = true) :
    (evictionOrder entries keep).length + 1 = entries.size := by
  obtain ⟨l, heq, hperm, -⟩ := exists_evictionOrder_eq entries keep
  have hsize := Table.size_erase entries keep
  rw [if_pos hkeep] at hsize
  rw [heq, List.length_map, hperm.length_eq]
  exact hsize

/-- There are candidates enough. -/
theorem length_victims (hkeep : entries.contains keep = true) (hmax : 0 < maxSize) :
    (victims maxSize entries keep).length = entries.size - maxSize := by
  have hlength := length_evictionOrder hkeep
  unfold victims
  rw [List.length_take]
  omega

theorem contains_of_mem_victims (hmem : key ∈ victims maxSize entries keep) :
    entries.contains key = true :=
  (mem_evictionOrder.1 (List.mem_of_mem_take hmem)).2

theorem nodup_victims (maxSize : Nat) (entries : Table CacheKey (CacheEntry ι ρ)) (keep : CacheKey) :
    (victims maxSize entries keep).Nodup :=
  (nodup_evictionOrder entries keep).sublist (List.take_sublist _ _)

theorem victims_eq_nil (hroom : entries.size ≤ maxSize) : victims maxSize entries keep = [] := by
  unfold victims
  rw [Nat.sub_eq_zero_of_le hroom, List.take_zero]

/-- **What gives way was used no later than what stays**, but for what is spared. -/
theorem lastUsed_le_of_mem_victims (hgoes : key ∈ victims maxSize entries keep)
    (hstays : key' ∉ victims maxSize entries keep) (hne : key' ≠ keep)
    (he : entries.find? key = some e) (he' : entries.find? key' = some e') :
    e.lastUsed ≤ e'.lastUsed := by
  obtain ⟨l, horder, hperm, hsorted⟩ := exists_evictionOrder_eq entries keep
  have hentry : ∀ {k : CacheKey} {e₀ e₁ : CacheEntry ι ρ}, (k, e₀) ∈ l → entries.find? k = some e₁ →
      e₀ = e₁ := by
    intro k e₀ e₁ hmem hfind
    have herased := Table.find?_eq_some_iff.2 (hperm.mem_iff.1 hmem)
    rw [Table.find?_erase] at herased
    split at herased
    · cases herased
    · exact Option.some.inj (herased.symm.trans hfind)
  have hlater : key' ∈ (evictionOrder entries keep).drop (entries.size - maxSize) := by
    have hmem : key' ∈ evictionOrder entries keep :=
      mem_evictionOrder.2 ⟨hne, Table.contains_eq_true_iff.2 ⟨e', he'⟩⟩
    rw [← List.take_append_drop (entries.size - maxSize) (evictionOrder entries keep)] at hmem
    exact (List.mem_append.1 hmem).resolve_left hstays
  -- what is taken stands in front of what is left
  unfold victims at hgoes
  rw [horder, ← List.map_take] at hgoes
  rw [horder, ← List.map_drop] at hlater
  obtain ⟨⟨k, e₀⟩, htaken, rfl⟩ := List.mem_map.1 hgoes
  obtain ⟨⟨k', e₁⟩, hleft, rfl⟩ := List.mem_map.1 hlater
  rw [← hentry (List.mem_of_mem_take htaken) he, ← hentry (List.mem_of_mem_drop hleft) he']
  rw [← List.take_append_drop (entries.size - maxSize) l, List.pairwise_append] at hsorted
  exact hsorted.2.2 _ htaken _ hleft

/-- **Where there is one entry too many, the one whose last use is the oldest gives way.** -/
theorem exists_victim (hkeep : entries.contains keep = true) (hmax : 0 < maxSize)
    (hfull : entries.size = maxSize + 1) :
    ∃ victim e, victims maxSize entries keep = [victim] ∧ victim ≠ keep ∧
      entries.find? victim = some e ∧
      ∀ key' e', key' ≠ keep → entries.find? key' = some e' → e.lastUsed ≤ e'.lastUsed := by
  have hlength := length_victims hkeep hmax
  rw [hfull, Nat.add_sub_cancel_left] at hlength
  obtain ⟨victim, hvictims⟩ := List.length_eq_one_iff.1 hlength
  have hgoes : victim ∈ victims maxSize entries keep := by
    rw [hvictims]
    exact List.mem_singleton_self victim
  obtain ⟨e, he⟩ := Table.contains_eq_true_iff.1 (contains_of_mem_victims hgoes)
  refine ⟨victim, e, hvictims, (mem_evictionOrder.1 (List.mem_of_mem_take hgoes)).1, he, ?_⟩
  intro key' e' hne he'
  by_cases heq : key' = victim
  · rw [heq, he] at he'
    cases he'
    exact Nat.le_refl _
  · refine lastUsed_le_of_mem_victims hgoes (fun hmem => heq ?_) hne he he'
    rw [hvictims] at hmem
    exact List.mem_singleton.1 hmem

/-! ## Sizes -/

/-- The entries after an item has been put in, before others give way to it. -/
def entriesWith (c : Cache ι ρ) (now : Nat) (key : CacheKey) (item : ι) (refresher : ρ) :
    Table CacheKey (CacheEntry ι ρ) :=
  c.entries.insert key ⟨item, refresher, now + c.limits.ttl, now⟩

/-- As many entries give way as there are too many. -/
theorem size_set (hmax : 0 < c.limits.maxSize) :
    (c.set now key item refresher).size =
      min (c.entriesWith now key item refresher).size c.limits.maxSize := by
  have hkeep : (c.entriesWith now key item refresher).contains key = true :=
    Table.contains_insert_self _ _ _
  have hlength := length_victims hkeep hmax
  have hsize := Table.size_foldl_erase (nodup_victims c.limits.maxSize _ key)
    (c.entriesWith now key item refresher) fun _ => contains_of_mem_victims
  show ((victims c.limits.maxSize (c.entriesWith now key item refresher) key).foldl Table.erase
    (c.entriesWith now key item refresher)).size = _
  omega

theorem find?_entriesWith_of_ne (hne : key' ≠ key) :
    (c.entriesWith now key item refresher).find? key' = c.entries.find? key' :=
  (Table.find?_insert _ _ _ _).trans (if_neg (Ne.symm hne))

/-- A set takes out what gives way to it, and leaves all other entries as they are. -/
theorem find?_set_eq_ite (hne : key' ≠ key) :
    (c.set now key item refresher).entries.find? key' =
      if key' ∈ victims c.limits.maxSize (c.entriesWith now key item refresher) key then none
      else c.entries.find? key' := by
  show ((victims c.limits.maxSize (c.entriesWith now key item refresher) key).foldl Table.erase
    (c.entriesWith now key item refresher)).find? key' = _
  rw [Table.find?_foldl_erase_eq_ite, find?_entriesWith_of_ne hne]

/-- Where there is room, a set leaves all other entries as they are. -/
theorem find?_set_of_room (hroom : (c.entriesWith now key item refresher).size ≤ c.limits.maxSize)
    (hne : key' ≠ key) :
    (c.set now key item refresher).entries.find? key' = c.entries.find? key' := by
  rw [find?_set_eq_ite hne, victims_eq_nil hroom]
  exact if_neg List.not_mem_nil

/-- **A set that finds the cache full takes one entry out**, the one whose last use is the oldest among the others. -/
theorem find?_set_of_full (hmax : 0 < c.limits.maxSize) (hnew : c.entries.contains key = false)
    (hfull : c.size = c.limits.maxSize) :
    ∃ victim e, c.entries.find? victim = some e ∧
      (∀ key' e', c.entries.find? key' = some e' → e.lastUsed ≤ e'.lastUsed) ∧
      ∀ key', key' ≠ key → (c.set now key item refresher).entries.find? key' =
        if key' = victim then none else c.entries.find? key' := by
  have hne_of_find : ∀ {key' e'}, c.entries.find? key' = some e' → key' ≠ key := by
    rintro key' e' he' rfl
    rw [Table.contains_eq_false_iff.1 hnew] at he'
    cases he'
  have hsize : (c.entriesWith now key item refresher).size = c.limits.maxSize + 1 := by
    rw [← hfull]
    refine (Table.size_insert _ _ _).trans ?_
    rw [hnew]
    rfl
  have hkeep : (c.entriesWith now key item refresher).contains key = true :=
    Table.contains_insert_self _ _ _
  obtain ⟨victim, e, hvictims, hne, he, holdest⟩ := exists_victim hkeep hmax hsize
  refine ⟨victim, e, ?_, ?_, ?_⟩
  · exact (find?_entriesWith_of_ne hne).symm.trans he
  · intro key' e' he'
    have hne' := hne_of_find he'
    exact holdest key' e' hne' ((find?_entriesWith_of_ne hne').trans he')
  · intro key' hne'
    rw [find?_set_eq_ite hne', hvictims]
    simp only [List.mem_singleton]

theorem size_get_le (c : Cache ι ρ) (now : Nat) (key : CacheKey) : (c.get now key).2.size ≤ c.size := by
  unfold get
  split
  · next e hfind =>
    have hcontains := Table.contains_eq_true_iff.2 ⟨e, hfind⟩
    split
    · exact Nat.le.intro (Table.size_erase c.entries key)
    · refine Nat.le_of_eq ((Table.size_insert _ _ _).trans ?_)
      rw [if_pos hcontains]
      rfl
  · exact Nat.le_refl _

theorem size_remove_le (c : Cache ι ρ) (key : CacheKey) : (c.remove key).2.size ≤ c.size :=
  Nat.le.intro (Table.size_erase c.entries key)

theorem size_startSweep_le (c : Cache ι ρ) (now : Nat) : (c.startSweep now).1.size ≤ c.size :=
  Table.size_filter_le _ _

theorem size_storeRefreshed (c : Cache ι ρ) (now : Nat) (key : CacheKey) (item : ι) :
    (c.storeRefreshed now key item).2.size = c.size := by
  unfold storeRefreshed
  split
  · next e hfind =>
    refine (Table.size_insert _ _ _).trans ?_
    rw [if_pos (Table.contains_eq_true_iff.2 ⟨e, hfind⟩)]
    rfl
  · rfl

/-! ## Last uses -/

/-- A read uses the entry that it finds, and leaves all others as they are. -/
theorem lastUsed_of_get {item? : Option ι} (hget : c.get now key = (item?, c'))
    (h : c'.entries.find? key' = some e') :
    key = key' ∧ item?.isSome = true ∧ e'.lastUsed = now ∨
      ¬ (key = key' ∧ item?.isSome = true) ∧ c.entries.find? key' = some e' := by
  unfold get at hget
  split at hget
  · next e hfind =>
    split at hget
    · cases hget
      rw [Table.find?_erase] at h
      split at h
      · cases h
      · exact .inr ⟨fun hused => Bool.false_ne_true hused.2, h⟩
    · cases hget
      rw [Table.find?_insert] at h
      split at h
      · next hkey =>
        cases h
        exact .inl ⟨hkey, rfl, rfl⟩
      · next hkey => exact .inr ⟨fun hused => hkey hused.1, h⟩
  · cases hget
    exact .inr ⟨fun hused => Bool.false_ne_true hused.2, h⟩

end Cache

namespace SharedCache

variable {ρ : Type}

/-! ## Uses -/

/-- The key of the entry that an actor uses with its next step: it sets it, or its read finds it. -/
def used? (c : SharedCache ρ) (now : Nat) (actor : Actor) : Option CacheKey :=
  match c.jobs.find? actor with
  | some (.writing key _ _) => some key
  | some (.reading key) => if (c.cache.get now key).1.isSome then some key else none
  | _ => none

/-- The key and the instant, if an entry is used at this moment. -/
def use? : Moment (SharedCache ρ) (Task ρ) Result Empty → Option (CacheKey × Nat)
  | .began _ _ => none
  | .stepped c now actor _ _ => (c.used? now actor).map fun key => (key, now)

/-- The instant, if the entry of a key is used at this moment. -/
def useOf? (key : CacheKey) (moment : Moment (SharedCache ρ) (Task ρ) Result Empty) : Option Nat :=
  (use? moment).bind fun use => if use.1 = key then some use.2 else none

/-- The instant of the last use of a key. -/
def lastUse? (key : CacheKey) (h : Past ρ) : Option Nat := h.findSome? (useOf? key)

/-- The instants of all uses. -/
def useTimes (h : Past ρ) : List Nat := (h.filterMap use?).map Prod.snd

variable {c c' : SharedCache ρ} {h : Past ρ} {now : Nat} {actor : Actor} {input : Input}
  {p : Progress (SharedCache ρ) Result Empty} {key key' : CacheKey} {limits : CacheLimits}

/-- **A step moves the last use of an entry to the present, if it uses it, and leaves it otherwise.** -/
theorem Stepped.lastUsed (step : Stepped c now actor input p) {e' : CacheEntry ProxyConfig ρ}
    (he' : p.state.cache.entries.find? key = some e') :
    c.used? now actor = some key ∧ e'.lastUsed = now ∨
      c.used? now actor ≠ some key ∧
        ∃ e, c.cache.entries.find? key = some e ∧ e'.lastUsed = e.lastUsed := by
  cases step with
  | @read key' item? cache job hget =>
      have hused : c.used? now actor = if item?.isSome then some key' else none := by
        simp only [used?, job, hget]
      rcases Cache.lastUsed_of_get hget he' with ⟨rfl, hfound, hnow⟩ | ⟨hnot, hsame⟩
      · rw [if_pos hfound] at hused
        exact .inl ⟨hused, hnow⟩
      · refine .inr ⟨fun heq => hnot ?_, e', hsame, rfl⟩
        rw [hused] at heq
        split at heq
        · next hfound =>
          cases heq
          exact ⟨rfl, hfound⟩
        · cases heq
  | @wrote key' item refresher job =>
      have hused : c.used? now actor = some key' := by simp only [used?, job]
      by_cases hkey : key' = key
      · subst hkey
        have he' : (c.cache.set now key' item refresher).entries.find? key' = some e' := he'
        rw [Cache.find?_set_self] at he'
        cases he'
        exact .inl ⟨hused, rfl⟩
      · refine .inr ⟨fun heq => hkey ?_, e', Cache.find?_of_set_of_ne hkey he', rfl⟩
        rw [hused] at heq
        exact Option.some.inj heq
  | removed job => exact .inr ⟨by simp [used?, job], e', Cache.find?_of_remove he', rfl⟩
  | collected job => exact .inr ⟨by simp [used?, job], e', (Cache.find?_startSweep.1 he').1, rfl⟩
  | @stored clock key' item rest summary summary' job =>
      refine .inr ⟨by simp [used?, job], ?_⟩
      have hstored : (c.cache.storeRefreshed now key' item).2.entries.find? key = some e' := he'
      rw [Cache.find?_storeRefreshed] at hstored
      split at hstored
      · next hkey =>
        subst hkey
        obtain ⟨e, hfind, rfl⟩ := Option.map_eq_some_iff.1 hstored
        exact ⟨e, hfind, rfl⟩
      · exact ⟨e', hstored, rfl⟩
  | woke job | renewed job | failed job | closed job =>
      exact .inr ⟨by simp [used?, job], e', he', rfl⟩

theorem useOf?_stepped_of_used (hused : c.used? now actor = some key) :
    useOf? key (.stepped c now actor input p) = some now := by
  simp [useOf?, use?, hused]

theorem useOf?_stepped_of_not_used (hused : c.used? now actor ≠ some key) :
    useOf? key (.stepped c now actor input p) = none := by
  cases hkey : c.used? now actor with
  | none => simp [useOf?, use?, hkey]
  | some key' =>
      have hne : key' ≠ key := fun heq => hused (heq ▸ hkey)
      simp [useOf?, use?, hkey, hne]

/-- **What stands in an entry is the last use of its key.** -/
theorem lastUse?_of_run (run : Run system (.new limits) h c) {e : CacheEntry ProxyConfig ρ}
    (he : c.cache.entries.find? key = some e) : lastUse? key h = some e.lastUsed := by
  induction run generalizing e with
  | start => cases he
  | begins run hbegin ih =>
      obtain ⟨id, -, -, rfl⟩ := exists_resume_of_begin? hbegin
      exact ih he
  | @steps h c now actor input p run hstep ih =>
      unfold lastUse?
      rw [List.findSome?_cons]
      rcases (stepped_of_step hstep).lastUsed he with ⟨hused, hnow⟩ | ⟨hused, e₀, he₀, hsame⟩
      · rw [useOf?_stepped_of_used hused, hnow]
      · rw [useOf?_stepped_of_not_used hused, hsame]
        exact ih he₀

theorem exists_use_of_lastUse? {t : Nat} (hlast : lastUse? key h = some t) :
    (key, t) ∈ h.filterMap use? := by
  obtain ⟨moment, hmem, huse⟩ := List.exists_of_findSome?_eq_some hlast
  obtain ⟨⟨key', t'⟩, hsome, heq⟩ := Option.bind_eq_some_iff.1 huse
  split at heq
  · next hkey =>
    cases heq
    cases hkey
    exact List.mem_filterMap.2 ⟨moment, hmem, hsome⟩
  · cases heq

/-- Where no two uses come at the same instant, no two keys have been used last at the same instant. -/
theorem eq_of_lastUse? (distinct : (useTimes h).Nodup) {t : Nat} (hlast : lastUse? key h = some t)
    (hlast' : lastUse? key' h = some t) : key = key' := by
  have heq := List.inj_on_of_nodup_map distinct (exists_use_of_lastUse? hlast)
    (exists_use_of_lastUse? hlast') rfl
  exact (Prod.mk.inj heq).1

/-! ## Capacity -/

theorem Stepped.size_le (step : Stepped c now actor input p)
    (hsize : c.cache.size ≤ c.cache.limits.maxSize) (hmax : 0 < c.cache.limits.maxSize) :
    p.state.cache.size ≤ c.cache.limits.maxSize := by
  cases step with
  | @read key item? cache job hget =>
      have hle := Cache.size_get_le c.cache now key
      rw [hget] at hle
      exact Nat.le_trans hle hsize
  | wrote job =>
      refine Nat.le_trans (Nat.le_of_eq (Cache.size_set hmax)) ?_
      exact Nat.min_le_right _ _
  | removed job => exact Nat.le_trans (Cache.size_remove_le _ _) hsize
  | collected job => exact Nat.le_trans (Cache.size_startSweep_le _ _) hsize
  | stored job => exact Nat.le_trans (Nat.le_of_eq (Cache.size_storeRefreshed _ _ _ _)) hsize
  | woke | renewed | failed | closed => exact hsize

theorem size_le_of_run (run : Run system (.new limits) h c) :
    c.cache.size ≤ limits.withDefaults.maxSize := by
  induction run with
  | start => exact Nat.zero_le _
  | begins run hbegin ih =>
      obtain ⟨id, -, -, rfl⟩ := exists_resume_of_begin? hbegin
      exact ih
  | steps run hstep ih =>
      rw [← limits_of_run run] at ih ⊢
      refine (stepped_of_step hstep).size_le ih ?_
      rw [limits_of_run run]
      exact limits.withDefaults_pos.1

/-- A step that adds a key is a set of that key. -/
theorem Stepped.writing_of_added (step : Stepped c now actor input p)
    (hbefore : c.cache.entries.find? key = none) {e : CacheEntry ProxyConfig ρ}
    (hafter : p.state.cache.entries.find? key = some e) :
    ∃ item refresher, c.jobs.find? actor = some (.writing key item refresher) := by
  cases step.entryFrom hafter with
  | kept hfind alike =>
      rw [hbefore] at hfind
      cases hfind
  | set job => exact ⟨_, _, job⟩
  | renewed job hfind =>
      rw [hbefore] at hfind
      cases hfind

/-- How much a shared cache holds that stands at `c` with the past `h`, and what gives way to what is set. -/
structure KeepsCapacity (limits : CacheLimits) (h : Past ρ) (c : SharedCache ρ) : Prop where
  /-- There are never more entries than the limits allow. -/
  bounded : c.cache.size ≤ limits.maxSize
  /-- Nothing but a set of it adds a key. -/
  added : ∀ actor key now input p e, system.step c now actor input = some p →
    c.cache.entries.find? key = none → p.state.cache.entries.find? key = some e →
    ∃ item refresher, c.jobs.find? actor = some (.writing key item refresher)
  /-- A set comes to its end, and what is set is there. -/
  stored : ∀ actor key item refresher now, c.jobs.find? actor = some (.writing key item refresher) →
    ∃ c', system.step c now actor .turn = some (.done c' .stored) ∧
      c'.cache.entries.find? key = some ⟨item, refresher, now + limits.ttl, now⟩
  /-- Where the key was there, or there was room, all other entries stay as they are. -/
  spared : ∀ actor key item refresher now input p,
    c.jobs.find? actor = some (.writing key item refresher) →
    system.step c now actor input = some p →
    c.cache.entries.contains key = true ∨ c.cache.size ≠ limits.maxSize →
    ∀ key', key' ≠ key → p.state.cache.entries.find? key' = c.cache.entries.find? key'
  /-- Otherwise one entry gives way, and only one: the one whose last use, a set or a read that found it, is older than
  that of every other entry. -/
  evicted : ∀ actor key item refresher now input p,
    c.jobs.find? actor = some (.writing key item refresher) →
    system.step c now actor input = some p →
    c.cache.entries.contains key = false → c.cache.size = limits.maxSize →
    ∃ victim used, c.cache.entries.contains victim = true ∧ lastUse? victim h = some used ∧
      (∀ other, other ≠ victim → c.cache.entries.contains other = true →
        ∃ used', lastUse? other h = some used' ∧ used < used') ∧
      ∀ key', key' ≠ key → p.state.cache.entries.find? key' =
        if key' = victim then none else c.cache.entries.find? key'
  /-- A step that is neither a set nor a read that finds something leaves the last use of each entry that it leaves. So
  sweeps, reads that find nothing, removals and failed refreshes never change the order of last uses. -/
  unused : ∀ actor now input p, system.step c now actor input = some p →
    (∀ key item refresher, c.jobs.find? actor ≠ some (.writing key item refresher)) →
    (∀ item, p.result? ≠ some (.found (some item))) →
    ∀ key e', p.state.cache.entries.find? key = some e' →
      ∃ e, c.cache.entries.find? key = some e ∧ e'.lastUsed = e.lastUsed
  /-- There are never fewer candidates than entries that are too many, and these are taken one by one. -/
  exact : ∀ key item refresher now,
    let entries := c.cache.entriesWith now key item refresher
    entries.size - limits.maxSize ≤ (Cache.evictionOrder entries key).length ∧
      (limits.maxSize ≤ entries.size →
        ((Cache.victims limits.maxSize entries key).length : Int) = entries.size - limits.maxSize)

/-- **A cache keeps to its limits, and what gives way is what was used least recently**, in every reachable state. -/
theorem keepsCapacity_of_run (run : Run system (.new limits) h c) (distinct : (useTimes h).Nodup) :
    KeepsCapacity limits.withDefaults h c := by
  have hlimits := limits_of_run run
  have hmax : 0 < c.cache.limits.maxSize := by
    rw [hlimits]
    exact limits.withDefaults_pos.1
  have hbounded := size_le_of_run run
  -- what a set makes of the cache
  have hwrites : ∀ {actor key item refresher now input p},
      c.jobs.find? actor = some (.writing key item refresher) →
      system.step c now actor input = some p →
      p.state.cache = c.cache.set now key item refresher := by
    intro actor key item refresher now input p job hstep
    have step : Stepped c now actor input p := stepped_of_step hstep
    cases step with
    | wrote job' =>
        rw [job] at job'
        cases job'
        rfl
    | _ => simp_all only [Option.some.injEq, reduceCtorEq]
  constructor
  case bounded => exact hbounded
  case added =>
    intro actor key now input p e hstep hbefore hafter
    exact (stepped_of_step hstep).writing_of_added hbefore hafter
  case stored =>
    intro actor key item refresher now job
    refine ⟨c.leave actor (c.cache.set now key item refresher), ?_, ?_⟩
    · simp only [system, step, job]
    · rw [← hlimits]
      exact Cache.find?_set_self _ _ _ _ _
  case spared =>
    intro actor key item refresher now input p job hstep hroom key' hne
    rw [hwrites job hstep]
    refine Cache.find?_set_of_room ?_ hne
    refine Nat.le_trans (Nat.le_of_eq (Table.size_insert _ _ _)) ?_
    rw [hlimits]
    rcases hroom with hthere | hroom
    · rw [if_pos hthere]
      exact hbounded
    · have hlt : c.cache.size < limits.withDefaults.maxSize := by omega
      split
      · exact hbounded
      · exact hlt
  case evicted =>
    intro actor key item refresher now input p job hstep hnew hfull
    rw [← hlimits] at hfull
    obtain ⟨victim, e, hvictim, holdest, hfind⟩ := Cache.find?_set_of_full hmax hnew hfull
    refine ⟨victim, e.lastUsed, Table.contains_eq_true_iff.2 ⟨e, hvictim⟩,
      lastUse?_of_run run hvictim, ?_, ?_⟩
    · intro other hne hother
      obtain ⟨e', he'⟩ := Table.contains_eq_true_iff.1 hother
      refine ⟨e'.lastUsed, lastUse?_of_run run he', ?_⟩
      -- two keys that were used last at the same instant would be one
      refine Nat.lt_of_le_of_ne (holdest other e' he') fun heq => hne ?_
      refine eq_of_lastUse? distinct (lastUse?_of_run run he') ?_
      rw [← heq]
      exact lastUse?_of_run run hvictim
    · rw [hwrites job hstep]
      exact hfind
  case unused =>
    intro actor now input p hstep hset hmiss key e' he'
    have step : Stepped c now actor input p := stepped_of_step hstep
    rcases step.lastUsed he' with ⟨hused, -⟩ | ⟨-, hkept⟩
    · -- what is used is set, or found by a read
      exfalso
      cases step with
      | @read key' item? cache job hget =>
          simp only [used?, job, hget] at hused
          split at hused
          · next hfound =>
            obtain ⟨item, rfl⟩ := Option.isSome_iff_exists.1 hfound
            exact hmiss item rfl
          · cases hused
      | wrote job => exact hset _ _ _ job
      | removed job | woke job | collected job | renewed job | failed job | stored job | closed job =>
          simp only [used?, job, reduceCtorEq] at hused
    · exact hkept
  case exact =>
    intro key item refresher now entries
    have hkeep : entries.contains key = true := Table.contains_insert_self _ _ _
    rw [hlimits] at hmax
    have hlength := Cache.length_evictionOrder hkeep
    refine ⟨by omega, fun hmany => ?_⟩
    rw [Cache.length_victims hkeep hmax]
    omega

/-! ## A run -/

/-- Two entries fill a cache. The older one is read, a sweep has nothing to do, and a third one is about to be set. -/
def crowded : List (Move (Task String)) :=
  prompt 0 0 (.set (service "42") (version 1) "alpha") ++
    prompt 10 1 (.set (service "43") (version 2) "beta") ++
    prompt 20 2 (.get (service "42")) ++ prompt 25 3 .sweep ++ [.step 25 (.call 3) .turn,
      .step 25 (.call 3) .turn, .begin (.call 4) (.set (service "44") (version 3) "gamma")]

theorem keepsCapacity_crowded :
    let run := system.play (.new smallLimits) crowded
    let after := (system.step run.2 30 (.call 4) .turn).map (·.state.cache.entries.keys)
    run.2.cache.entries.keys = [service "42", service "43"] ∧
      after = some [service "42", service "44"] ∧ (useTimes run.1).Nodup ∧
      KeepsCapacity smallLimits.withDefaults run.1 run.2 := by
  have distinct : (useTimes (system.play (.new smallLimits) crowded).1).Nodup := by decide +kernel
  refine ⟨by decide +kernel, by decide +kernel, distinct, ?_⟩
  exact keepsCapacity_of_run (system.run_play _ _) distinct

end SharedCache

end GatewayAuth
