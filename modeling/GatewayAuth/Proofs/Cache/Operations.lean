import GatewayAuth.Proofs.Cache.Entries

/-!
# `GatewayAuth.Proofs.Cache.Operations` — what an operation on a cache does to single entries

One lemma for each operation says which entry there is under a key after it, in terms of the entry before. Reads change
last uses only (`CacheEntry.Alike`), a write makes its own entry and drops others, and a sweep drops entries, and renews
those that are there.

## Contents
- `CacheEntry.Alike`: entries that differ in their last use at most.
- `isExpired_eq_false_iff`; `get_eq_some`, `get_eq_none`, `alike_of_get`: reads.
- `find?_set_self`, `find?_of_set_of_ne`, `find?_of_remove`: writes and removals.
- `find?_startSweep`, `exists_of_mem_due`, `find?_storeRefreshed`: sweeps.
-/

namespace GatewayAuth

/-- Two entries that differ in their last use at most. -/
structure CacheEntry.Alike {ι ρ : Type} (e e' : CacheEntry ι ρ) : Prop where
  item : e'.item = e.item
  refresher : e'.refresher = e.refresher
  deadline : e'.deadline = e.deadline

theorem CacheEntry.Alike.refl {ι ρ : Type} (e : CacheEntry ι ρ) : e.Alike e := ⟨rfl, rfl, rfl⟩

theorem CacheEntry.Alike.trans {ι ρ : Type} {e₁ e₂ e₃ : CacheEntry ι ρ} (h₁ : e₁.Alike e₂)
    (h₂ : e₂.Alike e₃) : e₁.Alike e₃ :=
  ⟨h₂.item.trans h₁.item, h₂.refresher.trans h₁.refresher, h₂.deadline.trans h₁.deadline⟩

namespace Cache

variable {ι ρ : Type} {c c' : Cache ι ρ} {now : Nat} {key key' : CacheKey} {item : ι}
  {refresher : ρ} {e e' : CacheEntry ι ρ}

theorem isExpired_eq_false_iff : e.isExpired now = false ↔ now < e.deadline := by
  unfold CacheEntry.isExpired
  rw [decide_eq_false_iff_not, Nat.not_le]

/-- A read finds an item before its deadline. -/
theorem get_eq_some (hget : c.get now key = (some item, c')) :
    ∃ e, c.entries.find? key = some e ∧ e.item = item ∧ now < e.deadline := by
  unfold get at hget
  split at hget
  · next e hfind =>
    split at hget
    · cases hget
    · next hlive =>
      cases hget
      exact ⟨e, hfind, rfl, isExpired_eq_false_iff.1 ((Bool.not_eq_true _).mp hlive)⟩
  · cases hget

/-- A read that finds nothing leaves nothing. -/
theorem get_eq_none (hget : c.get now key = (none, c')) : c'.entries.find? key = none := by
  unfold get at hget
  split at hget
  · split at hget
    · cases hget
      exact Table.find?_erase_self _ _
    · cases hget
  · next hfind =>
    cases hget
    exact hfind

/-- What there is after a read was there before. -/
theorem alike_of_get {item? : Option ι} (hget : c.get now key = (item?, c'))
    (h : c'.entries.find? key' = some e') : ∃ e, c.entries.find? key' = some e ∧ e.Alike e' := by
  unfold get at hget
  split at hget
  · next e hfind =>
    split at hget
    · cases hget
      rw [Table.find?_erase] at h
      split at h
      · cases h
      · exact ⟨e', h, .refl _⟩
    · cases hget
      rw [Table.find?_insert] at h
      split at h
      · next hkey =>
        subst hkey
        cases h
        exact ⟨e, hfind, rfl, rfl, rfl⟩
      · exact ⟨e', h, .refl _⟩
  · cases hget
    exact ⟨e', h, .refl _⟩

/-- What gives way to a key is another one. -/
theorem not_mem_victims (maxSize : Nat) (entries : Table CacheKey (CacheEntry ι ρ))
    (key : CacheKey) : key ∉ victims maxSize entries key := by
  intro hmem
  obtain ⟨e, he, hkey⟩ := List.mem_map.1 (List.mem_of_mem_take hmem)
  have hne := (List.mem_filter.1 (Sorted.mem_sort.1 he)).2
  exact of_decide_eq_true hne hkey

/-- What is set is there. -/
theorem find?_set_self (c : Cache ι ρ) (now : Nat) (key : CacheKey) (item : ι) (refresher : ρ) :
    (c.set now key item refresher).entries.find? key =
      some ⟨item, refresher, now + c.limits.ttl, now⟩ := by
  unfold set
  dsimp only
  rw [Table.find?_foldl_erase (not_mem_victims _ _ _), Table.find?_insert_self]

theorem find?_of_set_of_ne (hne : key ≠ key')
    (h : (c.set now key item refresher).entries.find? key' = some e') :
    c.entries.find? key' = some e' := by
  have hbefore := Table.find?_of_foldl_erase h
  rwa [Table.find?_insert, if_neg hne] at hbefore

theorem find?_of_remove (h : (c.remove key).2.entries.find? key' = some e') :
    c.entries.find? key' = some e' := by
  unfold remove at h
  rw [Table.find?_erase] at h
  split at h
  · cases h
  · exact h

/-- What a sweep leaves is what is not expired. -/
theorem find?_startSweep :
    (c.startSweep now).1.entries.find? key = some e ↔
      c.entries.find? key = some e ∧ now < e.deadline := by
  unfold startSweep
  dsimp only
  rw [Table.find?_filter_eq_some_iff]
  unfold CacheEntry.isExpired
  simp

/-- What a sweep collects, it collects from an entry that is stored and close to its deadline. -/
theorem exists_of_mem_due (hmem : (key, refresher) ∈ (c.startSweep now).2.1) :
    ∃ e, c.entries.find? key = some e ∧ e.refresher = refresher ∧ now < e.deadline ∧
      e.deadline ≤ now + c.limits.refreshInterval := by
  obtain ⟨⟨key', e⟩, hentry, heq⟩ := List.mem_map.1 hmem
  cases heq
  obtain ⟨hlive, hdue⟩ := List.mem_filter.1 hentry
  obtain ⟨hfind, hdeadline⟩ := find?_startSweep.1 (Table.find?_eq_some_iff.2 hlive)
  exact ⟨e, hfind, rfl, hdeadline, of_decide_eq_true hdue⟩

/-- Renewed items go to entries that are there, and to nothing else. -/
theorem find?_storeRefreshed (c : Cache ι ρ) (now : Nat) (key : CacheKey) (item : ι)
    (key' : CacheKey) :
    (c.storeRefreshed now key item).2.entries.find? key' =
      if key = key' then
        (c.entries.find? key).map fun e => { e with item, deadline := now + c.limits.ttl }
      else c.entries.find? key' := by
  unfold storeRefreshed
  split
  · next e hfind =>
    rw [Table.find?_insert, hfind]
    rfl
  · next hfind =>
    rw [hfind]
    split
    · next hkey => rw [← hkey, hfind]; rfl
    · rfl

theorem storeRefreshed_eq_self (hnone : c.entries.find? key = none) (now : Nat) (item : ι) :
    (c.storeRefreshed now key item).2 = c := by
  unfold storeRefreshed
  rw [hnone]

theorem limits_storeRefreshed (c : Cache ι ρ) (now : Nat) (key : CacheKey) (item : ι) :
    (c.storeRefreshed now key item).2.limits = c.limits := by
  unfold storeRefreshed
  split <;> rfl

theorem limits_get (c : Cache ι ρ) (now : Nat) (key : CacheKey) :
    (c.get now key).2.limits = c.limits := by
  unfold get
  split
  · split <;> rfl
  · rfl

end Cache

end GatewayAuth
