/-!
# `GatewayAuth.Table` — finite maps that remember the order of first insertion

## Contents
- `Table κ α`: an association list without repeated keys; the invariant is part of the type.
- `find?`, `insert`, `erase`, `alter`, `filter`, and views `keys`, `values`, `toList`.
- One look-up lemma per operation (`find?_insert`, `find?_erase`, …), so that no proof has to unfold a table.
-/

namespace GatewayAuth

universe u v

/-! ## Association lists -/

namespace Assoc

variable {κ : Type u} {α : Type v} [DecidableEq κ]

/-- The value of the first pair with key `k`. -/
def find? (k : κ) : List (κ × α) → Option α
  | [] => none
  | (k', a) :: rest => if k' = k then some a else find? k rest

/-- Replace the value at `k` in place, or append the pair. -/
def insert (k : κ) (a : α) : List (κ × α) → List (κ × α)
  | [] => [(k, a)]
  | (k', a') :: rest => if k' = k then (k, a) :: rest else (k', a') :: insert k a rest

/-- Remove the pair with key `k`. -/
def erase (k : κ) : List (κ × α) → List (κ × α)
  | [] => []
  | (k', a) :: rest => if k' = k then rest else (k', a) :: erase k rest

theorem find?_eq_none_iff {k : κ} {l : List (κ × α)} : find? k l = none ↔ k ∉ l.map Prod.fst := by
  induction l with
  | nil => simp [find?]
  | cons p rest ih =>
    obtain ⟨k', a⟩ := p
    by_cases h : k' = k
    · simp [find?, h]
    · have h' : ¬ k = k' := fun e => h e.symm
      simp [find?, h, h', ih]

theorem mem_of_find? {k : κ} {a : α} {l : List (κ × α)} (h : find? k l = some a) : (k, a) ∈ l := by
  induction l with
  | nil => simp [find?] at h
  | cons p rest ih =>
    obtain ⟨k', a'⟩ := p
    by_cases hk : k' = k
    · simp [find?, hk] at h
      simp [hk, h]
    · simp [find?, hk] at h
      exact List.mem_cons_of_mem _ (ih h)

theorem find?_of_mem {k : κ} {a : α} {l : List (κ × α)} (hl : (l.map Prod.fst).Nodup)
    (h : (k, a) ∈ l) : find? k l = some a := by
  induction l with
  | nil => simp at h
  | cons p rest ih =>
    obtain ⟨k', a'⟩ := p
    simp only [List.map_cons, List.nodup_cons] at hl
    rcases List.mem_cons.1 h with h | h
    · cases h
      simp [find?]
    · have hne : k' ≠ k := fun e => hl.1 (e ▸ List.mem_map_of_mem (f := Prod.fst) h)
      simp [find?, hne, ih hl.2 h]

theorem map_fst_insert (k : κ) (a : α) (l : List (κ × α)) :
    (insert k a l).map Prod.fst =
      if k ∈ l.map Prod.fst then l.map Prod.fst else l.map Prod.fst ++ [k] := by
  induction l with
  | nil => simp [insert]
  | cons p rest ih =>
    obtain ⟨k', a'⟩ := p
    by_cases hk : k' = k
    · simp [insert, hk]
    · have hk' : ¬ k = k' := fun e => hk e.symm
      by_cases hm : k ∈ rest.map Prod.fst
      · simp [insert, hk, ih, hm]
      · simp [insert, hk, hk', ih, hm]

theorem nodup_insert {k : κ} {a : α} {l : List (κ × α)} (h : (l.map Prod.fst).Nodup) :
    ((insert k a l).map Prod.fst).Nodup := by
  rw [map_fst_insert]
  split
  · exact h
  · next hk =>
    rw [List.nodup_append]
    refine ⟨h, by simp, ?_⟩
    intro x hx y hy
    simp only [List.mem_singleton] at hy
    subst hy
    exact fun e => hk (e ▸ hx)

theorem find?_insert (k k' : κ) (a : α) (l : List (κ × α)) :
    find? k' (insert k a l) = if k = k' then some a else find? k' l := by
  induction l with
  | nil => simp [insert, find?]
  | cons p rest ih =>
    obtain ⟨k₀, a₀⟩ := p
    by_cases h0 : k₀ = k
    · subst h0
      by_cases h : k₀ = k' <;> simp [insert, find?, h]
    · by_cases h : k₀ = k'
      · subst h
        have h' : ¬ k = k₀ := fun e => h0 e.symm
        simp [insert, find?, h0, h']
      · simp [insert, find?, h0, h, ih]

theorem erase_sublist (k : κ) (l : List (κ × α)) : (erase k l).Sublist l := by
  induction l with
  | nil => simp [erase]
  | cons p rest ih =>
    obtain ⟨k', a⟩ := p
    by_cases h : k' = k
    · simp [erase, h]
    · simp [erase, h, ih]

theorem nodup_erase {k : κ} {l : List (κ × α)} (h : (l.map Prod.fst).Nodup) :
    ((erase k l).map Prod.fst).Nodup :=
  List.Nodup.sublist ((erase_sublist k l).map _) h

theorem find?_erase {k k' : κ} {l : List (κ × α)} (hl : (l.map Prod.fst).Nodup) :
    find? k' (erase k l) = if k = k' then none else find? k' l := by
  induction l with
  | nil => simp [erase, find?]
  | cons p rest ih =>
    obtain ⟨k₀, a₀⟩ := p
    simp only [List.map_cons, List.nodup_cons] at hl
    by_cases h0 : k₀ = k
    · subst h0
      by_cases h : k₀ = k'
      · subst h
        simp [erase, find?_eq_none_iff.2 hl.1]
      · simp [erase, find?, h]
    · by_cases h : k₀ = k'
      · subst h
        have h' : ¬ k = k₀ := fun e => h0 e.symm
        simp [erase, find?, h0, h']
      · simp [erase, find?, h0, h, ih hl.2]

end Assoc

/-! ## Tables -/

/-- A finite map from `κ` to `α`, listed in the order in which its keys came in. -/
structure Table (κ : Type u) (α : Type v) where
  /-- The pairs, oldest key first. -/
  toList : List (κ × α)
  /-- No key occurs twice. -/
  nodup : (toList.map Prod.fst).Nodup

namespace Table

variable {κ : Type u} {α : Type v}

@[ext] theorem ext {s t : Table κ α} (h : s.toList = t.toList) : s = t := by
  cases s
  cases t
  cases h
  rfl

/-- The table without entries. -/
def empty : Table κ α := ⟨[], by simp⟩

instance : Inhabited (Table κ α) := ⟨empty⟩

instance [DecidableEq κ] [DecidableEq α] : DecidableEq (Table κ α) := fun s t =>
  decidable_of_iff (s.toList = t.toList) ⟨ext, fun h => h ▸ rfl⟩

instance [Repr κ] [Repr α] : Repr (Table κ α) := ⟨fun t n => reprPrec t.toList n⟩

/-- The keys, in order of first insertion. -/
def keys (t : Table κ α) : List κ := t.toList.map Prod.fst

/-- The values, in the order of their keys. -/
def values (t : Table κ α) : List α := t.toList.map Prod.snd

/-- The number of entries. -/
def size (t : Table κ α) : Nat := t.toList.length

/-- Whether there is no entry. -/
def isEmpty (t : Table κ α) : Bool := t.toList.isEmpty

/-- Keep the entries that satisfy `p`. -/
def filter (p : κ → α → Bool) (t : Table κ α) : Table κ α :=
  ⟨t.toList.filter fun e => p e.1 e.2,
    List.Nodup.sublist ((List.filter_sublist (l := t.toList)).map _) t.nodup⟩

variable [DecidableEq κ]

/-- The value at `k`. -/
def find? (t : Table κ α) (k : κ) : Option α := Assoc.find? k t.toList

/-- Whether `k` has a value. -/
def contains (t : Table κ α) (k : κ) : Bool := (t.find? k).isSome

/-- Set the value at `k`; a new key goes to the end. -/
def insert (t : Table κ α) (k : κ) (a : α) : Table κ α :=
  ⟨Assoc.insert k a t.toList, Assoc.nodup_insert t.nodup⟩

/-- Remove the value at `k`. -/
def erase (t : Table κ α) (k : κ) : Table κ α :=
  ⟨Assoc.erase k t.toList, Assoc.nodup_erase t.nodup⟩

/-- Replace the value at `k` by what `f` makes of the present one. -/
def alter (t : Table κ α) (k : κ) (f : Option α → α) : Table κ α := t.insert k (f (t.find? k))

/-- The table of a list of pairs; of two pairs with one key the later wins. -/
def ofList (l : List (κ × α)) : Table κ α := l.foldl (fun t e => t.insert e.1 e.2) empty

/-! ## Look-up lemmas -/

@[simp] theorem find?_empty (k : κ) : (empty : Table κ α).find? k = none := rfl

theorem find?_insert (t : Table κ α) (k k' : κ) (a : α) :
    (t.insert k a).find? k' = if k = k' then some a else t.find? k' :=
  Assoc.find?_insert k k' a t.toList

@[simp] theorem find?_insert_self (t : Table κ α) (k : κ) (a : α) :
    (t.insert k a).find? k = some a := by
  simp [find?_insert]

theorem find?_erase (t : Table κ α) (k k' : κ) :
    (t.erase k).find? k' = if k = k' then none else t.find? k' :=
  Assoc.find?_erase t.nodup

@[simp] theorem find?_erase_self (t : Table κ α) (k : κ) : (t.erase k).find? k = none := by
  simp [find?_erase]

theorem find?_alter (t : Table κ α) (k k' : κ) (f : Option α → α) :
    (t.alter k f).find? k' = if k = k' then some (f (t.find? k)) else t.find? k' :=
  find?_insert t k k' _

theorem find?_eq_some_iff {t : Table κ α} {k : κ} {a : α} :
    t.find? k = some a ↔ (k, a) ∈ t.toList :=
  ⟨Assoc.mem_of_find?, Assoc.find?_of_mem t.nodup⟩

theorem find?_eq_none_iff {t : Table κ α} {k : κ} : t.find? k = none ↔ k ∉ t.keys :=
  Assoc.find?_eq_none_iff

theorem keys_insert (t : Table κ α) (k : κ) (a : α) :
    (t.insert k a).keys = if k ∈ t.keys then t.keys else t.keys ++ [k] :=
  Assoc.map_fst_insert k a t.toList

end Table

end GatewayAuth
