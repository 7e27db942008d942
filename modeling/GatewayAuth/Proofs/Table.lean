import GatewayAuth.Table

/-!
# `GatewayAuth.Proofs.Table` — sums over tables and lists that change in one place

Quantities that are spread over many jobs or slots are sums over a table or a list. A step changes one entry,
so each lemma compares the sums before and after a change of one entry and names the entry that gave way.

## Contents
- `sum_map_set`, `sum_map_eq_zero`, `sum_map_of_perm`, `perm_of_sum_map_eq`: sums over lists.
- `Table.sumOf`: the sum over a table; `sumOf_insert`, `sumOf_erase`, `sumOf_congr`, `sumOf_eq_zero`, `le_sumOf`.
- `Table.toList_foldl_of_fresh`, `toList_ofList`: entries that come in one after the other.
- `Table.size_insert`, `size_erase`, `size_filter_le`: the number of entries.
- `Table.find?_foldl_erase_eq_ite`: keys that are erased one after the other.
- `Table.perm_toList_iff`: tables that differ in the order of their entries only.
-/

namespace GatewayAuth

-- The zero of a sum is that of the core library, also where another one is in scope.
attribute [local instance (high)] Zero.ofOfNat0

universe u v

/-! ## Lists -/

/-- Replacing an entry of a list replaces its share of a sum. -/
theorem sum_map_set {α : Type v} (f : α → Int) {l : List α} {i : Nat} {a b : α}
    (h : l[i]? = some a) : ((l.set i b).map f).sum + f a = (l.map f).sum + f b := by
  induction l generalizing i with
  | nil => simp at h
  | cons c rest ih =>
      cases i with
      | zero =>
          simp only [List.getElem?_cons_zero, Option.some.injEq] at h
          subst h
          simp only [List.set_cons_zero, List.map_cons, List.sum_cons]
          omega
      | succ i =>
          simp only [List.getElem?_cons_succ] at h
          have := ih h
          simp only [List.set_cons_succ, List.map_cons, List.sum_cons]
          omega

theorem sum_map_eq_zero {α : Type v} {f : α → Int} {l : List α} (h : ∀ a ∈ l, f a = 0) :
    (l.map f).sum = 0 := by
  induction l with
  | nil => rfl
  | cons a rest ih =>
      rw [List.map_cons, List.sum_cons, h a List.mem_cons_self,
        ih fun b hb => h b (List.mem_cons_of_mem _ hb)]
      rfl

theorem sum_map_nonneg {α : Type v} {f : α → Int} {l : List α} (h : ∀ a ∈ l, 0 ≤ f a) :
    0 ≤ (l.map f).sum := by
  induction l with
  | nil => exact Int.le_refl 0
  | cons a rest ih =>
      have hfirst := h a List.mem_cons_self
      have hrest := ih fun b hb => h b (List.mem_cons_of_mem _ hb)
      rw [List.map_cons, List.sum_cons]
      omega

/-- Counting each element once gives the length. -/
theorem sum_map_one {α : Type v} (l : List α) : (l.map fun _ => (1 : Int)).sum = l.length := by
  induction l with
  | nil => rfl
  | cons a rest ih =>
      rw [List.map_cons, List.sum_cons, ih, List.length_cons]
      omega

/-- Everything adds up to the same over two lists with the same elements. -/
theorem sum_map_of_perm {α : Type v} {l l' : List α} (h : l.Perm l') (f : α → Int) :
    (l.map f).sum = (l'.map f).sum := by
  induction h with
  | nil => rfl
  | cons a _ ih => rw [List.map_cons, List.map_cons, List.sum_cons, List.sum_cons, ih]
  | swap a b l =>
      simp only [List.map_cons, List.sum_cons]
      omega
  | trans _ _ ih ih' => exact ih.trans ih'

theorem sum_map_indicator {α : Type v} [DecidableEq α] (a : α) (l : List α) :
    (l.map fun b => if b = a then (1 : Int) else 0).sum = l.count a := by
  induction l with
  | nil => rfl
  | cons b rest ih =>
      rw [List.map_cons, List.sum_cons, ih, List.count_cons]
      by_cases hab : b = a
      · simp [hab, Int.add_comm]
      · simp [hab]

/-- Two lists have the same elements if everything adds up to the same over them. -/
theorem perm_of_sum_map_eq {α : Type v} [DecidableEq α] {l l' : List α}
    (h : ∀ f : α → Int, (l.map f).sum = (l'.map f).sum) : l.Perm l' := by
  refine List.perm_iff_count.2 fun a => ?_
  have heq := h fun b => if b = a then (1 : Int) else 0
  rw [sum_map_indicator, sum_map_indicator] at heq
  exact Int.ofNat.inj heq

/-! ## Association lists -/

namespace Assoc

variable {κ : Type u} {α : Type v} [DecidableEq κ]

/-- The sum of `f` over the pairs of a list. -/
def sumOf (f : κ → α → Int) (l : List (κ × α)) : Int := (l.map fun e => f e.1 e.2).sum

theorem sumOf_insert (f : κ → α → Int) (k : κ) (a : α) (l : List (κ × α)) :
    sumOf f (insert k a l) + (find? k l).elim 0 (f k) = sumOf f l + f k a := by
  induction l with
  | nil => simp [sumOf, insert, find?]
  | cons e rest ih =>
      obtain ⟨k', a'⟩ := e
      by_cases hk : k' = k
      · subst hk
        simp only [sumOf, insert, find?, if_pos, List.map_cons, List.sum_cons, Option.elim_some]
        omega
      · simp only [sumOf, insert, find?, if_neg hk, List.map_cons, List.sum_cons] at ih ⊢
        omega

theorem sumOf_erase (f : κ → α → Int) (k : κ) (l : List (κ × α)) :
    sumOf f (erase k l) + (find? k l).elim 0 (f k) = sumOf f l := by
  induction l with
  | nil => simp [sumOf, erase, find?]
  | cons e rest ih =>
      obtain ⟨k', a'⟩ := e
      by_cases hk : k' = k
      · subst hk
        simp only [sumOf, erase, find?, if_pos, List.map_cons, List.sum_cons, Option.elim_some]
        omega
      · simp only [sumOf, erase, find?, if_neg hk, List.map_cons, List.sum_cons] at ih ⊢
        omega

/-- Where no key occurs twice, a sum that counts one key only is the value at that key. -/
theorem sumOf_single {f : κ → α → Int} {k : κ} {l : List (κ × α)}
    (hl : (l.map Prod.fst).Nodup) (hf : ∀ k' a, k' ≠ k → f k' a = 0) :
    sumOf f l = (find? k l).elim 0 (f k) := by
  induction l with
  | nil => simp [sumOf, find?]
  | cons e rest ih =>
      obtain ⟨k', a⟩ := e
      simp only [List.map_cons, List.nodup_cons] at hl
      have ih := ih hl.2
      simp only [sumOf, List.map_cons, List.sum_cons, find?] at ih ⊢
      rw [ih]
      by_cases hk : k' = k
      · subst hk
        have hnone : find? k' rest = none := find?_eq_none_iff.2 hl.1
        simp [hnone]
      · rw [hf k' a hk, if_neg hk, Int.zero_add]

/-- What is found in two lists together is found in the first one before the second one. -/
theorem find?_append (k : κ) (l l' : List (κ × α)) : find? k (l ++ l') = (find? k l).or (find? k l') := by
  induction l with
  | nil => rfl
  | cons e rest ih =>
      show (if e.1 = k then some e.2 else find? k (rest ++ l')) =
        (if e.1 = k then some e.2 else find? k rest).or (find? k l')
      by_cases hk : e.1 = k
      · rw [if_pos hk, if_pos hk]
        rfl
      · rw [if_neg hk, if_neg hk, ih]

/-- A pair with a new key goes to the end. -/
theorem insert_of_not_mem {k : κ} {l : List (κ × α)} (hk : k ∉ l.map Prod.fst) (a : α) :
    insert k a l = l ++ [(k, a)] := by
  induction l with
  | nil => rfl
  | cons e rest ih =>
      obtain ⟨k', a'⟩ := e
      rw [List.map_cons, List.mem_cons, not_or] at hk
      have hne : ¬k' = k := fun heq => hk.1 heq.symm
      rw [insert, if_neg hne, ih hk.2]
      rfl

theorem length_erase (k : κ) (l : List (κ × α)) :
    (erase k l).length + (if (find? k l).isSome then 1 else 0) = l.length := by
  induction l with
  | nil => rfl
  | cons e rest ih =>
      obtain ⟨k', a⟩ := e
      by_cases hk : k' = k
      · simp [erase, find?, hk]
      · simp only [erase, find?, hk, if_false, List.length_cons]
        omega

/-- Where no key occurs twice, all other pairs stay. -/
theorem erase_eq_filter {k : κ} {l : List (κ × α)} (hl : (l.map Prod.fst).Nodup) :
    erase k l = l.filter fun e => e.1 ≠ k := by
  induction l with
  | nil => rfl
  | cons e rest ih =>
      obtain ⟨k', a⟩ := e
      simp only [List.map_cons, List.nodup_cons] at hl
      by_cases hk : k' = k
      · subst hk
        have hrest : rest.filter (fun e => e.1 ≠ k') = rest := by
          refine List.filter_eq_self.2 fun e he => decide_eq_true fun heq => hl.1 ?_
          rw [← heq]
          exact List.mem_map_of_mem he
        rw [erase, if_pos rfl, List.filter_cons_of_neg (by simp), hrest]
      · simp [erase, hk, ih hl.2]

end Assoc

/-! ## Tables -/

namespace Table

variable {κ : Type u} {α : Type v}

/-- The sum of `f` over the entries of a table. -/
def sumOf (f : κ → α → Int) (t : Table κ α) : Int := Assoc.sumOf f t.toList

variable [DecidableEq κ]

theorem sumOf_insert (f : κ → α → Int) (t : Table κ α) (k : κ) (a : α) :
    (t.insert k a).sumOf f + (t.find? k).elim 0 (f k) = t.sumOf f + f k a :=
  Assoc.sumOf_insert f k a t.toList

theorem sumOf_erase (f : κ → α → Int) (t : Table κ α) (k : κ) :
    (t.erase k).sumOf f + (t.find? k).elim 0 (f k) = t.sumOf f :=
  Assoc.sumOf_erase f k t.toList

theorem sumOf_single {f : κ → α → Int} {k : κ} (t : Table κ α)
    (hf : ∀ k' a, k' ≠ k → f k' a = 0) : t.sumOf f = (t.find? k).elim 0 (f k) :=
  Assoc.sumOf_single t.nodup hf

theorem sumOf_congr {f g : κ → α → Int} {t : Table κ α}
    (h : ∀ k a, t.find? k = some a → f k a = g k a) : t.sumOf f = t.sumOf g := by
  unfold sumOf Assoc.sumOf
  congr 1
  apply List.map_congr_left
  intro e he
  exact h e.1 e.2 (find?_eq_some_iff.2 he)

theorem sumOf_eq_zero {f : κ → α → Int} {t : Table κ α}
    (h : ∀ k a, t.find? k = some a → f k a = 0) : t.sumOf f = 0 :=
  sum_map_eq_zero fun e he => h e.1 e.2 (find?_eq_some_iff.2 he)

/-- No entry of a table has a larger share than the whole, if none is negative. -/
theorem le_sumOf {f : κ → α → Int} {t : Table κ α} {k : κ} {a : α} (hf : ∀ k a, 0 ≤ f k a)
    (h : t.find? k = some a) : f k a ≤ t.sumOf f := by
  have herase := sumOf_erase f t k
  have hrest : 0 ≤ (t.erase k).sumOf f := sum_map_nonneg fun e _ => hf e.1 e.2
  rw [h, Option.elim_some] at herase
  omega

/-- What is found among the entries that satisfy `p`. -/
theorem find?_filter_eq_some_iff {t : Table κ α} {p : κ → α → Bool} {k : κ} {a : α} :
    (t.filter p).find? k = some a ↔ t.find? k = some a ∧ p k a = true := by
  rw [find?_eq_some_iff, find?_eq_some_iff]
  exact List.mem_filter

theorem contains_eq_true_iff {t : Table κ α} {k : κ} :
    t.contains k = true ↔ ∃ a, t.find? k = some a := by
  unfold contains
  rw [Option.isSome_iff_exists]

theorem contains_eq_false_iff {t : Table κ α} {k : κ} :
    t.contains k = false ↔ t.find? k = none := by
  unfold contains
  cases t.find? k <;> simp

theorem contains_insert_self (t : Table κ α) (k : κ) (a : α) : (t.insert k a).contains k = true :=
  contains_eq_true_iff.2 ⟨a, find?_insert_self t k a⟩

/-! ## Entries one after the other -/

omit [DecidableEq κ] in
/-- Where each new key goes to the end, pairs with different new keys come after the others. -/
theorem toList_foldl_of_fresh {step : Table κ α → κ × α → Table κ α}
    (hstep : ∀ {t : Table κ α} {e : κ × α}, e.1 ∉ t.keys → (step t e).toList = t.toList ++ [e])
    (l : List (κ × α)) :
    ∀ {t : Table κ α}, (t.keys ++ l.map Prod.fst).Nodup → (l.foldl step t).toList = t.toList ++ l := by
  induction l with
  | nil => exact fun _ => (List.append_nil _).symm
  | cons e rest ih =>
      intro t hnodup
      have hfresh : e.1 ∉ t.keys := by
        intro hmem
        exact (List.nodup_append.1 hnodup).2.2 e.1 hmem e.1 List.mem_cons_self rfl
      have hlist := hstep hfresh
      have hkeys : (step t e).keys = t.keys ++ [e.1] := by
        unfold keys
        rw [hlist, List.map_append]
        rfl
      rw [List.foldl_cons, ih, hlist, List.append_assoc]
      · rfl
      · rw [hkeys, List.append_assoc]
        exact hnodup

/-- The table of pairs with different keys has just these pairs. -/
theorem toList_ofList {l : List (κ × α)} (h : (l.map Prod.fst).Nodup) : (ofList l).toList = l :=
  toList_foldl_of_fresh (fun hfresh => Assoc.insert_of_not_mem hfresh _) l h

/-! ## Sizes -/

theorem size_insert (t : Table κ α) (k : κ) (a : α) :
    (t.insert k a).size = if t.contains k then t.size else t.size + 1 := by
  have hkeys := congrArg List.length (keys_insert t k a)
  have hlength : ∀ t : Table κ α, t.keys.length = t.size := fun t => List.length_map ..
  cases hcontains : t.contains k with
  | true =>
      have hmem : k ∈ t.keys := by
        refine Decidable.byContradiction fun hnot => ?_
        rw [contains_eq_false_iff.2 (find?_eq_none_iff.2 hnot)] at hcontains
        cases hcontains
      rw [if_pos hmem, hlength, hlength] at hkeys
      exact hkeys
  | false =>
      have hnot := find?_eq_none_iff.1 (contains_eq_false_iff.1 hcontains)
      rw [if_neg hnot, List.length_append, hlength, hlength] at hkeys
      exact hkeys

theorem size_erase (t : Table κ α) (k : κ) :
    (t.erase k).size + (if t.contains k then 1 else 0) = t.size :=
  Assoc.length_erase k t.toList

omit [DecidableEq κ] in
theorem size_filter_le (p : κ → α → Bool) (t : Table κ α) : (t.filter p).size ≤ t.size :=
  List.length_filter_le ..

theorem toList_erase (t : Table κ α) (k : κ) :
    (t.erase k).toList = t.toList.filter fun e => e.1 ≠ k :=
  Assoc.erase_eq_filter t.nodup

/-! ## Erasing several keys -/

/-- The keys that are erased are gone, and nothing else is. -/
theorem find?_foldl_erase_eq_ite (out : List κ) (t : Table κ α) (k : κ) :
    (out.foldl erase t).find? k = if k ∈ out then none else t.find? k := by
  induction out generalizing t with
  | nil => rfl
  | cons k' out ih =>
      rw [List.foldl_cons, ih, find?_erase]
      by_cases hlater : k ∈ out
      · rw [if_pos hlater, if_pos (List.mem_cons_of_mem k' hlater)]
      · rw [if_neg hlater]
        by_cases hnow : k' = k
        · rw [if_pos hnow, if_pos (List.mem_cons.2 (.inl hnow.symm))]
        · rw [if_neg hnow, if_neg (mt List.mem_cons.1 (not_or.2 ⟨Ne.symm hnow, hlater⟩))]

theorem find?_of_foldl_erase {out : List κ} {t : Table κ α} {k : κ} {a : α}
    (h : (out.foldl erase t).find? k = some a) : t.find? k = some a := by
  rw [find?_foldl_erase_eq_ite] at h
  split at h
  · cases h
  · exact h

theorem find?_foldl_erase {out : List κ} {k : κ} (hk : k ∉ out) (t : Table κ α) :
    (out.foldl erase t).find? k = t.find? k := by
  rw [find?_foldl_erase_eq_ite, if_neg hk]

/-- Each key that is there takes one entry away. -/
theorem size_foldl_erase {out : List κ} (hout : out.Nodup) :
    ∀ t : Table κ α, (∀ k ∈ out, t.contains k = true) →
      (out.foldl erase t).size + out.length = t.size := by
  induction out with
  | nil => exact fun t _ => rfl
  | cons k out ih =>
      intro t hall
      obtain ⟨hnot, hout⟩ := List.nodup_cons.1 hout
      have hrest : ∀ k' ∈ out, (t.erase k).contains k' = true := by
        intro k' hk'
        obtain ⟨a, ha⟩ := contains_eq_true_iff.1 (hall k' (List.mem_cons_of_mem _ hk'))
        refine contains_eq_true_iff.2 ⟨a, ?_⟩
        rw [find?_erase, if_neg fun heq : k = k' => hnot (heq ▸ hk')]
        exact ha
      have hsize := ih hout (t.erase k) hrest
      have herase := size_erase t k
      rw [hall k List.mem_cons_self, if_pos rfl] at herase
      rw [List.foldl_cons, List.length_cons]
      omega

/-! ## The order of entries -/

omit [DecidableEq κ] in
theorem nodup_toList (t : Table κ α) : t.toList.Nodup :=
  List.Pairwise.of_map Prod.fst (fun _ _ hne heq => hne (congrArg Prod.fst heq)) t.nodup

/-- Two tables have the same value at each key just if they have the same entries, in whatever order. -/
theorem perm_toList_iff {s t : Table κ α} :
    s.toList.Perm t.toList ↔ ∀ k, s.find? k = t.find? k := by
  constructor
  · intro hperm k
    refine Option.ext fun a => ?_
    rw [find?_eq_some_iff, find?_eq_some_iff, hperm.mem_iff]
  · intro h
    refine (List.perm_ext_iff_of_nodup s.nodup_toList t.nodup_toList).2 fun e => ?_
    rw [← find?_eq_some_iff (t := s), ← find?_eq_some_iff (t := t), h]

end Table

end GatewayAuth
