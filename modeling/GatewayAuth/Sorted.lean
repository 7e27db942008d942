/-!
# `GatewayAuth.Sorted` — sorting by insertion

## Contents
- `sort le l`: the elements of `l` in the order `le`, equal elements in their order in `l`.
- `perm_sort`: nothing is lost or added; `sorted_sort`, `pairwise_sort_key`: the result is in order.

Insertion is structural, so that closed instances evaluate by `decide`; the lists sorted here are short.
-/

namespace GatewayAuth.Sorted

universe u v

variable {α : Type u}

/-- Put `a` in front of the first element that it is not after. -/
def insert (le : α → α → Bool) (a : α) : List α → List α
  | [] => [a]
  | b :: rest => if le a b then a :: b :: rest else b :: insert le a rest

/-- The elements of a list in order. -/
def sort (le : α → α → Bool) : List α → List α
  | [] => []
  | a :: rest => insert le a (sort le rest)

theorem perm_insert (le : α → α → Bool) (a : α) (l : List α) : (insert le a l).Perm (a :: l) := by
  induction l with
  | nil => exact .refl _
  | cons b rest ih =>
    unfold insert
    split
    · exact .refl _
    · exact (ih.cons b).trans (.swap a b rest)

theorem perm_sort (le : α → α → Bool) (l : List α) : (sort le l).Perm l := by
  induction l with
  | nil => exact .refl _
  | cons a rest ih => exact (perm_insert le a _).trans (ih.cons a)

theorem mem_sort {le : α → α → Bool} {l : List α} {a : α} : a ∈ sort le l ↔ a ∈ l :=
  (perm_sort le l).mem_iff

theorem pairwise_insert {le : α → α → Bool} (total : ∀ a b, le a b = true ∨ le b a = true)
    (trans : ∀ a b c, le a b = true → le b c = true → le a c = true) {a : α} {l : List α}
    (h : l.Pairwise (le · · = true)) : (insert le a l).Pairwise (le · · = true) := by
  induction l with
  | nil => simp [insert]
  | cons b rest ih =>
    rw [List.pairwise_cons] at h
    unfold insert
    split
    · next hab =>
      rw [List.pairwise_cons, List.pairwise_cons]
      refine ⟨?_, h⟩
      intro c hc
      rcases List.mem_cons.1 hc with rfl | hc
      · exact hab
      · exact trans a b c hab (h.1 c hc)
    · next hab =>
      rw [List.pairwise_cons]
      refine ⟨?_, ih h.2⟩
      intro c hc
      rcases List.mem_cons.1 ((perm_insert le a rest).mem_iff.1 hc) with rfl | hc
      · exact (total c b).resolve_left hab
      · exact h.1 c hc

/-- The result of sorting is in order. -/
theorem sorted_sort {le : α → α → Bool} (total : ∀ a b, le a b = true ∨ le b a = true)
    (trans : ∀ a b c, le a b = true → le b c = true → le a c = true) (l : List α) :
    (sort le l).Pairwise (le · · = true) := by
  induction l with
  | nil => simp [sort]
  | cons a rest ih => exact pairwise_insert total trans ih

/-- The result of sorting by a key is in the order of the keys. -/
theorem pairwise_sort_key {κ : Type v} [LE κ] [DecidableLE κ] (total : ∀ a b : κ, a ≤ b ∨ b ≤ a)
    (trans : ∀ {a b c : κ}, a ≤ b → b ≤ c → a ≤ c) (key : α → κ) (l : List α) :
    (sort (fun a b => decide (key a ≤ key b)) l).Pairwise (key · ≤ key ·) := by
  refine (sorted_sort ?_ ?_ l).imp of_decide_eq_true
  · intro a b
    rw [decide_eq_true_eq, decide_eq_true_eq]
    exact total (key a) (key b)
  · intro a b c hab hbc
    exact decide_eq_true (trans (of_decide_eq_true hab) (of_decide_eq_true hbc))

/-- Texts in the order of their code points. -/
def sortTexts (l : List String) : List String := sort (fun a b => decide (a ≤ b)) l

end GatewayAuth.Sorted
