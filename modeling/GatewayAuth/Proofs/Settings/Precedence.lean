import GatewayAuth.Settings.Layers
import Mathlib.Data.List.Induction

/-!
# `GatewayAuth.Proofs.Settings.Precedence` — which layer has its way

Where one tree is laid over another, the upper one settles each path about which it has anything to say: it has a value
at the path, or a value on the way there that is no table. In a stack of layers it is therefore the highest of the
layers that settle a path which decides what stands there. Only a table leaves something to those below, namely the
keys that it does not have; and since the law holds at every path, it says of those what becomes of them, too.

## Contents
- `Tree.Settles`, `Tree.Fixes`: what a tree says about a path, and what it says for good.
- `Tree.at?_upon_of_settles`, `Tree.at?_upon_of_not_settles`: the law for one tree laid over another.
- `Tree.at?_stack`, `Tree.exists_highest`: the law for a stack of layers.
- `Tree.at?_stack_of_fixes`: what lower layers cannot change.
-/

namespace GatewayAuth.Settings.Tree

/-! ## What a tree says about a path -/

/-- Whether a tree is a table. -/
def isTable : Tree → Bool
  | .table _ => true
  | _ => false

/-- A tree settles a path: it has a value there or, on the way there, a value that is no table. -/
def Settles (path : List String) (t : Tree) : Prop :=
  (∃ v, at? path t = some v) ∨
    ∃ front rest v, front ++ rest = path ∧ rest ≠ [] ∧ at? front t = some v ∧ v.isTable = false

/-- A tree fixes a path: it has a value that is no table, there or on the way there. -/
def Fixes (path : List String) (t : Tree) : Prop :=
  ∃ front rest v, front ++ rest = path ∧ at? front t = some v ∧ v.isTable = false

/-- What becomes of a value that is laid over what stands below it, if anything does. -/
def laidOver (low? : Option Tree) (high : Tree) : Tree :=
  match low? with
  | some low => upon high low
  | none => high

variable {path : List String} {key : String} {t high low : Tree} {entries : List (String × Tree)}

theorem ne_table_of_isTable (h : t.isTable = false) (entries : List (String × Tree)) :
    t ≠ .table entries := by
  rintro rfl
  cases h

theorem laidOver_of_not_table (h : high.isTable = false) (low? : Option Tree) :
    laidOver low? high = high := by
  cases low? with
  | none => rfl
  | some low => exact upon_of_not_table (ne_table_of_isTable h)

/-- There is nothing below a value that is no table. -/
theorem at?_cons_of_not_table (h : t.isTable = false) (key : String) (path : List String) :
    at? (key :: path) t = none := by
  cases t with
  | table entries => cases h
  | _ => rfl

theorem at?_append (front rest : List String) (t : Tree) :
    at? (front ++ rest) t = (at? front t).bind (at? rest) := by
  induction front generalizing t with
  | nil => rfl
  | cons key front ih =>
      cases t with
      | table entries =>
          show (Assoc.find? key entries).bind (at? (front ++ rest)) = _
          simp only [at?]
          cases Assoc.find? key entries with
          | none => rfl
          | some inner => exact ih inner
      | _ => rfl

theorem settles_nil (t : Tree) : Settles [] t := .inl ⟨t, rfl⟩

/-- A value that is no table settles whatever is below it. -/
theorem settles_cons_of_not_table (h : t.isTable = false) : Settles (key :: path) t :=
  .inr ⟨[], key :: path, t, rfl, List.cons_ne_nil _ _, rfl, h⟩

/-- A table settles a path if its entry for the first key settles the rest. -/
theorem settles_cons_table :
    Settles (key :: path) (.table entries) ↔
      ∃ inner, Assoc.find? key entries = some inner ∧ Settles path inner := by
  constructor
  · rintro (⟨v, hv⟩ | ⟨front, rest, v, hpath, hrest, hv, htable⟩)
    · obtain ⟨inner, hinner, hv⟩ := Option.bind_eq_some_iff.1 hv
      exact ⟨inner, hinner, .inl ⟨v, hv⟩⟩
    · cases front with
      | nil =>
          cases hv
          cases htable
      | cons key' front =>
          obtain ⟨rfl, hfront⟩ := List.cons.inj hpath
          obtain ⟨inner, hinner, hv⟩ := Option.bind_eq_some_iff.1 hv
          exact ⟨inner, hinner, .inr ⟨front, rest, v, hfront, hrest, hv, htable⟩⟩
  · rintro ⟨inner, hinner, ⟨v, hv⟩ | ⟨front, rest, v, hpath, hrest, hv, htable⟩⟩
    · refine .inl ⟨v, ?_⟩
      simp only [at?, hinner, Option.bind_some, hv]
    · refine .inr ⟨key :: front, rest, v, by rw [List.cons_append, hpath], hrest, ?_, htable⟩
      simp only [at?, hinner, Option.bind_some, hv]

/-- What is fixed is settled. -/
theorem Fixes.settles (h : Fixes path t) : Settles path t := by
  obtain ⟨front, rest, v, hpath, hv, htable⟩ := h
  by_cases hrest : rest = []
  · subst hrest
    rw [List.append_nil] at hpath
    subst hpath
    exact .inl ⟨v, hv⟩
  · exact .inr ⟨front, rest, v, hpath, hrest, hv, htable⟩

/-! ## One tree laid over another -/

/-- **What the upper tree settles.** Its value stands, laid over that of the lower tree if there is one; and there is
nothing at the path if the upper tree has no value there. -/
theorem at?_upon_of_settles (h : Settles path high) :
    at? path (upon high low) = (at? path high).map (laidOver (at? path low)) := by
  induction path generalizing high low with
  | nil => rfl
  | cons key path ih =>
      cases high with
      | table highs =>
          obtain ⟨inner, hinner, hsettles⟩ := settles_cons_table.1 h
          cases low with
          | table lows =>
              rw [upon, at?, find?_overEntries, hinner]
              simp only [at?, hinner, Option.bind_some]
              cases Assoc.find? key lows with
              | none =>
                  show at? path inner = (at? path inner).map id
                  rw [Option.map_id_fun, id]
              | some inner' => exact ih hsettles
          | _ =>
              -- the lower tree has no entries, so it has nothing at the path
              rw [upon_of_table_of_not_table (ne_table_of_isTable rfl)]
              show _ = (at? (key :: path) _).map id
              rw [Option.map_id_fun, id]
      | _ =>
          rw [upon_of_not_table (ne_table_of_isTable rfl)]
          rfl

/-- **What the upper tree leaves open** is as in the lower one. -/
theorem at?_upon_of_not_settles (h : ¬ Settles path high) :
    at? path (upon high low) = at? path low := by
  induction path generalizing high low with
  | nil => exact absurd (settles_nil high) h
  | cons key path ih =>
      cases high with
      | table highs =>
          rw [settles_cons_table] at h
          cases low with
          | table lows =>
              rw [upon, at?, find?_overEntries, at?]
              cases hhigh : Assoc.find? key highs with
              | none => rfl
              | some inner =>
                  have hinner : ¬ Settles path inner := fun hs => h ⟨inner, hhigh, hs⟩
                  cases hlow : Assoc.find? key lows with
                  | none =>
                      -- an entry without a counterpart has no value where it settles nothing
                      cases hv : at? path inner with
                      | none => exact hv
                      | some v => exact absurd (.inl ⟨v, hv⟩) hinner
                  | some inner' => exact ih hinner
          | _ =>
              rw [upon_of_table_of_not_table (ne_table_of_isTable rfl)]
              cases hv : at? (key :: path) (.table highs) with
              | none => rfl
              | some v => exact absurd (settles_cons_table.1 (.inl ⟨v, hv⟩)) h
      | _ => exact absurd (settles_cons_of_not_table rfl) h

/-- What the upper tree fixes is as in the upper tree, whatever the lower one is. -/
theorem at?_upon_of_fixes (h : Fixes path high) : at? path (upon high low) = at? path high := by
  rw [at?_upon_of_settles h.settles]
  obtain ⟨front, rest, v, rfl, hv, htable⟩ := h
  rw [at?_append front rest high, hv, Option.bind_some]
  cases rest with
  | nil =>
      show some (laidOver _ v) = some v
      rw [laidOver_of_not_table htable]
  | cons key rest =>
      rw [at?_cons_of_not_table htable]
      rfl

/-! ## A stack of layers -/

theorem stack_append_singleton (layers : List Tree) (t : Tree) :
    stack (layers ++ [t]) = upon t (stack layers) := by
  rw [stack, List.foldl_append]
  rfl

/-- **The highest layer that settles a path decides what stands there.** If it has a value, this is laid over what
stands there in the stack of the layers below, which makes a difference to a table only; if it has none, there is
nothing. -/
theorem at?_stack (lows : List Tree) {layer : Tree} (highs : List Tree) (h : Settles path layer)
    (hhighs : ∀ high ∈ highs, ¬ Settles path high) :
    at? path (stack (lows ++ layer :: highs)) =
      (at? path layer).map (laidOver (at? path (stack lows))) := by
  induction highs using List.reverseRecOn with
  | nil =>
      rw [stack_append_singleton]
      exact at?_upon_of_settles h
  | append_singleton highs high ih =>
      rw [← List.cons_append, ← List.append_assoc, stack_append_singleton,
        at?_upon_of_not_settles (hhighs high (List.mem_append_right _ List.mem_cons_self))]
      exact ih fun high' hmem => hhighs high' (List.mem_append_left _ hmem)

/-- Of the layers that settle a path one is the highest. -/
theorem exists_highest {layers : List Tree} (h : ∃ layer ∈ layers, Settles path layer) :
    ∃ lows layer highs, layers = lows ++ layer :: highs ∧ Settles path layer ∧
      ∀ high ∈ highs, ¬ Settles path high := by
  induction layers with
  | nil =>
      obtain ⟨layer, hmem, -⟩ := h
      cases hmem
  | cons first rest ih =>
      by_cases hrest : ∃ layer ∈ rest, Settles path layer
      · obtain ⟨lows, layer, highs, rfl, hsettles, hhighs⟩ := ih hrest
        exact ⟨first :: lows, layer, highs, rfl, hsettles, hhighs⟩
      · obtain ⟨layer, hmem, hsettles⟩ := h
        have hnone : ∀ high ∈ rest, ¬ Settles path high :=
          fun high hhigh hs => hrest ⟨high, hhigh, hs⟩
        rcases List.mem_cons.1 hmem with rfl | hmem
        · exact ⟨[], layer, rest, rfl, hsettles, hnone⟩
        · exact absurd hsettles (hnone layer hmem)

/-- **What lower layers cannot change.** A path that one of the upper layers fixes is as it is whatever the layers below
these are. -/
theorem at?_stack_of_fixes (lows lows' : List Tree) {highs : List Tree}
    (h : ∃ high ∈ highs, Fixes path high) :
    at? path (stack (lows ++ highs)) = at? path (stack (lows' ++ highs)) := by
  induction highs using List.reverseRecOn with
  | nil =>
      obtain ⟨high, hmem, -⟩ := h
      cases hmem
  | append_singleton highs last ih =>
      rw [← List.append_assoc, ← List.append_assoc, stack_append_singleton, stack_append_singleton]
      by_cases hlast : Fixes path last
      · rw [at?_upon_of_fixes hlast, at?_upon_of_fixes hlast]
      · -- it is one of the layers below the last one that fixes the path
        obtain ⟨high, hmem, hfixes⟩ := h
        have hbelow : high ∈ highs := by
          rcases List.mem_append.1 hmem with hmem | hmem
          · exact hmem
          · rw [List.mem_singleton] at hmem
            exact absurd (hmem ▸ hfixes) hlast
        have hsame := ih ⟨high, hbelow, hfixes⟩
        by_cases hsettles : Settles path last
        · rw [at?_upon_of_settles hsettles, at?_upon_of_settles hsettles, hsame]
        · rw [at?_upon_of_not_settles hsettles, at?_upon_of_not_settles hsettles, hsame]

end GatewayAuth.Settings.Tree
