import GatewayAuth.Cache.Sweep
import GatewayAuth.Proofs.Table

/-!
# `GatewayAuth.Proofs.Cache.Entries` — what stands in a cache stands under its own key

Every operation on a cache and every step of a sweep keeps entries where they are: an item goes in under the key that
it is set or renewed for, and a refresher is run for the key that it was listed with. So whatever is true of items and
refreshers that go in, each with its key, stays true of all that a cache and a sweep hold.

## Contents
- `Cache.Fit`: items and refreshers are fit for their keys; one lemma for each operation.
- `Sweep.Fit`, `Sweep.fit_of_step`: the same for what a sweep has in hand.
-/

namespace GatewayAuth

variable {ι ρ : Type} {I : CacheKey → ι → Prop} {R : CacheKey → ρ → Prop}

/-- Every item and every refresher in a cache is fit for its key. -/
def Cache.Fit (I : CacheKey → ι → Prop) (R : CacheKey → ρ → Prop) (c : Cache ι ρ) : Prop :=
  ∀ key e, c.entries.find? key = some e → I key e.item ∧ R key e.refresher

/-- Every item and every refresher that a sweep has in hand is fit for its key. -/
def Sweep.Fit (I : CacheKey → ι → Prop) (R : CacheKey → ρ → Prop) : Sweep ι ρ → Prop
  | .starting => True
  | .refreshing key refresher rest _ => R key refresher ∧ ∀ e ∈ rest, R e.1 e.2
  | .storing key item rest _ => I key item ∧ ∀ e ∈ rest, R e.1 e.2
  | .closing _ => True

variable {I' : CacheKey → ι → Prop} {R' : CacheKey → ρ → Prop}

/-- What is fit in one sense is fit in a weaker one. -/
theorem Cache.Fit.imp {c : Cache ι ρ} (h : c.Fit I R) (hitem : ∀ key item, I key item → I' key item)
    (hrefresher : ∀ key refresher, R key refresher → R' key refresher) : c.Fit I' R' :=
  fun key e he => ⟨hitem key _ (h key e he).1, hrefresher key _ (h key e he).2⟩

theorem Sweep.Fit.imp {sweep : Sweep ι ρ} (h : sweep.Fit I R)
    (hitem : ∀ key item, I key item → I' key item)
    (hrefresher : ∀ key refresher, R key refresher → R' key refresher) : sweep.Fit I' R' := by
  cases sweep with
  | starting => trivial
  | refreshing key refresher rest summary =>
      exact ⟨hrefresher key _ h.1, fun e he => hrefresher e.1 _ (h.2 e he)⟩
  | storing key item rest summary =>
      exact ⟨hitem key _ h.1, fun e he => hrefresher e.1 _ (h.2 e he)⟩
  | closing summary => trivial

namespace Cache

variable {c c' : Cache ι ρ} {now : Nat} {key : CacheKey} {item : ι}

theorem fit_new (limits : CacheLimits) : (Cache.new limits : Cache ι ρ).Fit I R := nofun

/-- What is found is fit for the key it was looked up under. -/
theorem Fit.get {item? : Option ι} (h : c.Fit I R) (hget : c.get now key = (item?, c')) :
    c'.Fit I R ∧ ∀ item, item? = some item → I key item := by
  unfold Cache.get at hget
  split at hget
  · next e hfind =>
    split at hget
    · cases hget
      refine ⟨?_, nofun⟩
      intro key' e' he'
      dsimp only at he'
      rw [Table.find?_erase] at he'
      split at he'
      · cases he'
      · exact h key' e' he'
    · cases hget
      refine ⟨?_, ?_⟩
      · intro key' e' he'
        dsimp only at he'
        rw [Table.find?_insert] at he'
        split at he'
        · next hkey =>
          subst hkey
          cases he'
          exact h key e hfind
        · exact h key' e' he'
      · intro item hitem
        cases hitem
        exact (h key e hfind).1
  · cases hget
    exact ⟨h, nofun⟩

/-- What is set is there under its key, and what gives way to it is gone. -/
theorem Fit.set {refresher : ρ} (h : c.Fit I R) (hitem : I key item)
    (hrefresher : R key refresher) (now : Nat) : (c.set now key item refresher).Fit I R := by
  intro key' e' he'
  have hbefore := Table.find?_of_foldl_erase he'
  rw [Table.find?_insert] at hbefore
  split at hbefore
  · next hkey =>
    subst hkey
    cases hbefore
    exact ⟨hitem, hrefresher⟩
  · exact h key' e' hbefore

/-- What a sweep lists is due with the refreshers it has. -/
theorem Fit.startSweep (h : c.Fit I R) (now : Nat) :
    (c.startSweep now).1.Fit I R ∧ ∀ e ∈ (c.startSweep now).2.1, R e.1 e.2 := by
  have hlive : ∀ key e, (key, e) ∈ (c.entries.filter fun _ e => !e.isExpired now).toList →
      I key e.item ∧ R key e.refresher := fun key e he =>
    h key e (Table.find?_eq_some_iff.2 (List.mem_filter.1 he).1)
  refine ⟨fun key e he => hlive key e (Table.find?_eq_some_iff.1 he), fun e he => ?_⟩
  obtain ⟨⟨key, entry⟩, hentry, rfl⟩ := List.mem_map.1 he
  exact (hlive key entry (List.mem_filter.1 hentry).1).2

/-- What is renewed goes to the entry under its key, whatever refresher that has by then. -/
theorem Fit.storeRefreshed (h : c.Fit I R) (hitem : I key item) (now : Nat) :
    (c.storeRefreshed now key item).2.Fit I R := by
  unfold Cache.storeRefreshed
  split
  · next e hfind =>
    intro key' e' he'
    dsimp only at he'
    rw [Table.find?_insert] at he'
    split at he'
    · next hkey =>
      subst hkey
      cases he'
      exact ⟨hitem, (h key e hfind).2⟩
    · exact h key' e' he'
  · exact h

theorem Fit.finishSweep (h : c.Fit I R) (summary : SweepSummary) :
    (c.finishSweep summary).Fit I R := h

end Cache

namespace Sweep

theorem fit_next {rest : List (CacheKey × ρ)} (h : ∀ e ∈ rest, R e.1 e.2)
    (summary : SweepSummary) : (next summary rest : Sweep ι ρ).Fit I R := by
  cases rest with
  | nil => trivial
  | cons e rest => exact ⟨h e List.mem_cons_self, fun e he => h e (List.mem_cons_of_mem _ he)⟩

/-- **A step of a sweep mixes up no keys**, as long as what a refresher comes to is fit for the key it is run for. -/
theorem fit_of_step {c c' : Cache ι ρ} {now : Nat} {sweep : Sweep ι ρ} {told : Told ι}
    {out : Sweep ι ρ ⊕ SweepSummary} (hstep : sweep.step c now told = some (c', out))
    (hcache : c.Fit I R) (hsweep : sweep.Fit I R)
    (hrenewed : ∀ key refresher rest summary item, sweep = .refreshing key refresher rest summary →
      told = .renewed (some item) → I key item) :
    c'.Fit I R ∧ ∀ sweep', out = .inl sweep' → sweep'.Fit I R := by
  cases sweep with
  | starting =>
      cases told with
      | renewed item? => cases hstep
      | turn =>
          cases hstep
          obtain ⟨hstarted, hdue⟩ := hcache.startSweep now
          refine ⟨hstarted, fun sweep' hout => ?_⟩
          cases hout
          exact fit_next hdue _
  | refreshing key refresher rest summary =>
      obtain ⟨hrefresher, hrest⟩ := hsweep
      cases told with
      | turn => cases hstep
      | renewed item? =>
          cases item? with
          | none =>
              cases hstep
              refine ⟨hcache, fun sweep' hout => ?_⟩
              cases hout
              exact fit_next hrest _
          | some item =>
              cases hstep
              refine ⟨hcache, fun sweep' hout => ?_⟩
              cases hout
              exact ⟨hrenewed key refresher rest summary item rfl rfl, hrest⟩
  | storing key item rest summary =>
      obtain ⟨hitem, hrest⟩ := hsweep
      cases told with
      | renewed item? => cases hstep
      | turn =>
          cases hstep
          refine ⟨hcache.storeRefreshed hitem now, fun sweep' hout => ?_⟩
          cases hout
          exact fit_next hrest _
  | closing summary =>
      cases told with
      | renewed item? => cases hstep
      | turn =>
          cases hstep
          exact ⟨hcache.finishSweep summary, nofun⟩

end Sweep

end GatewayAuth
