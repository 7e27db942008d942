import GatewayAuth.CommandLine.Grammar
import GatewayAuth.CommandLine.Invocation
import GatewayAuth.Proofs.Decimal
import GatewayAuth.Proofs.Usage.Totals
import Mathlib.Data.List.Infix

/-!
# `GatewayAuth.Proofs.CommandLine.Metric` — usage on the command line is read exactly and summed by name

A word stands for usage of one metric if it is a name, an equals sign and a number; the first equals sign ends the name,
so no later one can be part of a number. Usage of one name that is given several times adds up, in whatever order, as
long as no running sum leaves 64 bits.

## Contents
- `Says`, `parseMetric_eq_ok_iff`: what a word stands for, and that it is read as just this.
- `sumAt`, `RunningSumsFit`, `find?_total`: the sum of usage by name.
- `SumOf`, `SumOf.unique`, `sumOf_total`: usage that is the sum of what is listed, and nothing else.
- `metrics_read_and_summed`: words that are read, and orders that are summed.
-/

namespace GatewayAuth.CommandLine

-- The zero of a sum is that of the core library, also where another one is in scope.
attribute [local instance (high)] Zero.ofOfNat0

/-! ## Words -/

/-- A word says how much of a metric is used: a name without an equals sign, an equals sign, and a number of 64 bits. -/
structure Says (word name : String) (n : Int) : Prop where
  named : name ≠ ""
  plain : '=' ∉ name.toList
  delta : ∃ text, word = name ++ "=" ++ text ∧ Decimal.Spells text.toList n
  fits : InRange n

variable {word name : String} {d : Int64} {n : Int}

theorem toList_word (name text : String) :
    (name ++ "=" ++ text).toList = name.toList ++ '=' :: text.toList := by
  rw [String.toList_append, String.toList_append, List.append_assoc]
  rfl

theorem eq_word_iff {name delta : List Char} :
    word.toList = name ++ '=' :: delta ↔ word = String.ofList name ++ "=" ++ String.ofList delta := by
  rw [← String.toList_inj, toList_word, String.toList_ofList, String.toList_ofList]

/-- **A word is read as what it says.** -/
theorem parseMetric_eq_ok_iff : parseMetric word = .ok (name, d) ↔ Says word name d.toInt := by
  have hread : ∀ {delta : List Char} {n : Int},
      Decimal.readInt Decimal.int64Min Decimal.int64Max delta = .ok n ↔
        Decimal.Spells delta n ∧ Decimal.int64Min ≤ n ∧ n ≤ Decimal.int64Max :=
    Decimal.readInt_eq_ok_iff (by decide) (by decide)
  unfold parseMetric
  constructor
  · intro h
    split at h
    · cases h
    · next chars delta hsplit =>
      obtain ⟨hplain, hword⟩ := splitAtEquals_eq_some_iff.1 hsplit
      split at h
      · cases h
      · next hnamed =>
        split at h
        · next n hn =>
          cases h
          obtain ⟨hspells, hfits⟩ := hread.1 hn
          rw [InRange.toInt_ofInt hfits]
          refine ⟨?_, ?_, ⟨String.ofList delta, eq_word_iff.1 hword, ?_⟩, hfits⟩
          · intro hempty
            apply hnamed
            rw [← String.toList_ofList (l := chars), hempty]
            rfl
          · rw [String.toList_ofList]
            exact hplain
          · rw [String.toList_ofList]
            exact hspells
        · cases h
  · rintro ⟨hnamed, hplain, ⟨text, rfl, hspells⟩, hfits⟩
    have hsplit : splitAtEquals (name ++ "=" ++ text).toList = some (name.toList, text.toList) :=
      splitAtEquals_eq_some_iff.2 ⟨hplain, toList_word name text⟩
    have hsome : name.toList ≠ [] := fun hnil => hnamed (String.toList_inj.1 hnil)
    rw [hsplit]
    dsimp only
    rw [if_neg hsome, hread.2 ⟨hspells, hfits⟩]
    simp only [String.ofList_toList, Int64.ofInt_toInt]

-- One hit, which is ordered where no usage is named, is the default as help words it.
example : parseMetric CommandOption.metric.default = .ok ("hits", 1) := rfl

/-- **A word is accepted if and only if it says something.** -/
theorem exists_parseMetric_iff : (∃ m, parseMetric word = .ok m) ↔ ∃ name n, Says word name n := by
  constructor
  · rintro ⟨⟨name, d⟩, h⟩
    exact ⟨name, d.toInt, parseMetric_eq_ok_iff.1 h⟩
  · rintro ⟨name, n, h⟩
    refine ⟨(name, Int64.ofInt n), parseMetric_eq_ok_iff.2 ?_⟩
    rw [h.fits.toInt_ofInt]
    exact h

/-! ## Sums -/

/-- The sum of the deltas of one name. -/
def sumAt (name : String) (metrics : List (String × Int64)) : Int :=
  (metrics.map fun m => if m.1 = name then m.2.toInt else 0).sum

/-- While usage is summed up from the front, the sum of each name keeps within 64 bits. -/
def RunningSumsFit (metrics : List (String × Int64)) : Prop :=
  ∀ front ∈ metrics.inits, ∀ m ∈ front, InRange (sumAt m.1 front)

instance (metrics : List (String × Int64)) : Decidable (RunningSumsFit metrics) :=
  inferInstanceAs (Decidable (∀ front ∈ metrics.inits, ∀ m ∈ front, _))

variable {metrics metrics' : List (String × Int64)} {usage usage' : Usage}

theorem sumAt_append (name : String) (front : List (String × Int64)) (m : String × Int64) :
    sumAt name (front ++ [m]) = sumAt name front + if m.1 = name then m.2.toInt else 0 := by
  simp [sumAt]

theorem sumAt_eq_zero (h : name ∉ metrics.map Prod.fst) : sumAt name metrics = 0 := by
  apply sum_map_eq_zero
  intro m hm
  apply if_neg
  rintro rfl
  exact h (List.mem_map_of_mem hm)

theorem total_append (front : List (String × Int64)) (m : String × Int64) :
    total (front ++ [m]) = addMetric (total front) m := by
  unfold total
  rw [List.foldl_append]
  rfl

theorem find?_addMetric (usage : Usage) (m : String × Int64) (name : String) :
    (addMetric usage m).find? name =
      if m.1 = name then some ((usage.find? m.1).getD 0 + m.2) else usage.find? name :=
  Table.find?_alter usage m.1 name fun before => before.getD 0 + m.2

/-- What stands for a name is the sum of its deltas, as far as 64 bits show it. -/
theorem find?_total (name : String) (metrics : List (String × Int64)) :
    (total metrics).find? name =
      if name ∈ metrics.map Prod.fst then some (Int64.ofInt (sumAt name metrics)) else none := by
  -- the last one of the list is added to the sum of those in front of it
  induction metrics using List.reverseRecOn with
  | nil => rfl
  | append_singleton front m ih =>
      have hlisted : name ∈ (front ++ [m]).map Prod.fst ↔ name ∈ front.map Prod.fst ∨ m.1 = name := by
        simp [eq_comm]
      rw [total_append, find?_addMetric, sumAt_append]
      by_cases hname : m.1 = name
      · subst hname
        have hbefore : ((total front).find? m.1).getD 0 = Int64.ofInt (sumAt m.1 front) := by
          rw [ih]
          split
          · rfl
          · next hnew =>
            rw [sumAt_eq_zero hnew]
            rfl
        rw [if_pos rfl, if_pos rfl, if_pos (hlisted.2 (.inr rfl)), hbefore, Int64.ofInt_add,
          Int64.ofInt_toInt]
      · rw [if_neg hname, if_neg hname, ih, Int.add_zero]
        refine (if_congr (hlisted.trans ?_) rfl rfl).symm
        exact or_iff_left hname

/-- Usage that has the sum of its deltas for each name that is listed, and no other name. -/
def SumOf (metrics : List (String × Int64)) (usage : Usage) : Prop :=
  ∀ name, (name ∈ metrics.map Prod.fst →
      ∃ d, usage.find? name = some d ∧ d.toInt = sumAt name metrics) ∧
    (name ∉ metrics.map Prod.fst → usage.find? name = none)

/-- **As long as running sums fit, the total of a list is its sum.** -/
theorem sumOf_total (fits : RunningSumsFit metrics) : SumOf metrics (total metrics) := by
  intro name
  constructor
  · intro hlisted
    refine ⟨_, (find?_total name metrics).trans (if_pos hlisted), ?_⟩
    obtain ⟨m, hm, rfl⟩ := List.mem_map.1 hlisted
    exact (fits metrics ((List.mem_inits _ _).2 List.prefix_rfl) m hm).toInt_ofInt
  · intro hother
    exact (find?_total name metrics).trans (if_neg hother)

/-- The sum of a list does not depend on its order. -/
theorem SumOf.unique (h : SumOf metrics usage) (h' : SumOf metrics' usage') (perm : metrics.Perm metrics')
    (name : String) : usage.find? name = usage'.find? name := by
  have hnames : name ∈ metrics.map Prod.fst ↔ name ∈ metrics'.map Prod.fst :=
    (perm.map Prod.fst).mem_iff
  by_cases hlisted : name ∈ metrics.map Prod.fst
  · obtain ⟨d, hd, hsum⟩ := (h name).1 hlisted
    obtain ⟨d', hd', hsum'⟩ := (h' name).1 (hnames.1 hlisted)
    have heq : sumAt name metrics = sumAt name metrics' := sum_map_of_perm perm _
    rw [hd, hd', Int64.toInt_inj.1 (hsum.trans (heq.trans hsum'.symm))]
  · rw [(h name).2 hlisted, (h' name).2 fun hlisted' => hlisted (hnames.2 hlisted')]

/-! ## Both -/

/-- **Usage is read exactly and summed by name.** A word is accepted if and only if it says how much of a metric is
used, and as just that; and the one transaction of an order, as long as running sums fit, has the sum of the deltas for
each name that is listed and no other name, in whatever order the usage is listed. -/
theorem metrics_read_and_summed :
    (∀ word, (∃ m, parseMetric word = .ok m) ↔ ∃ name n, Says word name n) ∧
    (∀ word name d, parseMetric word = .ok (name, d) ↔ Says word name d.toInt) ∧
    (∀ o : AuthOrder, RunningSumsFit o.metrics →
      ∃ usage, o.toRequest.transactions = [⟨usage, o.params⟩] ∧ SumOf o.metrics usage) ∧
    ∀ o o' : AuthOrder, o.metrics.Perm o'.metrics → RunningSumsFit o.metrics →
      RunningSumsFit o'.metrics → ∀ t ∈ o.toRequest.transactions, ∀ t' ∈ o'.toRequest.transactions,
        ∀ name, t.usage.find? name = t'.usage.find? name := by
  refine ⟨fun word => exists_parseMetric_iff, fun word name d => parseMetric_eq_ok_iff, ?_, ?_⟩
  · intro o fits
    exact ⟨total o.metrics, rfl, sumOf_total fits⟩
  · intro o o' perm fits fits' t ht t' ht' name
    rw [List.mem_singleton.1 ht, List.mem_singleton.1 ht']
    exact (sumOf_total fits).unique (sumOf_total fits') perm name

/-- An order in which one metric comes close to both bounds of 64 bits, and another one is in between. -/
def bulk : AuthOrder :=
  ⟨"https://backend", "42", some "t", none, ⟨"", "", "", "u"⟩,
    [("bytes", 9223372036854775807), ("hits", 1), ("bytes", -9), ("hits", 2)]⟩

/-- The same order with its usage listed the other way round. -/
def bulkReversed : AuthOrder := { bulk with metrics := bulk.metrics.reverse }

theorem metrics_read_and_summed_bulk :
    parseMetric "bytes=-0009" = .ok ("bytes", -9) ∧
      (∃ usage, bulk.toRequest.transactions = [⟨usage, bulk.params⟩] ∧ SumOf bulk.metrics usage) ∧
      sumAt "bytes" bulk.metrics = 9223372036854775798 ∧ sumAt "hits" bulk.metrics = 3 ∧
      ∀ t ∈ bulk.toRequest.transactions, ∀ t' ∈ bulkReversed.toRequest.transactions,
        t.usage.find? "bytes" = t'.usage.find? "bytes" := by
  have hfits : RunningSumsFit bulk.metrics := by decide +kernel
  have hfits' : RunningSumsFit bulkReversed.metrics := by decide +kernel
  have hspells : Decimal.Spells "-0009".toList (-9 : Int64).toInt :=
    @Decimal.Spells.minus ['0', '0', '0', '9'] (by decide) (List.all_eq_true.1 (by decide))
  have hsays : Says "bytes=-0009" "bytes" (-9 : Int64).toInt :=
    ⟨by decide, by decide, ⟨"-0009", by decide, hspells⟩, by decide⟩
  refine ⟨(metrics_read_and_summed.2.1 _ _ _).2 hsays, metrics_read_and_summed.2.2.1 bulk hfits,
    by decide +kernel, by decide +kernel, ?_⟩
  intro t ht t' ht'
  exact metrics_read_and_summed.2.2.2 bulk bulkReversed (List.reverse_perm _).symm hfits hfits' t ht t' ht'
    "bytes"

end GatewayAuth.CommandLine
