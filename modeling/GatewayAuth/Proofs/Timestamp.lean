import GatewayAuth.Proofs.Json.Grammar
import GatewayAuth.Timestamp

/-!
# `GatewayAuth.Proofs.Timestamp` — instants as they are read, and as they are written

Whatever offset an instant was given with, its fields are those of a date and a time of day in universal time. From such
fields the canonical text is written, and it is read as the same instant.

## Contents
- `Timestamp.Valid`: fields within their ranges; `Timestamp.valid_of_parse?`: instants that are read are valid.
- `Timestamp.parse?_chars`: the canonical text of a valid instant is read as this instant.
-/

namespace GatewayAuth

-- Powers are those of the core library, also where other powers of natural numbers are in scope.
attribute [local instance (high)] instPowNat

open GatewayAuth.Text

/-! ## Digits -/

namespace Decimal

theorem isDigit_of_mem_padded {width n : Nat} {c : Char} (h : c ∈ padded width n) : c.isDigit = true := by
  induction width generalizing n with
  | zero => cases h
  | succ width ih =>
      rcases List.mem_append.1 h with h | h
      · exact ih h
      · rw [List.mem_singleton.1 h]
        exact digitChar_isDigit (Nat.mod_lt n (by decide))

/-- The number that the last digits stand for. -/
theorem value_padded (width n : Nat) : value (padded width n) = n % 10 ^ width := by
  induction width generalizing n with
  | zero => exact (Nat.mod_one n).symm
  | succ width ih =>
      rw [padded, value_append_singleton, ih, digitValue_digitChar (Nat.mod_lt n (by decide)), Nat.pow_succ',
        Nat.mod_mul]
      omega

theorem value_padded_of_lt {width n : Nat} (h : n < 10 ^ width) : value (padded width n) = n := by
  rw [value_padded, Nat.mod_eq_of_lt h]

theorem digitValue_le {c : Char} (h : c.isDigit = true) : digitValue c ≤ 9 := by
  have hrange : c.toNat ≤ 57 := by
    rw [Char.isDigit, Bool.and_eq_true, decide_eq_true_iff, decide_eq_true_iff] at h
    exact h.2
  show c.toNat - 48 ≤ 9
  omega

/-- So many digits stand for less than the power of ten. -/
theorem value_lt {ds : List Char} (h : ∀ c ∈ ds, c.isDigit = true) : value ds < 10 ^ ds.length := by
  have hfrom : ∀ (ds : List Char), (∀ c ∈ ds, c.isDigit = true) → ∀ total,
      ds.foldl (fun n c => n * 10 + digitValue c) total < (total + 1) * 10 ^ ds.length := by
    intro ds
    induction ds with
    | nil =>
        intro _ total
        show total < (total + 1) * 10 ^ 0
        omega
    | cons c ds ih =>
        intro hds total
        have hc : digitValue c ≤ 9 := digitValue_le (hds c List.mem_cons_self)
        calc ds.foldl (fun n c => n * 10 + digitValue c) (total * 10 + digitValue c)
            < (total * 10 + digitValue c + 1) * 10 ^ ds.length := ih (fun d hd => hds d (List.mem_cons_of_mem _ hd)) _
          _ ≤ ((total + 1) * 10) * 10 ^ ds.length := Nat.mul_le_mul_right _ (by omega)
          _ = (total + 1) * 10 ^ (c :: ds).length := by
              rw [List.length_cons, Nat.pow_succ', Nat.mul_assoc]
  have hds := hfrom ds h 0
  rwa [Nat.zero_add, Nat.one_mul] at hds

end Decimal

namespace Timestamp

/-! ## Valid instants -/

/-- Fields of a date and a time of day within their ranges. -/
structure Valid (t : Timestamp) : Prop where
  date : isDate t.year t.month t.day = true
  hour : t.hour ≤ 23
  minute : t.minute ≤ 59
  second : t.second ≤ 60
  nanos : t.nanos < 1000000000

theorem isDate_eq_true_iff {year : Int} {month day : Nat} :
    isDate year month day = true ↔
      (minYear ≤ year ∧ year ≤ maxYear) ∧ (1 ≤ month ∧ month ≤ 12) ∧ 1 ≤ day ∧ day ≤ daysIn year month := by
  simp [isDate, and_assoc]

theorem one_le_daysIn (year : Int) (month : Nat) : 1 ≤ daysIn year month := by
  unfold daysIn
  split
  · split <;> decide
  · split <;> decide

theorem isDate_dayBefore {year : Int} {month day : Nat} (h : isDate year month day = true)
    (hyear : minYear ≤ (dayBefore year month day).1 ∧ (dayBefore year month day).1 ≤ maxYear) :
    isDate (dayBefore year month day).1 (dayBefore year month day).2.1 (dayBefore year month day).2.2 = true := by
  obtain ⟨-, hmonth, hday⟩ := isDate_eq_true_iff.1 h
  refine isDate_eq_true_iff.2 ⟨hyear, ?_⟩
  unfold dayBefore
  split
  · exact ⟨hmonth, by simp only; omega⟩
  · split
    · exact ⟨by simp only; omega, one_le_daysIn _ _, Nat.le_refl _⟩
    · exact ⟨⟨Nat.le_add_left 1 11, Nat.le_refl 12⟩, Nat.le_add_left 1 30, Nat.le_refl 31⟩

theorem isDate_dayAfter {year : Int} {month day : Nat} (h : isDate year month day = true)
    (hyear : minYear ≤ (dayAfter year month day).1 ∧ (dayAfter year month day).1 ≤ maxYear) :
    isDate (dayAfter year month day).1 (dayAfter year month day).2.1 (dayAfter year month day).2.2 = true := by
  obtain ⟨-, hmonth, hday⟩ := isDate_eq_true_iff.1 h
  refine isDate_eq_true_iff.2 ⟨hyear, ?_⟩
  unfold dayAfter
  split
  · exact ⟨hmonth, by simp only; omega⟩
  · split
    · exact ⟨by simp only; omega, Nat.le_refl 1, one_le_daysIn _ _⟩
    · exact ⟨⟨Nat.le_refl 1, Nat.le_add_left 1 11⟩, Nat.le_refl 1, one_le_daysIn _ _⟩

/-- The date in universal time where it is so many minutes after midnight of the local date. -/
def dateAt (t : Timestamp) (minutes : Int) : Int × Nat × Nat :=
  if minutes < 0 then dayBefore t.year t.month t.day
  else if 1440 ≤ minutes then dayAfter t.year t.month t.day
  else (t.year, t.month, t.day)

theorem isDate_dateAt {t : Timestamp} (ht : isDate t.year t.month t.day = true) (minutes : Int)
    (hyear : minYear ≤ (t.dateAt minutes).1 ∧ (t.dateAt minutes).1 ≤ maxYear) :
    isDate (t.dateAt minutes).1 (t.dateAt minutes).2.1 (t.dateAt minutes).2.2 = true := by
  unfold dateAt at hyear ⊢
  split at hyear
  · next h => exact if_pos h ▸ isDate_dayBefore ht hyear
  · next h =>
    rw [if_neg h]
    split at hyear
    · next h => exact if_pos h ▸ isDate_dayAfter ht hyear
    · next h => exact if_neg h ▸ ht

theorem ofLocal?_eq (t : Timestamp) (offset : Int) :
    ofLocal? t offset =
      let minutes : Int := t.hour * 60 + t.minute - offset
      let date := t.dateAt minutes
      if date.1 < minYear ∨ maxYear < date.1 then none
      else some { t with year := date.1, month := date.2.1, day := date.2.2, hour := (minutes % 1440).toNat / 60,
                         minute := (minutes % 1440).toNat % 60 } := rfl

/-- Clocks elsewhere show another time of day, and at most the date before or after. -/
theorem Valid.ofLocal {t t' : Timestamp} (ht : t.Valid) {offset : Int} (h : ofLocal? t offset = some t') : t'.Valid := by
  rw [ofLocal?_eq] at h
  simp only at h
  split at h
  · cases h
  · next hyear =>
    cases h
    have hdate := isDate_dateAt ht.date (t.hour * 60 + t.minute - offset) (by omega)
    exact ⟨hdate, by simp only; omega, by simp only; omega, ht.second, ht.nanos⟩

/-- Nanoseconds are less than a second. -/
theorem fraction?_lt {cs rest : List Char} {n : Nat} (h : fraction? cs = some (n, rest)) : n < 1000000000 := by
  unfold fraction? at h
  split at h
  · next r =>
    simp only at h
    split at h
    · cases h
    · cases h
      have hlen : ((r.takeWhile Char.isDigit).take 9).length ≤ 9 := List.length_take_le _ _
      have hvalue : Decimal.value ((r.takeWhile Char.isDigit).take 9) <
          10 ^ ((r.takeWhile Char.isDigit).take 9).length :=
        Decimal.value_lt fun c hc => List.mem_takeWhile_imp (List.mem_of_mem_take hc)
      calc _ < 10 ^ ((r.takeWhile Char.isDigit).take 9).length * 10 ^ (9 - ((r.takeWhile Char.isDigit).take 9).length) :=
              Nat.mul_lt_mul_of_pos_right hvalue (Nat.pow_pos (by decide))
        _ = 1000000000 := by rw [← Nat.pow_add, Nat.add_sub_cancel' hlen]
  · cases h
    decide

/-! ## Reading in stages -/

/-- The last stage of reading: the fields are checked, and the instant is that of clocks elsewhere. -/
def checked? (t : Timestamp) (offset : Int) (rest : List Char) : Option Timestamp :=
  if !(trimStart rest).isEmpty then none
  else if !isDate t.year t.month t.day || 23 < t.hour || 59 < t.minute || 60 < t.second then none
  else if 1440 ≤ offset.natAbs then none
  else ofLocal? t offset

/-- The stage after the mark between date and time. -/
def timeOn? (year : Int) (month day : Nat) (cs : List Char) : Option Timestamp :=
  (field? cs).bind fun hour => (separator? ':' hour.2).bind fun cs =>
  (field? cs).bind fun minute => (separator? ':' minute.2).bind fun cs =>
  (field? cs).bind fun second => (fraction? second.2).bind fun nanos =>
  (offset? (trimStart nanos.2)).bind fun offset =>
    checked? ⟨year, month, day, hour.1, minute.1, second.1, nanos.1⟩ offset.1 offset.2

theorem parse?_eq (cs : List Char) :
    parse? cs = (year? cs).bind fun year => (separator? '-' year.2).bind fun cs =>
      (field? cs).bind fun month => (separator? '-' month.2).bind fun cs =>
      (field? cs).bind fun day =>
        match day.2 with
        | c :: rest => if isTimeMark c then timeOn? year.1 month.1 day.1 rest else none
        | [] => none := rfl

theorem Valid.checked {t t' : Timestamp} {offset : Int} {rest : List Char} (hnanos : t.nanos < 1000000000)
    (h : checked? t offset rest = some t') : t'.Valid := by
  unfold checked? at h
  split at h
  · cases h
  · split at h
    · cases h
    · next hfields =>
      split at h
      · cases h
      · simp only [Bool.or_eq_true, Bool.not_eq_true', decide_eq_true_eq, not_or, Bool.not_eq_false] at hfields
        obtain ⟨⟨⟨hdate, hhour⟩, hminute⟩, hsecond⟩ := hfields
        exact Valid.ofLocal ⟨hdate, by omega, by omega, by omega, hnanos⟩ h

/-- **Instants that are read are valid.** -/
theorem valid_of_parse? {cs : List Char} {t : Timestamp} (h : parse? cs = some t) : t.Valid := by
  rw [parse?_eq] at h
  simp only [Option.bind_eq_some_iff] at h
  obtain ⟨year, -, cs₁, -, month, -, cs₂, -, day, -, h⟩ := h
  split at h
  · split at h
    · simp only [timeOn?, Option.bind_eq_some_iff] at h
      obtain ⟨hour, -, cs₃, -, minute, -, cs₄, -, second, -, nanos, hnanos, offset, -, h⟩ := h
      exact Valid.checked (fraction?_lt hnanos) h
    · cases h
  · cases h

/-! ## Reading what is written -/

/-- No digit is white space. -/
theorem isBlank_of_isDigit {c : Char} (h : c.isDigit = true) : isBlank c = false := by
  have hrange : 48 ≤ c.toNat ∧ c.toNat ≤ 57 := by
    rw [Char.isDigit, Bool.and_eq_true, decide_eq_true_iff, decide_eq_true_iff] at h
    exact h
  have hdigits : ∀ n ≤ 57, 48 ≤ n → inRanges blankRanges n = false := by decide
  exact hdigits c.toNat hrange.2 hrange.1

theorem trimStart_cons {c : Char} (h : isBlank c = false) (cs : List Char) : trimStart (c :: cs) = c :: cs :=
  List.dropWhile_cons_of_neg (by rw [h]; exact Bool.false_ne_true)

theorem separator?_cons {c : Char} (h : isBlank c = false) (cs : List Char) : separator? c (c :: cs) = some cs := by
  rw [separator?, trimStart_cons h]
  exact if_pos rfl

/-- Digits are read as far as they go, or as far as they may. -/
theorem number?_digits {width : Nat} {ds rest : List Char} (hne : ds ≠ []) (hds : ∀ c ∈ ds, c.isDigit = true)
    (hwidth : ds.length ≤ width) (hrest : Json.Stops (rest.take (width - ds.length))) :
    number? width (ds ++ rest) = some (Decimal.value ds, rest) := by
  have htake : ((ds ++ rest).take width).takeWhile Char.isDigit = ds := by
    rw [List.take_append, List.take_of_length_le hwidth]
    exact (Json.takeWhile_of_stops hds hrest).1
  rw [number?]
  simp only [htake, List.drop_left]
  rw [if_neg (by simpa using hne)]

theorem digits_padded {width : Nat} (n : Nat) : ∀ c ∈ Decimal.padded width n, c.isDigit = true :=
  fun _ => Decimal.isDigit_of_mem_padded

theorem padded_ne_nil {width : Nat} (h : 0 < width) (n : Nat) : Decimal.padded width n ≠ [] := by
  rw [← List.length_pos_iff, Decimal.length_padded]
  exact h

theorem number?_padded {width n : Nat} (hwidth : 0 < width) (hn : n < 10 ^ width) (rest : List Char) :
    number? width (Decimal.padded width n ++ rest) = some (n, rest) := by
  have hstops : Json.Stops (rest.take (width - (Decimal.padded width n).length)) := by
    rw [Decimal.length_padded, Nat.sub_self, List.take_zero]
    exact fun _ _ h => absurd h.symm (List.cons_ne_nil _ _)
  rw [number?_digits (padded_ne_nil hwidth n) (digits_padded n) (Nat.le_of_eq (Decimal.length_padded _ _)) hstops,
    Decimal.value_padded_of_lt hn]

theorem trimStart_digits {ds rest : List Char} (hne : ds ≠ []) (hds : ∀ c ∈ ds, c.isDigit = true) :
    trimStart (ds ++ rest) = ds ++ rest := by
  obtain ⟨d, ds, rfl⟩ := List.exists_cons_of_ne_nil hne
  exact trimStart_cons (isBlank_of_isDigit (hds d List.mem_cons_self)) _

theorem field?_padded {n : Nat} (hn : n < 100) (rest : List Char) :
    field? (Decimal.padded 2 n ++ rest) = some (n, rest) := by
  rw [field?, trimStart_digits (padded_ne_nil (by decide) n) (digits_padded n)]
  exact number?_padded (by decide) hn rest

theorem value_zeros (count : Nat) (ds : List Char) :
    Decimal.value (List.replicate count '0' ++ ds) = Decimal.value ds := by
  induction count with
  | zero => rfl
  | succ count ih => exact ih

/-- Years of more digits have a sign. -/
theorem number?_signed (n : Nat) (rest : List Char) :
    number? (List.replicate (4 - (Decimal.digits n).length) '0' ++ Decimal.digits n ++ '-' :: rest).length
        (List.replicate (4 - (Decimal.digits n).length) '0' ++ Decimal.digits n ++ '-' :: rest) =
      some (n, '-' :: rest) := by
  have hds : ∀ c ∈ List.replicate (4 - (Decimal.digits n).length) '0' ++ Decimal.digits n, c.isDigit = true := by
    intro c hc
    rcases List.mem_append.1 hc with hc | hc
    · rw [List.eq_of_mem_replicate hc]
      rfl
    · exact Decimal.isDigit_of_mem_digits hc
  rw [number?_digits (List.append_ne_nil_of_right_ne_nil _ (Decimal.digits_ne_nil n)) hds, value_zeros,
    Decimal.value_digits]
  · exact (Nat.le_add_right _ _).trans_eq List.length_append.symm
  · intro c more hcs
    rw [List.length_append, Nat.add_sub_cancel_left, List.take_length] at hcs
    obtain ⟨rfl, -⟩ := List.cons.inj hcs
    rfl

theorem year?_digits {ds rest : List Char} (hne : ds ≠ []) (hds : ∀ c ∈ ds, c.isDigit = true) :
    year? (ds ++ rest) = (number? 4 (ds ++ rest)).map fun n => ((n.1 : Int), n.2) := by
  obtain ⟨d, ds, rfl⟩ := List.exists_cons_of_ne_nil hne
  have hd : d.isDigit = true := hds d List.mem_cons_self
  rw [year?, trimStart_digits hne hds, List.cons_append]
  split
  · next heq =>
    obtain ⟨rfl, -⟩ := List.cons.inj heq
    cases hd
  · next heq =>
    obtain ⟨rfl, -⟩ := List.cons.inj heq
    cases hd
  · rfl

/-- A year is read as it was written. -/
theorem year?_chars (year : Int) (rest : List Char) : year? (yearChars year ++ '-' :: rest) = some (year, '-' :: rest) := by
  unfold yearChars
  split
  · -- a year of four digits has no sign
    next hyear =>
    have hlt : year.toNat < 10 ^ 4 := by
      show year.toNat < 10000
      omega
    rw [year?_digits (padded_ne_nil (by decide) _) (digits_padded _), number?_padded (by decide) hlt]
    exact congrArg (fun y => some (y, '-' :: rest)) (Int.toNat_of_nonneg hyear.1)
  · next hyear =>
    by_cases hneg : year < 0
    · have hvalue : -(year.natAbs : Int) = year := by omega
      simp only [if_pos hneg, List.cons_append]
      rw [year?, trimStart_cons (by decide)]
      show (number? _ _).map _ = _
      rw [number?_signed]
      exact congrArg (fun y => some (y, '-' :: rest)) hvalue
    · have hvalue : (year.natAbs : Int) = year := by omega
      simp only [if_neg hneg, List.cons_append]
      rw [year?, trimStart_cons (by decide)]
      show (number? _ _).map _ = _
      rw [number?_signed]
      exact congrArg (fun y => some (y, '-' :: rest)) hvalue

theorem fraction?_padded {width n : Nat} (hwidth : 0 < width) (hnine : width ≤ 9) (hn : n < 10 ^ width) (rest : List Char)
    (hrest : Json.Stops rest) :
    fraction? ('.' :: Decimal.padded width n ++ rest) = some (n * 10 ^ (9 - width), rest) := by
  have htake : (Decimal.padded width n ++ rest).takeWhile Char.isDigit = Decimal.padded width n :=
    (Json.takeWhile_of_stops (digits_padded n) hrest).1
  have hkept : (Decimal.padded width n).take 9 = Decimal.padded width n :=
    List.take_of_length_le (by rwa [Decimal.length_padded])
  rw [List.cons_append, fraction?]
  simp only [htake, hkept, Decimal.length_padded, Decimal.value_padded_of_lt hn]
  rw [if_neg (by simpa using padded_ne_nil hwidth n), List.drop_left' (Decimal.length_padded _ _)]

/-- A fraction is read as it was written. -/
theorem fraction?_chars {nanos : Nat} (h : nanos < 1000000000) (rest : List Char) :
    fraction? (fractionChars nanos ++ 'Z' :: rest) = some (nanos, 'Z' :: rest) := by
  have hrest : Json.Stops ('Z' :: rest) := by
    intro c more hcs
    obtain ⟨rfl, -⟩ := List.cons.inj hcs
    rfl
  unfold fractionChars
  split
  · next hzero =>
    rw [hzero]
    rfl
  · split
    · next hmillis =>
      rw [fraction?_padded (by decide) (by decide) (by omega) _ hrest]
      exact congrArg (fun n => some (n, 'Z' :: rest)) (Nat.div_mul_cancel (Nat.dvd_of_mod_eq_zero hmillis))
    · split
      · next hmicros =>
        rw [fraction?_padded (by decide) (by decide) (by omega) _ hrest]
        exact congrArg (fun n => some (n, 'Z' :: rest)) (Nat.div_mul_cancel (Nat.dvd_of_mod_eq_zero hmicros))
      · rw [fraction?_padded (by decide) (by decide) h _ hrest]
        exact congrArg (fun n => some (n, 'Z' :: rest)) (Nat.mul_one nanos)

/-- Clocks that show universal time. -/
theorem Valid.ofLocal_zero {t : Timestamp} (ht : t.Valid) : ofLocal? t 0 = some t := by
  obtain ⟨hyear, -, -⟩ := isDate_eq_true_iff.1 ht.date
  have hhour := ht.hour
  have hminute := ht.minute
  have hdate : t.dateAt (t.hour * 60 + t.minute - 0) = (t.year, t.month, t.day) := by
    rw [dateAt, if_neg (by omega), if_neg (by omega)]
  have htime : ((t.hour * 60 + t.minute - 0 : Int) % 1440).toNat = t.hour * 60 + t.minute := by omega
  rw [ofLocal?_eq]
  simp only [hdate, htime]
  rw [if_neg (by omega), show (t.hour * 60 + t.minute) / 60 = t.hour by omega,
    show (t.hour * 60 + t.minute) % 60 = t.minute by omega]

theorem Valid.checked_zero {t : Timestamp} (ht : t.Valid) : checked? t 0 [] = some t := by
  have hfields : ¬(!isDate t.year t.month t.day || 23 < t.hour || 59 < t.minute || 60 < t.second) = true := by
    have hhour := ht.hour
    have hminute := ht.minute
    have hsecond := ht.second
    simp only [ht.date, Bool.not_true, Bool.false_or, Bool.or_eq_true, decide_eq_true_eq]
    omega
  rw [checked?, if_neg (by decide), if_neg hfields, if_neg (by decide)]
  exact ht.ofLocal_zero

/-- **The canonical text of an instant is read as this instant.** -/
theorem parse?_chars {t : Timestamp} (ht : t.Valid) : parse? t.chars = some t := by
  obtain ⟨-, ⟨-, hmonth⟩, -, hday⟩ := isDate_eq_true_iff.1 ht.date
  have hdays : daysIn t.year t.month ≤ 31 := by
    unfold daysIn
    split
    · split <;> decide
    · split <;> decide
  have hhour := ht.hour
  have hminute := ht.minute
  have hsecond := ht.second
  -- the time of day, behind the mark between date and time
  have htime : timeOn? t.year t.month t.day (Decimal.padded 2 t.hour ++ ':' :: (Decimal.padded 2 t.minute ++
      ':' :: (Decimal.padded 2 t.second ++ (fractionChars t.nanos ++ ['Z'])))) = some t := by
    rw [timeOn?, field?_padded (by omega), Option.bind_some, separator?_cons (by decide), Option.bind_some,
      field?_padded (by omega), Option.bind_some, separator?_cons (by decide), Option.bind_some,
      field?_padded (by omega), Option.bind_some, fraction?_chars ht.nanos]
    exact ht.checked_zero
  rw [chars, parse?_eq]
  simp only [List.append_assoc, List.cons_append]
  rw [year?_chars, Option.bind_some, separator?_cons (by decide), Option.bind_some, field?_padded (by omega),
    Option.bind_some, separator?_cons (by decide), Option.bind_some, field?_padded (by omega)]
  exact htime

end Timestamp

end GatewayAuth
