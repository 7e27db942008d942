import GatewayAuth.Proofs.Url.Percent
import GatewayAuth.Url.Basic
import GatewayAuth.Url.Host

/-!
# `GatewayAuth.Proofs.Url.Form` — pairs that go into a query come out of it

A form is read by splitting it at ampersands and each of its pieces at the first equals sign; plus signs are blanks, and
octets may be written by their numbers. Names and values are written such that neither sign occurs in them, so every
list of pairs comes out of its form as it went in, whatever the texts. Pairs that are put at the end of a query come
after those that the query had.

## Contents
- `splitWhere_append`, `splitWhere_of_not`, `splitWhere_intercalate`, `intercalate_splitWhere`: splitting at separators
  undoes joining with them, and joining undoes splitting.
- `isFormChar`, `mem_formEncode`: the characters of a form.
- `readForm`: the pairs of a form.
- `readForm_formChars`, `readForm_appendPairs`: what comes out of a form, and of a query with more pairs at its end.
-/

namespace GatewayAuth.Url

/-! ## Splitting at separators -/

section
variable {α : Type} {p : α → Bool}

theorem splitWhere_ne_nil (p : α → Bool) (l : List α) : splitWhere p l ≠ [] := by
  cases l with
  | nil => nofun
  | cons a rest =>
      rw [splitWhere]
      split
      · nofun
      · split <;> nofun

/-- A separator ends a part. -/
theorem splitWhere_cons_of_pos {a : α} (h : p a = true) (rest : List α) :
    splitWhere p (a :: rest) = [] :: splitWhere p rest := by
  obtain ⟨part, parts, heq⟩ := List.exists_cons_of_ne_nil (splitWhere_ne_nil p rest)
  rw [splitWhere, heq]
  exact if_pos h

/-- Anything else belongs to the part that it stands in. -/
theorem splitWhere_cons_of_neg {a : α} (h : p a = false) {rest part : List α} {parts : List (List α)}
    (heq : splitWhere p rest = part :: parts) :
    splitWhere p (a :: rest) = (a :: part) :: parts := by
  rw [splitWhere, heq]
  exact if_neg (by simp [h])

/-- What has no separator is one part. -/
theorem splitWhere_of_not {l : List α} (h : ∀ a ∈ l, p a = false) : splitWhere p l = [l] := by
  induction l with
  | nil => rfl
  | cons a rest ih =>
      have hrest := ih fun b hb => h b (List.mem_cons_of_mem _ hb)
      exact splitWhere_cons_of_neg (h a List.mem_cons_self) hrest

/-- **The parts on either side of a separator are split apart from each other.** -/
theorem splitWhere_append {b : α} (h : p b = true) (l rest : List α) :
    splitWhere p (l ++ b :: rest) = splitWhere p l ++ splitWhere p rest := by
  induction l with
  | nil => exact splitWhere_cons_of_pos h rest
  | cons a l ih =>
      by_cases ha : p a = true
      · rw [List.cons_append, splitWhere_cons_of_pos ha, splitWhere_cons_of_pos ha, ih]
        rfl
      · have ha : p a = false := by simpa using ha
        obtain ⟨part, parts, heq⟩ := List.exists_cons_of_ne_nil (splitWhere_ne_nil p l)
        rw [heq] at ih
        rw [splitWhere_cons_of_neg ha heq]
        exact splitWhere_cons_of_neg ha ih

/-- No part has a separator in it. -/
theorem not_of_mem_splitWhere {l part : List α} (hpart : part ∈ splitWhere p l) {a : α} (ha : a ∈ part) :
    p a = false := by
  induction l generalizing part with
  | nil =>
      rw [splitWhere, List.mem_singleton] at hpart
      subst hpart
      cases ha
  | cons b rest ih =>
      by_cases hb : p b = true
      · rw [splitWhere_cons_of_pos hb] at hpart
        rcases List.mem_cons.1 hpart with rfl | hpart
        · cases ha
        · exact ih hpart ha
      · have hb : p b = false := by simpa using hb
        obtain ⟨first, parts, heq⟩ := List.exists_cons_of_ne_nil (splitWhere_ne_nil p rest)
        rw [splitWhere_cons_of_neg hb heq] at hpart
        rw [heq] at ih
        rcases List.mem_cons.1 hpart with rfl | hpart
        · rcases List.mem_cons.1 ha with rfl | ha
          · exact hb
          · exact ih List.mem_cons_self ha
        · exact ih (List.mem_cons_of_mem _ hpart) ha

/-- Splitting what is joined from parts splits each of the parts. -/
theorem splitWhere_intercalate {b : α} (h : p b = true) {parts : List (List α)} (hsome : parts ≠ []) :
    splitWhere p ([b].intercalate parts) = parts.flatMap (splitWhere p) := by
  induction parts with
  | nil => exact absurd rfl hsome
  | cons part rest ih =>
      cases rest with
      | nil => rw [List.intercalate_singleton, List.flatMap_singleton]
      | cons next more =>
          have hrest := ih (List.cons_ne_nil next more)
          rw [List.intercalate_cons_cons, List.append_assoc, List.singleton_append, splitWhere_append h, hrest,
            ← List.flatMap_cons]

/-- Joining the parts of a list gives the list back, if there is one separator only. -/
theorem intercalate_splitWhere {b : α} (h : ∀ a, p a = true → a = b) (l : List α) :
    [b].intercalate (splitWhere p l) = l := by
  induction l with
  | nil => rfl
  | cons a rest ih =>
      obtain ⟨part, parts, heq⟩ := List.exists_cons_of_ne_nil (splitWhere_ne_nil p rest)
      by_cases ha : p a = true
      · rw [splitWhere_cons_of_pos ha, heq, List.intercalate_cons_cons, ← heq, ih, h a ha]
        rfl
      · have ha : p a = false := by simpa using ha
        rw [heq] at ih
        rw [splitWhere_cons_of_neg ha heq, ← ih]
        cases parts with
        | nil => rw [List.intercalate_singleton, List.intercalate_singleton]
        | cons next more =>
            rw [List.intercalate_cons_cons, List.intercalate_cons_cons]
            rfl

end

/-! ## The characters of a form -/

/-- Whether a character may stand in a name or a value of a form. -/
def isFormChar (c : Char) : Bool := c.isAlphanum || ['*', '-', '.', '_', '+', '%'].contains c

/-- They are ASCII characters. -/
theorem lt_of_isFormChar {c : Char} (h : isFormChar c = true) : c.toNat < 128 := by
  unfold isFormChar at h
  rcases Bool.or_eq_true_iff.1 h with h | h
  · delta Char.isAlphanum Char.isAlpha Char.isUpper Char.isLower Char.isDigit at h
    simp only [Bool.or_eq_true, Bool.and_eq_true, decide_eq_true_eq, UInt32.le_iff_toNat_le, ge_iff_le] at h
    have hupper : 'Z'.val.toNat = 90 := rfl
    have hlower : 'z'.val.toNat = 122 := rfl
    have hdigit : '9'.val.toNat = 57 := rfl
    have hc : c.toNat = c.val.toNat := rfl
    omega
  · simp only [List.contains_iff_mem, List.mem_cons, List.not_mem_nil, or_false] at h
    rcases h with rfl | rfl | rfl | rfl | rfl | rfl <;> decide

/-- What holds of the ASCII characters by their numbers holds of each of them. -/
theorem of_ascii {P : Char → Prop} (hP : ∀ n < 128, P (Char.ofNat n)) {c : Char} (h : c.toNat < 128) : P c := by
  have hc := hP c.toNat h
  rw [Char.ofNat_toNat] at hc
  exact hc

/-- What holds of the ASCII characters of a form holds of all its characters. -/
theorem of_isFormChar {P : Char → Prop} (hP : ∀ n < 128, isFormChar (Char.ofNat n) = true → P (Char.ofNat n))
    {c : Char} (h : isFormChar c = true) : P c :=
  of_ascii (P := fun c => isFormChar c = true → P c) hP (lt_of_isFormChar h) h

theorem ne_of_isFormChar {c : Char} (h : isFormChar c = true) : c ≠ '&' ∧ c ≠ '=' :=
  of_isFormChar (P := fun c => c ≠ '&' ∧ c ≠ '=') (by decide) h

theorem isFormChar_of_mem_escapes {c : Char} (h : c ∈ Percent.escapes) : isFormChar c = true := by
  have hall : Percent.escapes.all isFormChar = true := by decide
  exact List.all_eq_true.1 hall c h

theorem mem_formEncode {s : String} {c : Char} (h : c ∈ formEncode s) : isFormChar c = true := by
  obtain ⟨d, hd, rfl⟩ := List.mem_map.1 h
  by_cases hblank : d = ' '
  · rw [if_pos hblank]
    rfl
  · rw [if_neg hblank]
    rcases Percent.mem_encode hd with ⟨-, hplain⟩ | hescape
    · unfold Percent.inForm at hplain
      simp only [Bool.not_eq_false', Bool.or_eq_true, List.contains_iff_mem, List.mem_cons,
        List.not_mem_nil, or_false] at hplain
      unfold isFormChar
      simp only [Bool.or_eq_true, List.contains_iff_mem, List.mem_cons, List.not_mem_nil, or_false]
      grind
    · exact isFormChar_of_mem_escapes hescape

theorem formEncode_ne_nil {s : String} (h : s ≠ "") : formEncode s ≠ [] := by
  have hsome : s.toList ≠ [] := by simpa using h
  unfold formEncode
  simpa using Percent.encode_ne_nil hsome

/-! ## Reading a form -/

/-- The text that a name or a value of a form stands for, if its octets are those of a text. -/
def formDecode? (cs : List Char) : Option String :=
  (Percent.decode? (cs.map fun c => if c = '+' then ' ' else c)).map String.ofList

/-- A piece of a form as a name and a value. -/
def readPair? (cs : List Char) : Option (String × String) :=
  match formDecode? (cs.takeWhile (· ≠ '=')), formDecode? (cs.dropWhile (· ≠ '=')).tail with
  | some name, some value => some (name, value)
  | _, _ => none

/-- The pairs of a form; pieces without a character are passed over. -/
def readForm (cs : List Char) : List (Option (String × String)) :=
  ((splitWhere (· == '&') cs).filter fun piece => !piece.isEmpty).map readPair?

/-- **Reading a name or a value gives the text back.** -/
theorem formDecode?_formEncode (s : String) : formDecode? (formEncode s) = some s := by
  have hback : (formEncode s).map (fun c => if c = '+' then ' ' else c) =
      Percent.encode Percent.inForm s.toList := by
    unfold formEncode
    rw [List.map_map]
    refine (List.map_congr_left fun c hc => ?_).trans (List.map_id _)
    -- a plus sign in the form is a blank, since a plus sign of the text is escaped
    have hplus : c ≠ '+' := by
      rintro rfl
      rcases Percent.mem_encode hc with ⟨-, hplain⟩ | hescape
      · exact absurd hplain (by decide)
      · exact absurd hescape (by decide)
    show (if (if c = ' ' then '+' else c) = '+' then ' ' else (if c = ' ' then '+' else c)) = c
    by_cases hblank : c = ' '
    · simp [hblank]
    · simp [hblank, hplus]
  unfold formDecode?
  rw [hback, Percent.decode?_encode (by decide)]
  show some (String.ofList s.toList) = some s
  rw [String.ofList_toList]

theorem readPair?_pairChars (pair : String × String) : readPair? (pairChars pair) = some pair := by
  have hname : ∀ c ∈ formEncode pair.1, decide (c ≠ '=') = true := by
    intro c hc
    simpa using (ne_of_isFormChar (mem_formEncode hc)).2
  have htake : (pairChars pair).takeWhile (fun c => decide (c ≠ '=')) = formEncode pair.1 := by
    unfold pairChars
    rw [List.takeWhile_append_of_pos hname]
    simp
  have hdrop : (pairChars pair).dropWhile (fun c => decide (c ≠ '=')) = '=' :: formEncode pair.2 := by
    unfold pairChars
    rw [List.dropWhile_append_of_pos hname]
    simp
  unfold readPair?
  rw [htake, hdrop, List.tail_cons, formDecode?_formEncode, formDecode?_formEncode]

theorem readForm_pairChars (pair : String × String) : readForm (pairChars pair) = [some pair] := by
  have hpiece : ∀ c ∈ pairChars pair, (c == '&') = false := by
    intro c hc
    unfold pairChars at hc
    rcases List.mem_append.1 hc with hc | hc
    · simpa using (ne_of_isFormChar (mem_formEncode hc)).1
    · rcases List.mem_cons.1 hc with rfl | hc
      · rfl
      · simpa using (ne_of_isFormChar (mem_formEncode hc)).1
  have hsome : (pairChars pair).isEmpty = false := by simp [pairChars]
  unfold readForm
  rw [splitWhere_of_not hpiece]
  simp [hsome, readPair?_pairChars]

/-- What stands on either side of an ampersand is read apart from each other. -/
theorem readForm_append (cs rest : List Char) :
    readForm (cs ++ '&' :: rest) = readForm cs ++ readForm rest := by
  unfold readForm
  rw [splitWhere_append (by rfl), List.filter_append, List.map_append]

/-- **Pairs come out of their form as they went in.** -/
theorem readForm_formChars (pairs : List (String × String)) :
    readForm (formChars pairs) = pairs.map some := by
  induction pairs with
  | nil => rfl
  | cons pair rest ih =>
      cases rest with
      | nil => exact readForm_pairChars pair
      | cons next more =>
          show readForm (pairChars pair ++ '&' :: formChars (next :: more)) = _
          rw [readForm_append, readForm_pairChars, ih]
          rfl

/-! ## Where a pair stands -/

/-- A pair stands at the front of a form or behind an ampersand. What is around it does not depend on its value. -/
theorem exists_formChars (before : List (String × String)) (name : String) (after : List (String × String)) :
    ∃ front rest, (front = [] ∨ ∃ most, front = most ++ ['&']) ∧
      ∀ v, formChars (before ++ (name, v) :: after) =
        front ++ (formEncode name ++ '=' :: (formEncode v ++ rest)) := by
  induction before with
  | nil =>
      cases after with
      | nil =>
          refine ⟨[], [], .inl rfl, fun v => ?_⟩
          rw [List.append_nil]
          rfl
      | cons next more =>
          refine ⟨[], '&' :: formChars (next :: more), .inl rfl, fun v => ?_⟩
          show formEncode name ++ '=' :: formEncode v ++ '&' :: formChars (next :: more) = _
          rw [List.append_assoc, List.cons_append]
          rfl
  | cons pair pairs ih =>
      obtain ⟨front, rest, hfront, hform⟩ := ih
      refine ⟨pairChars pair ++ '&' :: front, rest, .inr ?_, fun v => ?_⟩
      · rcases hfront with rfl | ⟨most, rfl⟩
        · exact ⟨pairChars pair, rfl⟩
        · exact ⟨pairChars pair ++ '&' :: most, by simp⟩
      · have hsome : ∃ next more, pairs ++ (name, v) :: after = next :: more :=
          List.exists_cons_of_ne_nil (by simp)
        obtain ⟨next, more, hmore⟩ := hsome
        have hnext := hform v
        rw [hmore] at hnext
        show formChars (pair :: (pairs ++ (name, v) :: after)) = _
        rw [hmore]
        show pairChars pair ++ '&' :: formChars (next :: more) = _
        rw [hnext, List.append_assoc, List.cons_append]

/-- A query stands somewhere in the text of a URL. -/
theorem exists_chars_of_query (u : Url) :
    ∃ front back, ∀ query, ({ u with query := some query } : Url).chars = front ++ '?' :: query ++ back := by
  have huser : ∀ query, ({ u with query := some query } : Url).userChars = u.userChars := fun _ => rfl
  have hpath : ∀ query, ({ u with query := some query } : Url).pathChars = u.pathChars := fun _ => rfl
  simp only [chars, huser, hpath]
  exact ⟨_, _, fun _ => rfl⟩

/-- In a query it stands behind the question mark or an ampersand, … -/
theorem exists_query_appendPairs (u : Url) (before : List (String × String)) (name : String)
    (after : List (String × String)) :
    ∃ most c rest, (c = '&' ∨ c = '?') ∧ ∀ v, ∃ query,
      (u.appendPairs (before ++ (name, v) :: after)).query = some query ∧
        '?' :: query = most ++ c :: (formEncode name ++ '=' :: (formEncode v ++ rest)) := by
  obtain ⟨front, rest, hfront, hform⟩ := exists_formChars before name after
  have hsome : ∀ v, (before ++ (name, v) :: after).isEmpty = false := by simp
  by_cases hnone : (u.query.getD []).isEmpty = true
  · have hquery : ∀ v, (u.appendPairs (before ++ (name, v) :: after)).query =
        some (front ++ (formEncode name ++ '=' :: (formEncode v ++ rest))) := by
      intro v
      unfold appendPairs
      simp only [hnone, true_or, if_true, Option.some.injEq]
      rw [List.isEmpty_iff.1 hnone, List.nil_append, hform]
    rcases hfront with rfl | ⟨most, rfl⟩
    · exact ⟨[], '?', rest, .inr rfl, fun v => ⟨_, hquery v, rfl⟩⟩
    · exact ⟨'?' :: most, '&', rest, .inl rfl, fun v => ⟨_, hquery v, by simp⟩⟩
  · have hquery : ∀ v, (u.appendPairs (before ++ (name, v) :: after)).query =
        some (u.query.getD [] ++ '&' :: (front ++ (formEncode name ++ '=' :: (formEncode v ++ rest)))) := by
      intro v
      unfold appendPairs
      simp only [hnone, hsome, false_or, if_false, Bool.false_eq_true, Option.some.injEq]
      rw [hform]
    rcases hfront with rfl | ⟨most, rfl⟩
    · exact ⟨'?' :: u.query.getD [], '&', rest, .inl rfl, fun v => ⟨_, hquery v, rfl⟩⟩
    · exact ⟨'?' :: (u.query.getD [] ++ '&' :: most), '&', rest, .inl rfl,
        fun v => ⟨_, hquery v, by simp⟩⟩

/-- … and so it does in a URL. -/
theorem exists_chars_appendPairs (u : Url) (before : List (String × String)) (name : String)
    (after : List (String × String)) :
    ∃ front c rest, (c = '&' ∨ c = '?') ∧
      ∀ v, (u.appendPairs (before ++ (name, v) :: after)).chars =
        front ++ c :: (formEncode name ++ '=' :: (formEncode v ++ rest)) := by
  obtain ⟨most, c, rest, hc, hquery⟩ := exists_query_appendPairs u before name after
  obtain ⟨front, back, hchars⟩ := exists_chars_of_query u
  refine ⟨front ++ most, c, rest ++ back, hc, fun v => ?_⟩
  obtain ⟨query, hsome, htext⟩ := hquery v
  have hu : u.appendPairs (before ++ (name, v) :: after) = { u with query := some query } := by
    rw [← hsome]
    rfl
  rw [hu, hchars, htext]
  simp only [List.append_assoc, List.cons_append]

/-! ## Queries -/

/-- More parts of the path leave the query as it is. -/
@[simp] theorem query_extend (u : Url) (parts : List (List Char)) : (u.extend parts).query = u.query := by
  unfold extend
  induction parts generalizing u with
  | nil => rfl
  | cons part rest ih =>
      rw [List.foldl_cons, ih]
      unfold push
      split <;> rfl

@[simp] theorem query_popIfEmpty (u : Url) : u.popIfEmpty.query = u.query := by
  unfold popIfEmpty
  split <;> rfl

/-- **Pairs at the end of a query come after those that it had.** -/
theorem readForm_appendPairs (u : Url) (pairs : List (String × String)) :
    ∃ query, (u.appendPairs pairs).query = some query ∧
      readForm query = readForm (u.query.getD []) ++ pairs.map some := by
  refine ⟨_, rfl, ?_⟩
  split
  · next hjoined =>
    rcases hjoined with hnone | hnone
    · rw [List.isEmpty_iff.1 hnone, List.nil_append, readForm_formChars]
      rfl
    · rw [List.isEmpty_iff.1 hnone]
      show readForm (u.query.getD [] ++ []) = readForm (u.query.getD []) ++ []
      rw [List.append_nil, List.append_nil]
  · rw [readForm_append, readForm_formChars]

end GatewayAuth.Url
