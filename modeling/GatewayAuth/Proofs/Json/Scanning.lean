import GatewayAuth.Proofs.Except
import GatewayAuth.Proofs.Json.Grammar

/-!
# `GatewayAuth.Proofs.Json.Scanning` — scanning finds the tree that a text spells

Both directions follow the calls of the scanner, so the induction is on the calls that are left, over values, items and
members together. What is spelled is found if there are twice as many calls as characters. What is found is spelled, or
there is a fault in it that skipping meets too.

## Contents
- `scanValue_of_text`, `scanItems_of_text`, `scanMembers_of_text`: what is spelled is found.
- `scanValue_scanned`, `scanItems_scanned`, `scanMembers_scanned`: what is found is spelled.
- `ofText_of_document`, `document_of_ofText`: the tree of a text; `Document.unique`: there is at most one.
-/

namespace GatewayAuth.Json

/-! ## Blanks -/

theorem skipBlank_append {blanks : List Char} (h : Blanks blanks) (cs : List Char) :
    skipBlank (blanks ++ cs) = skipBlank cs :=
  List.dropWhile_append_of_pos h

theorem skipBlank_cons {c : Char} (h : isBlank c = false) (cs : List Char) : skipBlank (c :: cs) = c :: cs :=
  List.dropWhile_cons_of_neg (Bool.not_eq_true _ ▸ h)

/-- Blanks are skipped up to a character that is none. -/
theorem skipBlank_append_cons {blanks : List Char} (h : Blanks blanks) {c : Char} (hc : isBlank c = false)
    (cs : List Char) : skipBlank (blanks ++ c :: cs) = c :: cs := by
  rw [skipBlank_append h, skipBlank_cons hc]

/-- What is skipped is blank. -/
theorem exists_of_skipBlank (cs : List Char) : ∃ blanks, Blanks blanks ∧ cs = blanks ++ skipBlank cs :=
  ⟨cs.takeWhile isBlank, fun _ hc => List.mem_takeWhile_imp hc, List.takeWhile_append_dropWhile.symm⟩

theorem skipBlank_eq_nil_iff {cs : List Char} : skipBlank cs = [] ↔ Blanks cs :=
  List.dropWhile_eq_nil_iff

theorem Delimited.of_blanks {after : List Char} (hafter : Blanks after) {mark : Char}
    (hmark : mark = ',' ∨ mark = ']' ∨ mark = '\x7d') (rest : List Char) : Delimited (after ++ mark :: rest) := by
  intro c more hcs
  cases after with
  | nil =>
      obtain ⟨rfl, -⟩ := List.cons.inj hcs
      exact .inr hmark
  | cons b after =>
      obtain ⟨rfl, -⟩ := List.cons.inj hcs
      exact .inl (hafter _ List.mem_cons_self)

theorem Delimited.blanks {cs : List Char} (h : Blanks cs) : Delimited cs := by
  rintro c rest rfl
  exact .inl (h c List.mem_cons_self)

/-! ## What is spelled is found -/

theorem scanWord_self (v : Raw) (word rest : List Char) : scanWord v word (word ++ rest) = (v, some rest) := by
  induction word with
  | nil => rfl
  | cons w word ih =>
      rw [List.cons_append, scanWord, if_pos rfl, ih]

theorem scanValue_append (fuel : Nat) {before : List Char} (h : Blanks before) (cs : List Char) :
    scanValue (fuel + 1) (before ++ cs) = scanValue (fuel + 1) cs := by
  rw [scanValue, scanValue, skipBlank_append h]

/-- A numeral starts with a minus sign or a digit. -/
theorem NumeralText.exists_cons {n : Numeral} {cs : List Char} (h : NumeralText n cs) :
    ∃ c more, cs = c :: more ∧ (c = '-' ∨ c.isDigit = true) := by
  obtain ⟨hdigits, -, -, -⟩ := h
  obtain ⟨d, ds, hwhole⟩ := List.exists_cons_of_ne_nil hdigits.1
  have hd : d.isDigit = true := hdigits.2 d (hwhole ▸ List.mem_cons_self)
  rw [hwhole]
  cases n.negative with
  | true => exact ⟨'-', _, rfl, .inl rfl⟩
  | false => exact ⟨d, _, rfl, .inr hd⟩

theorem ne_of_numeral {c mark : Char} (hc : c = '-' ∨ c.isDigit = true) (hmark : mark ≠ '-' ∧ mark.isDigit = false) :
    c ≠ mark := by
  rintro rfl
  rcases hc with rfl | hc
  · exact hmark.1 rfl
  · exact absurd hc (Bool.not_eq_true _ ▸ hmark.2)

theorem isBlank_of_numeral {c : Char} (hc : c = '-' ∨ c.isDigit = true) : isBlank c = false := by
  have hne : ∀ mark, mark ≠ '-' ∧ mark.isDigit = false → c ≠ mark := fun _ => ne_of_numeral hc
  simp [isBlank, hne ' ' (by decide), hne '\n' (by decide), hne '\t' (by decide), hne '\r' (by decide)]

theorem scanValue_numeral (fuel : Nat) {c : Char} (hc : c = '-' ∨ c.isDigit = true) (cs : List Char) :
    scanValue (fuel + 1) (c :: cs) = scanNumeral (c :: cs) := by
  rw [scanValue, skipBlank_cons (isBlank_of_numeral hc)]
  split
  · next heq => cases heq
  · next heq => exact absurd (List.cons.inj heq).1 (ne_of_numeral hc (by decide))
  · next heq => exact absurd (List.cons.inj heq).1 (ne_of_numeral hc (by decide))
  · next heq => exact absurd (List.cons.inj heq).1 (ne_of_numeral hc (by decide))
  · next heq => exact absurd (List.cons.inj heq).1 (ne_of_numeral hc (by decide))
  · next heq => exact absurd (List.cons.inj heq).1 (ne_of_numeral hc (by decide))
  · next heq => exact absurd (List.cons.inj heq).1 (ne_of_numeral hc (by decide))
  · next heq =>
    obtain ⟨rfl, rfl⟩ := List.cons.inj heq
    rw [if_pos hc]

/-- The text of a value starts with a character that is neither blank nor closes an array. -/
theorem Spells.exists_cons {v : Raw} {cs : List Char} (h : Spells v cs) :
    ∃ c more, cs = c :: more ∧ isBlank c = false ∧ c ≠ ']' := by
  cases h with
  | numeral text =>
      obtain ⟨c, more, rfl, hc⟩ := text.exists_cons
      exact ⟨c, more, rfl, isBlank_of_numeral hc, ne_of_numeral hc (by decide)⟩
  | _ => exact ⟨_, _, rfl, rfl, by decide⟩

theorem SpellsAfter.exists_skipBlank {v : Raw} {cs : List Char} (h : SpellsAfter v cs) (rest : List Char) :
    ∃ c more, skipBlank (cs ++ rest) = c :: more ∧ c ≠ ']' := by
  obtain ⟨hbefore, text⟩ := h
  obtain ⟨c, more, rfl, hc, hne⟩ := text.exists_cons
  rw [List.append_assoc, List.cons_append, skipBlank_append_cons hbefore hc]
  exact ⟨c, _, rfl, hne⟩

theorem SpellsItems.exists_skipBlank {items : List Raw} {cs : List Char} (h : SpellsItems items cs) (rest : List Char) :
    ∃ c more, skipBlank (cs ++ rest) = c :: more ∧ c ≠ ']' := by
  cases h with
  | last text hafter =>
      rw [List.append_assoc, List.append_assoc]
      exact text.exists_skipBlank _
  | more text hafter hrest =>
      rw [List.append_assoc, List.append_assoc]
      exact text.exists_skipBlank _

theorem SpellsMembers.exists_skipBlank {members : List (Literal × Raw)} {cs : List Char} (h : SpellsMembers members cs)
    (rest : List Char) : ∃ more, skipBlank (cs ++ rest) = '"' :: more := by
  cases h with
  | last hbefore hname hbeside text hafter =>
      simp only [List.append_assoc, List.cons_append]
      exact ⟨_, skipBlank_append_cons hbefore rfl _⟩
  | more hbefore hname hbeside text hafter hrest =>
      simp only [List.append_assoc, List.cons_append]
      exact ⟨_, skipBlank_append_cons hbefore rfl _⟩

theorem skipBlank_skipBlank (cs : List Char) : skipBlank (skipBlank cs) = skipBlank cs := by
  obtain ⟨blanks, hblanks, hcs⟩ := exists_of_skipBlank cs
  exact (skipBlank_append hblanks _).symm.trans (congrArg skipBlank hcs.symm)

theorem scanValue_skipBlank (fuel : Nat) (cs : List Char) : scanValue fuel (skipBlank cs) = scanValue fuel cs := by
  cases fuel with
  | zero => rfl
  | succ fuel => rw [scanValue, scanValue, skipBlank_skipBlank]

theorem scanItems_skipBlank (fuel : Nat) (cs : List Char) : scanItems fuel (skipBlank cs) = scanItems fuel cs := by
  cases fuel with
  | zero => rfl
  | succ fuel => rw [scanItems, scanItems, scanValue_skipBlank]

theorem scanMembers_skipBlank (fuel : Nat) (cs : List Char) : scanMembers fuel (skipBlank cs) = scanMembers fuel cs := by
  cases fuel with
  | zero => rfl
  | succ fuel => rw [scanMembers, scanMembers, skipBlank_skipBlank]

/-- An array is scanned item by item unless it is closed at once. -/
theorem scanValue_bracket (fuel : Nat) (r : List Char) :
    scanValue (fuel + 1) ('[' :: r) =
      match skipBlank r with
      | [] => (.array [] (some .ended), none)
      | ']' :: rest => (.array [] none, some rest)
      | r' => (.array (scanItems fuel r').1 (scanItems fuel r').2.1, (scanItems fuel r').2.2) := rfl

/-- An object is scanned member by member unless it is closed at once. -/
theorem scanValue_brace (fuel : Nat) (r : List Char) :
    scanValue (fuel + 1) ('\x7b' :: r) =
      match skipBlank r with
      | '\x7d' :: rest => (.object [] none, some rest)
      | r' => (.object (scanMembers fuel r').1 (scanMembers fuel r').2.1, (scanMembers fuel r').2.2) := rfl

theorem scanValue_array {fuel : Nat} {items : List Raw} {cs rest : List Char} (h : SpellsItems items cs)
    (hscan : scanItems fuel (cs ++ rest) = (items, none, some rest)) :
    scanValue (fuel + 1) ('[' :: (cs ++ rest)) = (.array items none, some rest) := by
  obtain ⟨c, more, hskip, hc⟩ := h.exists_skipBlank rest
  rw [← scanItems_skipBlank] at hscan
  rw [scanValue_bracket]
  split
  · next heq => exact absurd (hskip.symm.trans heq) (List.cons_ne_nil _ _)
  · next heq => exact absurd (List.cons.inj (hskip.symm.trans heq)).1 hc
  · rw [hscan]

theorem scanValue_object {fuel : Nat} {members : List (Literal × Raw)} {cs rest : List Char}
    (h : SpellsMembers members cs) (hscan : scanMembers fuel (cs ++ rest) = (members, none, some rest)) :
    scanValue (fuel + 1) ('\x7b' :: (cs ++ rest)) = (.object members none, some rest) := by
  obtain ⟨more, hskip⟩ := h.exists_skipBlank rest
  rw [← scanMembers_skipBlank] at hscan
  rw [scanValue_brace]
  split
  · next heq => exact absurd (List.cons.inj (hskip.symm.trans heq)).1 (by decide)
  · rw [hscan]

/-- What follows an item: the closing bracket, or a comma and more items. -/
def itemsFrom (fuel : Nat) (v : Raw) (rest : List Char) : List Raw × Option Fault × Option (List Char) :=
  match skipBlank rest with
  | [] => ([v], some .ended, none)
  | ',' :: r => (v :: (scanItems fuel r).1, (scanItems fuel r).2.1, (scanItems fuel r).2.2)
  | ']' :: r => ([v], none, some r)
  | _ => ([v], some .malformed, none)

/-- What follows a member: the closing brace, or a comma and more members. -/
def membersFrom (fuel : Nat) (m : Literal × Raw) (rest : List Char) :
    List (Literal × Raw) × Option Fault × Option (List Char) :=
  match skipBlank rest with
  | [] => ([m], some .ended, none)
  | ',' :: r => (m :: (scanMembers fuel r).1, (scanMembers fuel r).2.1, (scanMembers fuel r).2.2)
  | '\x7d' :: r => ([m], none, some r)
  | _ => ([m], some .malformed, none)

theorem scanItems_of_value {fuel : Nat} {v : Raw} {cs rest : List Char} (hvalue : scanValue fuel cs = (v, some rest)) :
    scanItems (fuel + 1) cs = itemsFrom fuel v rest := by
  rw [scanItems, hvalue]
  rfl

theorem scanMembers_of_member {fuel : Nat} {us : List LiteralUnit} {v : Raw} {before name beside cs rest : List Char}
    (hbefore : Blanks before) (hname : LiteralText us name) (hbeside : Blanks beside)
    (hvalue : scanValue fuel cs = (v, some rest)) :
    scanMembers (fuel + 1) (before ++ '"' :: (name ++ (beside ++ ':' :: cs))) =
      membersFrom fuel (⟨us, none⟩, v) rest := by
  rw [scanMembers, skipBlank_append_cons hbefore rfl]
  simp only [Literal.scan_of_text hname, skipBlank_append_cons hbeside (c := ':') rfl, hvalue]
  rfl

mutual
/-- **A value that is spelled is found.** -/
theorem scanValue_of_text : ∀ {fuel : Nat} {v : Raw} {cs rest : List Char}, SpellsAfter v cs → Delimited rest →
    2 * cs.length ≤ fuel → scanValue fuel (cs ++ rest) = (v, some rest)
  | 0, v, cs, rest, h, _, hfuel => by
    obtain ⟨c, more, hskip, -⟩ := h.exists_skipBlank []
    have : cs = [] := List.length_eq_zero_iff.1 (by omega)
    rw [this] at hskip
    cases hskip
  | fuel + 1, _, _, rest, @SpellsAfter.mk _ before cs hbefore text, hrest, hfuel => by
    -- behind the blanks, the first character says which kind of value it is
    rw [List.append_assoc, scanValue_append fuel hbefore]
    rw [List.length_append] at hfuel
    cases text with
    | null => exact scanWord_self .null ['u', 'l', 'l'] rest
    | yes => exact scanWord_self (.bool true) ['r', 'u', 'e'] rest
    | no => exact scanWord_self (.bool false) ['a', 'l', 's', 'e'] rest
    | numeral text =>
        have hscan := scanNumeral_of_text text hrest
        obtain ⟨c, more, rfl, hc⟩ := text.exists_cons
        rw [List.cons_append, scanValue_numeral fuel hc]
        exact hscan
    | @string us cs text =>
        show (Raw.string (Literal.scan (cs ++ rest)).1, (Literal.scan (cs ++ rest)).2) = _
        rw [Literal.scan_of_text text]
    | @emptyArray blanks hblanks =>
        rw [List.append_assoc, List.cons_append, List.singleton_append, scanValue_bracket,
          skipBlank_append_cons hblanks rfl]
        rfl
    | array text =>
        rw [List.length_cons] at hfuel
        exact scanValue_array text (scanItems_of_text text (by omega))
    | @emptyObject blanks hblanks =>
        rw [List.append_assoc, List.cons_append, List.singleton_append, scanValue_brace,
          skipBlank_append_cons hblanks rfl]
        rfl
    | object text =>
        rw [List.length_cons] at hfuel
        exact scanValue_object text (scanMembers_of_text text (by omega))
/-- **Items that are spelled are found.** -/
theorem scanItems_of_text : ∀ {fuel : Nat} {items : List Raw} {cs rest : List Char}, SpellsItems items cs →
    2 * cs.length ≤ fuel → scanItems fuel (cs ++ rest) = (items, none, some rest)
  | 0, _, _, rest, h, hfuel => by
    cases h <;> simp at hfuel
  | fuel + 1, _, _, rest, @SpellsItems.last _ cs after text hafter, hfuel => by
    simp only [List.length_append, List.length_singleton] at hfuel
    have hvalue : scanValue fuel (cs ++ (after ++ ']' :: rest)) = (_, some (after ++ ']' :: rest)) :=
      scanValue_of_text text (.of_blanks hafter (.inr (.inl rfl)) rest) (by omega)
    simp only [List.append_assoc, List.singleton_append]
    rw [scanItems_of_value hvalue, itemsFrom, skipBlank_append_cons hafter rfl]
    rfl
  | fuel + 1, _, _, rest, @SpellsItems.more _ _ cs after more text hafter hrest, hfuel => by
    -- the comma pays for the call that scans the items after it
    simp only [List.length_append, List.length_cons] at hfuel
    have hvalue : scanValue fuel (cs ++ (after ++ ',' :: (more ++ rest))) = (_, some (after ++ ',' :: (more ++ rest))) :=
      scanValue_of_text text (.of_blanks hafter (.inl rfl) (more ++ rest)) (by omega)
    simp only [List.append_assoc, List.cons_append]
    rw [scanItems_of_value hvalue, itemsFrom, skipBlank_append_cons hafter rfl]
    show (_ :: (scanItems fuel (more ++ rest)).1, _, _) = _
    rw [scanItems_of_text hrest (by omega)]
/-- **Members that are spelled are found.** -/
theorem scanMembers_of_text : ∀ {fuel : Nat} {members : List (Literal × Raw)} {cs rest : List Char},
    SpellsMembers members cs → 2 * cs.length ≤ fuel → scanMembers fuel (cs ++ rest) = (members, none, some rest)
  | 0, _, _, rest, h, hfuel => by
    cases h <;> simp at hfuel
  | fuel + 1, _, _, rest, @SpellsMembers.last _ _ _ _ _ cs after hbefore hname hbeside text hafter, hfuel => by
    simp only [List.length_append, List.length_cons, List.length_nil] at hfuel
    have hvalue : scanValue fuel (cs ++ (after ++ '\x7d' :: rest)) = (_, some (after ++ '\x7d' :: rest)) :=
      scanValue_of_text text (.of_blanks hafter (.inr (.inr rfl)) rest) (by omega)
    simp only [List.append_assoc, List.cons_append, List.nil_append]
    rw [scanMembers_of_member hbefore hname hbeside hvalue, membersFrom, skipBlank_append_cons hafter rfl]
    rfl
  | fuel + 1, _, _, rest, @SpellsMembers.more _ _ _ _ _ _ cs after more hbefore hname hbeside text hafter hrest,
      hfuel => by
    simp only [List.length_append, List.length_cons] at hfuel
    have hvalue : scanValue fuel (cs ++ (after ++ ',' :: (more ++ rest))) = (_, some (after ++ ',' :: (more ++ rest))) :=
      scanValue_of_text text (.of_blanks hafter (.inl rfl) (more ++ rest)) (by omega)
    simp only [List.append_assoc, List.cons_append]
    rw [scanMembers_of_member hbefore hname hbeside hvalue, membersFrom, skipBlank_append_cons hafter rfl]
    show (_ :: (scanMembers fuel (more ++ rest)).1, _, _) = _
    rw [scanMembers_of_text hrest (by omega)]
end

/-! ## What is found is spelled -/

theorem close_eq_ok_iff {fault : Option Fault} : close fault = .ok () ↔ fault = none := by
  cases fault with
  | none => exact ⟨fun _ => rfl, fun _ => rfl⟩
  | some f => simp [close]

theorem skip_array_eq_ok_iff {items : List Raw} {fault : Option Fault} :
    (Raw.array items fault).skip = .ok () ↔ skipAll items = .ok () ∧ fault = none := by
  rw [Raw.skip, check_eq_ok_iff, close_eq_ok_iff]

theorem skip_object_eq_ok_iff {members : List (Literal × Raw)} {fault : Option Fault} :
    (Raw.object members fault).skip = .ok () ↔ skipMembers members = .ok () ∧ fault = none := by
  rw [Raw.skip, check_eq_ok_iff, close_eq_ok_iff]

theorem skipAll_cons_eq_ok_iff {v : Raw} {items : List Raw} :
    skipAll (v :: items) = .ok () ↔ v.skip = .ok () ∧ skipAll items = .ok () := by
  rw [skipAll, check_eq_ok_iff]

theorem skipMembers_cons_eq_ok_iff {name : Literal} {v : Raw} {members : List (Literal × Raw)} :
    skipMembers ((name, v) :: members) = .ok () ↔
      name.fault = none ∧ v.skip = .ok () ∧ skipMembers members = .ok () := by
  rw [skipMembers, check_eq_ok_iff, check_eq_ok_iff, close_eq_ok_iff]

/-- What scanning items or members comes to. -/
def ListScanned {α : Type} (skip : List α → Except Fault Unit) (P : List α → List Char → Prop) (cs : List Char) :
    List α × Option Fault × Option (List Char) → Prop
  | (items, fault, some rest) => fault = none ∧ ∃ text, cs = text ++ rest ∧ P items text
  | (items, fault, none) => ¬(skip items = .ok () ∧ fault = none)

theorem ListScanned.front {α : Type} {skip : List α → Except Fault Unit} {P Q : List α → List Char → Prop}
    {cs : List Char} {found : List α × Option Fault × Option (List Char)} (front : List Char)
    (hPQ : ∀ items text, P items text → Q items (front ++ text)) (h : ListScanned skip P cs found) :
    ListScanned skip Q (front ++ cs) found := by
  obtain ⟨items, fault, rest?⟩ := found
  cases rest? with
  | none => exact h
  | some rest =>
      obtain ⟨hfault, text, rfl, hP⟩ := h
      exact ⟨hfault, front ++ text, (List.append_assoc _ _ _).symm, hPQ items text hP⟩

theorem scanWord_scanned (v : Raw) (word cs : List Char) :
    Scanned (fun v' text => v' = v ∧ text = word) cs (scanWord v word cs) := by
  induction word generalizing cs with
  | nil => exact ⟨[], rfl, rfl, rfl⟩
  | cons w word ih =>
      cases cs with
      | nil =>
          intro h
          cases h
      | cons c cs =>
          rw [scanWord]
          split
          · next heq =>
            subst heq
            refine (ih cs).front [w] ?_
            rintro v' text ⟨rfl, rfl⟩
            exact ⟨rfl, rfl⟩
          · intro h
            cases h

theorem Blanks.append {first second : List Char} (hfirst : Blanks first) (hsecond : Blanks second) :
    Blanks (first ++ second) := by
  intro c hc
  rcases List.mem_append.1 hc with h | h
  · exact hfirst c h
  · exact hsecond c h

theorem SpellsAfter.front {v : Raw} {blanks cs : List Char} (hblanks : Blanks blanks) (h : SpellsAfter v cs) :
    SpellsAfter v (blanks ++ cs) := by
  obtain ⟨hbefore, text⟩ := h
  rw [← List.append_assoc]
  exact .mk (hblanks.append hbefore) text

theorem SpellsItems.front {items : List Raw} {blanks cs : List Char} (hblanks : Blanks blanks)
    (h : SpellsItems items cs) : SpellsItems items (blanks ++ cs) := by
  cases h with
  | last text hafter =>
      rw [← List.append_assoc, ← List.append_assoc]
      exact .last (text.front hblanks) hafter
  | more text hafter hrest =>
      rw [← List.append_assoc, ← List.append_assoc]
      exact .more (text.front hblanks) hafter hrest

theorem SpellsMembers.front {members : List (Literal × Raw)} {blanks cs : List Char} (hblanks : Blanks blanks)
    (h : SpellsMembers members cs) : SpellsMembers members (blanks ++ cs) := by
  cases h with
  | last hbefore hname hbeside text hafter =>
      simp only [← List.append_assoc]
      exact .last (hblanks.append hbefore) hname hbeside text hafter
  | more hbefore hname hbeside text hafter hrest =>
      simp only [← List.append_assoc]
      exact .more (hblanks.append hbefore) hname hbeside text hafter hrest

/-! ### From parts to wholes -/

theorem string_scanned {cs : List Char} {found : Literal × Option (List Char)} (h : Literal.Scanned cs found) :
    Scanned Spells ('"' :: cs) (.string found.1, found.2) := by
  obtain ⟨⟨us, fault⟩, rest?⟩ := found
  cases rest? with
  | none => exact fun hskip => h (close_eq_ok_iff.1 hskip)
  | some rest =>
      obtain ⟨rfl, text, rfl, htext⟩ := h
      exact ⟨'"' :: text, rfl, .string htext⟩

theorem array_scanned {cs : List Char} {found : List Raw × Option Fault × Option (List Char)}
    (h : ListScanned skipAll SpellsItems cs found) :
    Scanned Spells ('[' :: cs) (.array found.1 found.2.1, found.2.2) := by
  obtain ⟨items, fault, rest?⟩ := found
  cases rest? with
  | none => exact fun hskip => h (skip_array_eq_ok_iff.1 hskip)
  | some rest =>
      obtain ⟨rfl, text, rfl, htext⟩ := h
      exact ⟨'[' :: text, rfl, .array htext⟩

theorem object_scanned {cs : List Char} {found : List (Literal × Raw) × Option Fault × Option (List Char)}
    (h : ListScanned skipMembers SpellsMembers cs found) :
    Scanned Spells ('\x7b' :: cs) (.object found.1 found.2.1, found.2.2) := by
  obtain ⟨members, fault, rest?⟩ := found
  cases rest? with
  | none => exact fun hskip => h (skip_object_eq_ok_iff.1 hskip)
  | some rest =>
      obtain ⟨rfl, text, rfl, htext⟩ := h
      exact ⟨'\x7b' :: text, rfl, .object htext⟩

theorem itemsFrom_scanned {fuel : Nat} {v : Raw} {text : List Char} (htext : SpellsAfter v text)
    (hmore : ∀ cs, ListScanned skipAll SpellsItems cs (scanItems fuel cs)) (rest : List Char) :
    ListScanned skipAll SpellsItems (text ++ rest) (itemsFrom fuel v rest) := by
  obtain ⟨after, hafter, hrest⟩ := exists_of_skipBlank rest
  unfold itemsFrom
  split
  · exact fun h => by cases h.2
  · next r hmark =>
    rw [hmark] at hrest
    have hitems := hmore r
    generalize scanItems fuel r = found at hitems
    obtain ⟨items, fault, rest?⟩ := found
    cases rest? with
    | none => exact fun h => hitems ⟨(skipAll_cons_eq_ok_iff.1 h.1).2, h.2⟩
    | some last =>
        obtain ⟨rfl, more, rfl, hspells⟩ := hitems
        refine ⟨rfl, _, ?_, .more htext hafter hspells⟩
        rw [hrest, List.append_assoc, List.append_assoc, List.cons_append]
  · next r hmark =>
    rw [hmark] at hrest
    refine ⟨rfl, _, ?_, .last htext hafter⟩
    rw [hrest, List.append_assoc, List.append_assoc, List.singleton_append]
  · exact fun h => by cases h.2

theorem membersFrom_scanned {fuel : Nat} {us : List LiteralUnit} {v : Raw} {before name beside text : List Char}
    (hbefore : Blanks before) (hname : LiteralText us name) (hbeside : Blanks beside) (htext : SpellsAfter v text)
    (hmore : ∀ cs, ListScanned skipMembers SpellsMembers cs (scanMembers fuel cs)) (rest : List Char) :
    ListScanned skipMembers SpellsMembers (before ++ '"' :: (name ++ (beside ++ ':' :: (text ++ rest))))
      (membersFrom fuel (⟨us, none⟩, v) rest) := by
  obtain ⟨after, hafter, hrest⟩ := exists_of_skipBlank rest
  unfold membersFrom
  split
  · exact fun h => by cases h.2
  · next r hmark =>
    rw [hmark] at hrest
    have hmembers := hmore r
    generalize scanMembers fuel r = found at hmembers
    obtain ⟨members, fault, rest?⟩ := found
    cases rest? with
    | none => exact fun h => hmembers ⟨(skipMembers_cons_eq_ok_iff.1 h.1).2.2, h.2⟩
    | some last =>
        obtain ⟨rfl, more, rfl, hspells⟩ := hmembers
        refine ⟨rfl, _, ?_, .more hbefore hname hbeside htext hafter hspells⟩
        simp only [hrest, List.append_assoc, List.cons_append]
  · next r hmark =>
    rw [hmark] at hrest
    refine ⟨rfl, _, ?_, .last hbefore hname hbeside htext hafter⟩
    simp only [hrest, List.append_assoc, List.cons_append, List.nil_append]
  · exact fun h => by cases h.2

/-! ### The scanner -/

mutual
/-- **A value is found as it is spelled.** -/
theorem scanValue_scanned : ∀ (fuel : Nat) (cs : List Char), Scanned SpellsAfter cs (scanValue fuel cs)
  | 0, cs => by
    intro h
    cases h
  | fuel + 1, cs => by
    -- blanks in front belong to the text, so it is enough to look behind them
    suffices hvalue : Scanned Spells (skipBlank cs) (scanValue (fuel + 1) cs) by
      obtain ⟨blanks, hblanks, hcs⟩ := exists_of_skipBlank cs
      have hfront := hvalue.front blanks (Q := SpellsAfter) fun v text h => .mk hblanks h
      rwa [← hcs] at hfront
    rw [scanValue]
    split
    · exact fun h => by cases h
    · next r heq =>
      rw [heq]
      refine (scanWord_scanned .null _ r).front ['n'] ?_
      rintro v text ⟨rfl, rfl⟩
      exact .null
    · next r heq =>
      rw [heq]
      refine (scanWord_scanned (.bool true) _ r).front ['t'] ?_
      rintro v text ⟨rfl, rfl⟩
      exact .yes
    · next r heq =>
      rw [heq]
      refine (scanWord_scanned (.bool false) _ r).front ['f'] ?_
      rintro v text ⟨rfl, rfl⟩
      exact .no
    · next r heq =>
      rw [heq]
      exact string_scanned (Literal.scanned r)
    · next r heq =>
      rw [heq]
      obtain ⟨blanks, hblanks, hr⟩ := exists_of_skipBlank r
      split
      · exact fun h => by cases h
      · next rest hrest =>
        rw [hrest] at hr
        refine ⟨'[' :: blanks ++ [']'], ?_, .emptyArray hblanks⟩
        rw [hr, List.append_assoc]
        rfl
      · have hitems := (scanItems_scanned fuel (skipBlank r)).front blanks (Q := SpellsItems)
          fun items text h => h.front hblanks
        rw [← hr] at hitems
        exact array_scanned hitems
    · next r heq =>
      rw [heq]
      obtain ⟨blanks, hblanks, hr⟩ := exists_of_skipBlank r
      split
      · next rest hrest =>
        rw [hrest] at hr
        refine ⟨'\x7b' :: blanks ++ ['\x7d'], ?_, .emptyObject hblanks⟩
        rw [hr, List.append_assoc]
        rfl
      · have hmembers := (scanMembers_scanned fuel (skipBlank r)).front blanks (Q := SpellsMembers)
          fun members text h => h.front hblanks
        rw [← hr] at hmembers
        exact object_scanned hmembers
    · next c r _ _ _ _ _ _ heq =>
      rw [heq]
      split
      · refine (scanNumeral_scanned (c :: r)).imp ?_
        rintro v text ⟨n, rfl, hn⟩
        exact .numeral hn
      · exact fun h => by cases h
/-- **Items are found as they are spelled.** -/
theorem scanItems_scanned : ∀ (fuel : Nat) (cs : List Char), ListScanned skipAll SpellsItems cs (scanItems fuel cs)
  | 0, cs => by
    rintro ⟨-, h⟩
    cases h
  | fuel + 1, cs => by
    have hvalue := scanValue_scanned fuel cs
    rw [scanItems]
    split
    · next v heq =>
      rw [heq] at hvalue
      exact fun h => hvalue (skipAll_cons_eq_ok_iff.1 h.1).1
    · next v rest heq =>
      rw [heq] at hvalue
      obtain ⟨text, rfl, htext⟩ := hvalue
      exact itemsFrom_scanned htext (scanItems_scanned fuel) rest
/-- **Members are found as they are spelled.** -/
theorem scanMembers_scanned : ∀ (fuel : Nat) (cs : List Char),
    ListScanned skipMembers SpellsMembers cs (scanMembers fuel cs)
  | 0, cs => by
    rintro ⟨-, h⟩
    cases h
  | fuel + 1, cs => by
    obtain ⟨before, hbefore, hcs⟩ := exists_of_skipBlank cs
    rw [scanMembers]
    split
    · exact fun h => by cases h.2
    · next r hquote =>
      have hname := Literal.scanned r
      split
      · next name hscan =>
        rw [hscan] at hname
        exact fun h => hname (skipMembers_cons_eq_ok_iff.1 h.1).1
      · next name rest hscan =>
        rw [hscan] at hname
        obtain ⟨us, fault⟩ := name
        obtain ⟨rfl, nameText, rfl, hnameText⟩ := hname
        obtain ⟨beside, hbeside, hrest⟩ := exists_of_skipBlank rest
        split
        · exact fun h => by cases (skipMembers_cons_eq_ok_iff.1 h.1).2.1
        · next r' hcolon =>
          have hvalue := scanValue_scanned fuel r'
          split
          · next v hscan =>
            rw [hscan] at hvalue
            exact fun h => hvalue (skipMembers_cons_eq_ok_iff.1 h.1).2.1
          · next v rest' hscan =>
            rw [hscan] at hvalue
            obtain ⟨text, rfl, htext⟩ := hvalue
            rw [hcs, hquote, hrest, hcolon]
            exact membersFrom_scanned hbefore hnameText hbeside htext (scanMembers_scanned fuel) rest'
        · exact fun h => by cases (skipMembers_cons_eq_ok_iff.1 h.1).2.1
    · exact fun h => by cases h.2
end

/-! ## Documents -/

/-- **The tree of a text.** What a text spells is found. -/
theorem ofText_of_document {v : Raw} {text : String} (h : Document v text.toList) : Raw.ofText text = (v, false) := by
  obtain ⟨body, after, htext, hspells, hafter⟩ := h
  have hscan : scanValue (2 * text.toList.length + 2) text.toList = (v, some after) := by
    rw [htext]
    refine scanValue_of_text hspells (.blanks hafter) ?_
    rw [List.length_append]
    omega
  rw [Raw.ofText]
  simp only [hscan, skipBlank_eq_nil_iff.2 hafter]
  rfl

/-- A text spells at most one tree. -/
theorem Document.unique {v w : Raw} {cs : List Char} (hv : Document v cs) (hw : Document w cs) : v = w := by
  have h : ∀ {u : Raw}, Document u cs → Raw.ofText (String.ofList cs) = (u, false) := fun h =>
    ofText_of_document (by rwa [String.toList_ofList])
  exact congrArg Prod.fst ((h hv).symm.trans (h hw))

/-- A tree that is found and that skipping has nothing against is spelled, if nothing but blanks follows it. -/
theorem document_of_ofText {v : Raw} {text : String} (h : Raw.ofText text = (v, false)) (hskip : v.skip = .ok ()) :
    Document v text.toList := by
  have hscanned := scanValue_scanned (2 * text.toList.length + 2) text.toList
  rw [Raw.ofText] at h
  generalize scanValue (2 * text.toList.length + 2) text.toList = found at h hscanned
  obtain ⟨w, rest?⟩ := found
  cases rest? with
  | none =>
      cases h
      exact absurd hskip hscanned
  | some rest =>
      obtain ⟨rfl, hrest⟩ := Prod.mk.inj h
      obtain ⟨body, hbody, hspells⟩ := hscanned
      exact ⟨body, rest, hbody, hspells, skipBlank_eq_nil_iff.1 (by simpa using hrest)⟩

end GatewayAuth.Json
