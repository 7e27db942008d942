import GatewayAuth.Proofs.Json.Documents

/-!
# `GatewayAuth.Proofs.Json.Layout` — values as they are written, and as they are read again

What is written of a value is the text of a tree: strings with the escapes that they need, whole numbers with all their
digits, lists and objects with their parts on lines of their own. Reading this tree gives the value back, if it is one
that has been read before: its numbers are then within 64 bits, its members sorted by name, and it is not nested too
deeply. Doubles are left out; they are not written exactly.

## Contents
- `Literal.of`, `Numeral.of`: strings and whole numbers as they are written; `Literal.text_of`, `Numeral.number_of`: as
  they are read again.
- `Value.FloatFree`, `Value.toRaw`: values without doubles, and their trees.
- `Value.spelled`: the layout of a value is the text of its tree.
- `Value.ofRaw_toRaw`: a value that has been read is read again.
-/

namespace GatewayAuth.Json

/-! ## Strings -/

/-- The unit that a character is written as. -/
def LiteralUnit.of (c : Char) : LiteralUnit :=
  if c = '"' ∨ c = '\\' ∨ c = '\x08' ∨ c = '\x0c' ∨ c = '\n' ∨ c = '\r' ∨ c = '\t' then .escaped c
  else if c < ' ' then .code c.toNat
  else .plain c

/-- The literal that a string is written as. -/
def Literal.of (s : String) : Literal := ⟨s.toList.map LiteralUnit.of, none⟩

/-- The tree of an object with such literals as names. -/
def Raw.ofMembers (members : List (String × Raw)) : Raw := .object (members.map fun m => (.of m.1, m.2)) none

theorem lt_blank_iff {c : Char} : c < ' ' ↔ c.toNat < 32 := Iff.rfl

/-- Control characters are written with their code. -/
theorem hexUnit?_control : ∀ n < 32, hexUnit? '0' '0' (hexDigit (n / 16)) (hexDigit (n % 16)) = some n := by
  decide

theorem LiteralUnit.spelled (c : Char) : UnitText (.of c) (escapedChars c) := by
  by_cases hescaped : c = '"' ∨ c = '\\' ∨ c = '\x08' ∨ c = '\x0c' ∨ c = '\n' ∨ c = '\r' ∨ c = '\t'
  · rw [LiteralUnit.of, if_pos hescaped]
    rcases hescaped with rfl | rfl | rfl | rfl | rfl | rfl | rfl
    · exact .escaped rfl
    · exact .escaped rfl
    · exact .escaped rfl
    · exact .escaped rfl
    · exact .escaped rfl
    · exact .escaped rfl
    · exact .escaped rfl
  · rw [LiteralUnit.of, if_neg hescaped]
    simp only [not_or] at hescaped
    obtain ⟨hquote, hbackslash, hb, hf, hn, hr, ht⟩ := hescaped
    rw [escapedChars, if_neg hquote, if_neg hbackslash, if_neg hb, if_neg hf, if_neg hn, if_neg hr, if_neg ht]
    by_cases hcontrol : c < ' '
    · rw [if_pos hcontrol, if_pos hcontrol]
      exact .code (hexUnit?_control c.toNat (lt_blank_iff.1 hcontrol))
    · rw [if_neg hcontrol, if_neg hcontrol]
      exact .plain hcontrol hquote hbackslash

/-- **A string is written as its literal.** -/
theorem Literal.spelled (s : String) : LiteralText (Literal.of s).units (s.toList.flatMap escapedChars ++ ['"']) := by
  show LiteralText (s.toList.map LiteralUnit.of) _
  induction s.toList with
  | nil => exact .closed
  | cons c cs ih =>
      rw [List.flatMap_cons, List.append_assoc]
      exact .unit (LiteralUnit.spelled c) ih

theorem literalChars_code {fault : Option Fault} {unit : Nat} (htrailing : isTrailing unit = false)
    (hleading : isLeading unit = false) (us : List LiteralUnit) :
    literalChars fault (.code unit :: us) = (literalChars fault us).map (Char.ofNat unit :: ·) := by
  rw [literalChars.eq_def]
  simp only [htrailing, hleading, Bool.false_eq_true, if_false]

theorem literalChars_of (cs : List Char) : literalChars none (cs.map LiteralUnit.of) = .ok cs := by
  induction cs with
  | nil => rfl
  | cons c cs ih =>
      rw [List.map_cons, LiteralUnit.of]
      split
      · rw [literalChars, ih]
        rfl
      · split
        · next hcontrol =>
          have hlt : c.toNat < 32 := lt_blank_iff.1 hcontrol
          have htrailing : isTrailing c.toNat = false := by simp [isTrailing]; omega
          have hleading : isLeading c.toNat = false := by simp [isLeading]; omega
          rw [literalChars_code htrailing hleading, ih, Char.ofNat_toNat]
          rfl
        · rw [literalChars, ih]
          rfl

/-- **A string is read as it was written.** -/
theorem Literal.text_of (s : String) : (Literal.of s).text = .ok s := by
  show (literalChars none (s.toList.map LiteralUnit.of)).map String.ofList = _
  rw [literalChars_of]
  exact congrArg Except.ok (String.ofList_toList)

/-! ## Whole numbers -/

/-- The numeral that a whole number is written as. -/
def Numeral.of (i : Int) : Numeral := ⟨decide (i < 0), Decimal.digits i.natAbs, [], none⟩

theorem isDigits_digits (n : Nat) : IsDigits (Decimal.digits n) :=
  ⟨Decimal.digits_ne_nil n, fun _ hc => Decimal.isDigit_of_mem_digits hc⟩

/-- Only zero starts with a zero. -/
theorem head_digits {n : Nat} (hn : 0 < n) : ∃ d ds, Decimal.digits n = d :: ds ∧ d ≠ '0' := by
  induction n using Nat.strongRecOn with
  | _ n ih =>
    by_cases h : n < 10
    · refine ⟨_, [], Decimal.digits_of_lt h, ?_⟩
      have hne : ∀ m < 10, 0 < m → Nat.digitChar m ≠ '0' := by decide
      exact hne n h hn
    · have hle : 10 ≤ n := Nat.le_of_not_lt h
      obtain ⟨d, ds, hds, hd⟩ := ih (n / 10) (by omega) (by omega)
      exact ⟨d, ds ++ _, by rw [Decimal.digits_of_le hle, hds, List.cons_append], hd⟩

theorem Numeral.of_ofNat (n : Nat) : Numeral.of (.ofNat n) = ⟨false, Decimal.digits n, [], none⟩ := by
  simp [Numeral.of]

theorem Numeral.of_negSucc (n : Nat) : Numeral.of (.negSucc n) = ⟨true, Decimal.digits (n + 1), [], none⟩ := by
  simp [Numeral.of, Int.negSucc_lt_zero]

/-- **A whole number is written as its numeral.** -/
theorem Numeral.spelled (i : Int) : NumeralText (.of i) (Decimal.intChars i) := by
  have hleading : ∀ n ds, Decimal.digits n = '0' :: ds → ds = [] := by
    intro n ds hds
    rcases Nat.eq_zero_or_pos n with rfl | hn
    · exact (List.cons.inj hds).2.symm
    · obtain ⟨d, ds', hds', hd⟩ := head_digits hn
      exact absurd (List.cons.inj (hds'.symm.trans hds)).1 hd
  have htext : ∀ negative n, NumeralText ⟨negative, Decimal.digits n, [], none⟩
      ((if negative then ['-'] else []) ++ Decimal.digits n) := by
    intro negative n
    have h := NumeralText.mk (n := ⟨negative, Decimal.digits n, [], none⟩) (isDigits_digits n) (hleading n) .none .none
    simpa using h
  cases i with
  | ofNat n =>
      rw [Numeral.of_ofNat]
      exact htext false n
  | negSucc n =>
      rw [Numeral.of_negSucc]
      exact htext true (n + 1)

theorem significand_eq {total : Nat} {ds : List Char}
    (h : ds.foldl (fun n c => n * 10 + Decimal.digitValue c) total ≤ maxSignificand) :
    significand total ds = (ds.foldl (fun n c => n * 10 + Decimal.digitValue c) total, 0) := by
  -- the number only grows with further digits, so none of them is left out
  have hgrows : ∀ (ds : List Char) (total : Nat), total ≤ ds.foldl (fun n c => n * 10 + Decimal.digitValue c) total := by
    intro ds
    induction ds with
    | nil => exact fun total => Nat.le_refl total
    | cons c ds ih =>
        intro total
        have hstep : total ≤ total * 10 + Decimal.digitValue c := by omega
        exact Nat.le_trans hstep (ih _)
  induction ds generalizing total with
  | nil => rfl
  | cons c ds ih =>
      rw [List.foldl_cons] at h ⊢
      rw [significand, if_pos (Nat.le_trans (hgrows ds _) h)]
      exact ih h

theorem significand_digits {n : Nat} (h : n ≤ maxSignificand) : significand 0 (Decimal.digits n) = (n, 0) := by
  have hvalue : (Decimal.digits n).foldl (fun n c => n * 10 + Decimal.digitValue c) 0 = n := Decimal.value_digits n
  rw [significand_eq (by rw [hvalue]; exact h), hvalue]

/-- The whole numbers that stay exact. -/
def IsExact (i : Int) : Prop := -9223372036854775808 ≤ i ∧ i ≤ 18446744073709551615

/-- **A whole number is read as it was written.** -/
theorem Numeral.number_of {i : Int} (h : IsExact i) : (Numeral.of i).number = some (.int i) := by
  obtain ⟨hlow, hhigh⟩ := h
  cases i with
  | ofNat n =>
      have hn : n ≤ maxSignificand := by
        have : (n : Int) ≤ 18446744073709551615 := hhigh
        show n ≤ 18446744073709551615
        omega
      rw [Numeral.of_ofNat, Numeral.number]
      simp only [significand_digits hn]
      rfl
  | negSucc n =>
      have hn : n + 1 ≤ 9223372036854775808 := by omega
      have hmax : n + 1 ≤ maxSignificand := Nat.le_trans hn (by decide)
      rw [Numeral.of_negSucc, Numeral.number]
      simp only [significand_digits hmax, significand]
      rw [if_pos ⟨trivial, trivial⟩, if_neg (by decide), if_neg (by omega)]
      rfl

theorem significand_le {total : Nat} (h : total ≤ maxSignificand) (ds : List Char) :
    (significand total ds).1 ≤ maxSignificand := by
  induction ds generalizing total with
  | nil => exact h
  | cons c ds ih =>
      rw [significand]
      split
      · next hnext => exact ih hnext
      · exact h

/-- Whole numbers that are read are exact. -/
theorem Numeral.isExact_of_number {n : Numeral} {i : Int} (h : n.number = some (.int i)) : IsExact i := by
  have hwhole : (significand 0 n.whole).1 ≤ maxSignificand := significand_le (Nat.zero_le _) _
  have hsig := significand_le hwhole n.fraction
  have hfloat : ∀ {x? : Option Float}, x?.map Number.float ≠ some (.int i) := by
    intro x? hx
    obtain ⟨x, -, hx⟩ := Option.map_eq_some_iff.1 hx
    cases hx
  rw [Numeral.number] at h
  simp only at h
  split at h
  · split at h
    · split at h
      · cases h
      · cases h
    · exact absurd h hfloat
  · split at h
    · split at h
      · cases h
        have hmax : (significand (significand 0 n.whole).1 n.fraction).1 ≤ 18446744073709551615 := hsig
        exact ⟨by omega, by omega⟩
      · split at h
        · cases h
        · cases h
          exact ⟨by omega, by omega⟩
    · exact absurd h hfloat

/-! ## Values -/

mutual
/-- A value without doubles. -/
def Value.FloatFree : Value → Prop
  | .number (.float _) => False
  | .array items => ItemsFloatFree items
  | .object members => MembersFloatFree members
  | _ => True
/-- Items without doubles. -/
def ItemsFloatFree : List Value → Prop
  | [] => True
  | v :: items => v.FloatFree ∧ ItemsFloatFree items
/-- Members without doubles. -/
def MembersFloatFree : List (String × Value) → Prop
  | [] => True
  | (_, v) :: members => v.FloatFree ∧ MembersFloatFree members
end

mutual
/-- The tree of a value as it is written. A double has none, as it is not written exactly. -/
def Value.toRaw : Value → Raw
  | .null => .null
  | .bool b => .bool b
  | .number (.int i) => .numeral (.of i)
  | .number (.float _) => .broken .malformed
  | .string s => .string (.of s)
  | .array items => .array (itemsToRaw items) none
  | .object members => .object (membersToRaw members) none
/-- The trees of items. -/
def itemsToRaw : List Value → List Raw
  | [] => []
  | v :: items => v.toRaw :: itemsToRaw items
/-- The trees of members. -/
def membersToRaw : List (String × Value) → List (Literal × Raw)
  | [] => []
  | (name, v) :: members => (.of name, v.toRaw) :: membersToRaw members
end

theorem itemsFloatFree_iff {items : List Value} : ItemsFloatFree items ↔ ∀ v ∈ items, v.FloatFree := by
  induction items with
  | nil => simp [ItemsFloatFree]
  | cons v items ih => rw [ItemsFloatFree, ih, List.forall_mem_cons]

theorem membersFloatFree_iff {members : List (String × Value)} :
    MembersFloatFree members ↔ ∀ m ∈ members, m.2.FloatFree := by
  induction members with
  | nil => simp [MembersFloatFree]
  | cons m members ih => rw [MembersFloatFree, ih, List.forall_mem_cons]

theorem itemsToRaw_eq (items : List Value) : itemsToRaw items = items.map Value.toRaw := by
  induction items with
  | nil => rfl
  | cons v items ih => rw [itemsToRaw, ih, List.map_cons]

theorem membersToRaw_eq (members : List (String × Value)) :
    membersToRaw members = members.map fun m => (Literal.of m.1, m.2.toRaw) := by
  induction members with
  | nil => rfl
  | cons m members ih => rw [membersToRaw, ih, List.map_cons]

/-! ### Values as they are written -/

theorem blanks_newLine (depth : Nat) : Blanks (newLine depth) := by
  intro c hc
  rcases List.mem_cons.1 hc with rfl | hc
  · rfl
  · rw [List.eq_of_mem_replicate hc]
    rfl

theorem blanks_space : Blanks [' '] := fun _ hc => List.mem_singleton.1 hc ▸ rfl

mutual
/-- **The layout of a value is the text of its tree.** -/
theorem Value.spelled : ∀ (v : Value) (depth : Nat), v.FloatFree → Spells v.toRaw (v.indentedChars depth)
  | .null, _, _ => .null
  | .bool true, _, _ => .yes
  | .bool false, _, _ => .no
  | .number (.int i), _, _ => .numeral (Numeral.spelled i)
  | .number (.float _), _, h => h.elim
  | .string s, _, _ => .string (Literal.spelled s)
  | .array [], _, _ => .emptyArray blanks_nil
  | .array (v :: items), depth, h => .array (items_spelled (v :: items) depth (List.cons_ne_nil _ _) h)
  | .object [], _, _ => .emptyObject blanks_nil
  | .object (m :: members), depth, h => .object (members_spelled (m :: members) depth (List.cons_ne_nil _ _) h)
/-- Items are written one per line. -/
theorem items_spelled : ∀ (items : List Value) (depth : Nat), items ≠ [] → ItemsFloatFree items →
    SpellsItems (itemsToRaw items) (indentedItems depth items)
  | [], _, hne, _ => absurd rfl hne
  | [v], depth, _, h => by
    have hv := SpellsAfter.mk (blanks_newLine (depth + 1)) (v.spelled (depth + 1) h.1)
    have hitems := SpellsItems.last hv (blanks_newLine depth)
    simpa [itemsToRaw, indentedItems, comma] using hitems
  | v :: w :: items, depth, _, h => by
    have hv := SpellsAfter.mk (blanks_newLine (depth + 1)) (v.spelled (depth + 1) h.1)
    have hitems := SpellsItems.more hv blanks_nil (items_spelled (w :: items) depth (List.cons_ne_nil _ _) h.2)
    rw [itemsToRaw, indentedItems]
    simpa [comma] using hitems
/-- Members are written one per line. -/
theorem members_spelled : ∀ (members : List (String × Value)) (depth : Nat), members ≠ [] → MembersFloatFree members →
    SpellsMembers (membersToRaw members) (indentedMembers depth members)
  | [], _, hne, _ => absurd rfl hne
  | [(name, v)], depth, _, h => by
    have hv := SpellsAfter.mk blanks_space (v.spelled (depth + 1) h.1)
    have hmembers := SpellsMembers.last (blanks_newLine (depth + 1)) (Literal.spelled name) blanks_nil hv
      (blanks_newLine depth)
    simpa [membersToRaw, indentedMembers, comma, quoteChars, Literal.of] using hmembers
  | (name, v) :: w :: members, depth, _, h => by
    have hv := SpellsAfter.mk blanks_space (v.spelled (depth + 1) h.1)
    have hmembers := SpellsMembers.more (blanks_newLine (depth + 1)) (Literal.spelled name) blanks_nil hv blanks_nil
      (members_spelled (w :: members) depth (List.cons_ne_nil _ _) h.2)
    rw [membersToRaw, indentedMembers]
    simpa [comma, quoteChars, Literal.of] using hmembers
end

/-! ### Values as they are read again -/

/-- Members in the order of their names, each name once. -/
def InOrder (members : List (String × Value)) : Prop := members.Pairwise fun m m' => m.1 < m'.1

theorem mem_setMember {name : String} {v : Value} {members : List (String × Value)} {m : String × Value}
    (h : m ∈ setMember name v members) : m = (name, v) ∨ m ∈ members := by
  induction members with
  | nil => exact .inl (List.mem_singleton.1 h)
  | cons first members ih =>
      rw [setMember] at h
      split at h
      · exact List.mem_cons.1 h
      · split at h
        · exact (List.mem_cons.1 h).imp_right (List.mem_cons_of_mem _)
        · rcases List.mem_cons.1 h with rfl | h
          · exact .inr List.mem_cons_self
          · exact (ih h).imp_right (List.mem_cons_of_mem _)

theorem InOrder.setMember {members : List (String × Value)} (h : InOrder members) (name : String) (v : Value) :
    InOrder (setMember name v members) := by
  induction members with
  | nil => exact List.pairwise_singleton _ _
  | cons first members ih =>
      obtain ⟨hfirst, hrest⟩ := List.pairwise_cons.1 h
      rw [Json.setMember]
      split
      · next hlt =>
        refine List.pairwise_cons.2 ⟨fun m hm => ?_, h⟩
        rcases List.mem_cons.1 hm with rfl | hm
        · exact hlt
        · exact String.lt_trans hlt (hfirst m hm)
      · next hge =>
        split
        · next heq =>
          subst heq
          exact List.pairwise_cons.2 ⟨hfirst, hrest⟩
        · next hne =>
          refine List.pairwise_cons.2 ⟨fun m hm => ?_, ih hrest⟩
          rcases mem_setMember hm with rfl | hm
          · have hle : first.1 ≤ name := String.not_lt.1 hge
            by_contra hnot
            exact hne (String.le_antisymm (String.not_lt.1 hnot) hle)
          · exact hfirst m hm

/-- A name after all others is put at the end. -/
theorem setMember_last {name : String} {v : Value} {members : List (String × Value)}
    (h : ∀ m ∈ members, m.1 < name) : setMember name v members = members ++ [(name, v)] := by
  induction members with
  | nil => rfl
  | cons first members ih =>
      have hfirst : first.1 < name := h first List.mem_cons_self
      rw [setMember, if_neg (String.lt_asymm hfirst), if_neg (String.ne_of_lt hfirst).symm,
        ih fun m hm => h m (List.mem_cons_of_mem _ hm)]
      rfl

theorem itemsOfRaw_toRaw {depth : Nat} {items : List Value} (h : ∀ v ∈ items, Value.ofRaw depth v.toRaw = .ok v) :
    itemsOfRaw depth (itemsToRaw items) = .ok items := by
  induction items with
  | nil => rfl
  | cons v items ih =>
      rw [itemsToRaw, itemsOfRaw, h v List.mem_cons_self]
      show (itemsOfRaw depth (itemsToRaw items) >>= fun vs => .ok (v :: vs)) = _
      rw [ih fun w hw => h w (List.mem_cons_of_mem _ hw)]
      rfl

/-- Members in order are added to those before them one after the other. -/
theorem membersOfRaw_toRaw {depth : Nat} {before members : List (String × Value)} (horder : InOrder (before ++ members))
    (h : ∀ m ∈ members, Value.ofRaw depth m.2.toRaw = .ok m.2) :
    membersOfRaw depth before (membersToRaw members) = .ok (before ++ members) := by
  induction members generalizing before with
  | nil => rw [membersToRaw, membersOfRaw, List.append_nil]
  | cons m members ih =>
      have hlast : setMember m.1 m.2 before = before ++ [m] :=
        setMember_last fun m' hm' => (List.pairwise_append.1 horder).2.2 m' hm' m List.mem_cons_self
      rw [membersToRaw, membersOfRaw, Literal.text_of]
      show (Value.ofRaw depth m.2.toRaw >>= fun v => _) = _
      rw [h m List.mem_cons_self]
      show membersOfRaw depth (setMember m.1 m.2 before) (membersToRaw members) = _
      rw [hlast, ih (by rwa [List.append_assoc]) fun m' hm' => h m' (List.mem_cons_of_mem _ hm'), List.append_assoc]
      rfl

/-- A value that is read again as it was written, if there is no double in it. -/
def Value.Rereads (depth : Nat) (a : Value) : Prop := a.FloatFree → Value.ofRaw depth a.toRaw = .ok a

mutual
/-- **A value that has been read is read again.** -/
theorem Value.ofRaw_toRaw : ∀ {v : Raw} {depth : Nat} {a : Value}, Value.ofRaw depth v = .ok a → a.Rereads depth
  | .null, _, _, h, _ => by
    cases h
    rfl
  | .bool _, _, _, h, _ => by
    cases h
    rfl
  | .numeral n, _, _, h, hfree => by
    rw [Value.ofRaw] at h
    split at h
    · next x hnumber =>
      cases h
      cases x with
      | int i => rw [Value.toRaw, Value.ofRaw, Numeral.number_of (Numeral.isExact_of_number hnumber)]
      | float x => exact hfree.elim
    · cases h
  | .cutNumeral, _, _, h, _ => by cases h
  | .string l, _, _, h, _ => by
    obtain ⟨s, -, rfl⟩ := map_eq_ok_iff.1 h
    exact map_eq_ok_iff.2 ⟨s, Literal.text_of s, rfl⟩
  | .array items fault, 0, _, h, _ => by cases h
  | .array items fault, depth + 1, _, h, hfree => by
    obtain ⟨as, has, hrest⟩ := exists_of_bind h
    obtain ⟨-, hvalue⟩ := check_eq_ok_iff.1 hrest
    cases hvalue
    have hitems : itemsOfRaw depth (itemsToRaw as) = .ok as :=
      itemsOfRaw_toRaw fun a ha => items_reread has a ha (itemsFloatFree_iff.1 hfree a ha)
    rw [Value.toRaw, Value.ofRaw, hitems]
    rfl
  | .object members fault, 0, _, h, _ => by cases h
  | .object members fault, depth + 1, _, h, hfree => by
    obtain ⟨as, has, hrest⟩ := exists_of_bind h
    obtain ⟨-, hvalue⟩ := check_eq_ok_iff.1 hrest
    cases hvalue
    obtain ⟨horder, hreads⟩ := members_reread has .nil fun m hm => absurd hm List.not_mem_nil
    have hmembers : membersOfRaw depth [] (membersToRaw as) = .ok as :=
      membersOfRaw_toRaw horder fun m hm => hreads m hm (membersFloatFree_iff.1 hfree m hm)
    rw [Value.toRaw, Value.ofRaw, hmembers]
    rfl
  | .broken _, _, _, h, _ => by cases h
/-- Items that have been read are read again. -/
theorem items_reread : ∀ {items : List Raw} {depth : Nat} {as : List Value}, itemsOfRaw depth items = .ok as →
    ∀ a ∈ as, a.Rereads depth
  | [], _, _, h => by
    cases h
    exact fun a ha => absurd ha List.not_mem_nil
  | v :: items, _, _, h => by
    obtain ⟨a, ha, hrest⟩ := exists_of_bind h
    obtain ⟨as, has, hlist⟩ := exists_of_bind hrest
    cases hlist
    exact List.forall_mem_cons.2 ⟨Value.ofRaw_toRaw ha, items_reread has⟩
/-- Members that have been read are in order and are read again. -/
theorem members_reread : ∀ {members : List (Literal × Raw)} {depth : Nat} {before after : List (String × Value)},
    membersOfRaw depth before members = .ok after → InOrder before → (∀ m ∈ before, m.2.Rereads depth) →
    InOrder after ∧ ∀ m ∈ after, m.2.Rereads depth
  | [], _, _, _, h, horder, hbefore => by
    cases h
    exact ⟨horder, hbefore⟩
  | (l, v) :: members, _, _, _, h, horder, hbefore => by
    obtain ⟨name, -, hrest⟩ := exists_of_bind h
    obtain ⟨a, ha, hmore⟩ := exists_of_bind hrest
    refine members_reread hmore (horder.setMember name a) fun m hm => ?_
    rcases mem_setMember hm with rfl | hm
    · exact Value.ofRaw_toRaw ha
    · exact hbefore m hm
end

end GatewayAuth.Json
