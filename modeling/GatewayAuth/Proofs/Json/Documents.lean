import GatewayAuth.Proofs.Json.Records

/-!
# `GatewayAuth.Proofs.Json.Documents` — documents by the trees that they spell

Readers look at trees, and what is read strictly has no fault in it that skipping would have met. So a document can be
read exactly if it spells a tree that can be read, however it is spelled. Values that nobody reads can be anything that
is JSON.

## Contents
- `Spells.skip`: what is spelled can be skipped, whatever it is.
- `Careful`: readers that overlook no fault; all readers of leaves, lists and records are.
- `readDocument_eq_ok_iff`: documents by their trees.
-/

namespace GatewayAuth.Json

/-! ## Skipping -/

mutual
/-- **A value that is spelled can be skipped.** -/
theorem Spells.skip : ∀ {v : Raw} {cs : List Char}, Spells v cs → v.skip = .ok ()
  | _, _, .null => rfl
  | _, _, .yes => rfl
  | _, _, .no => rfl
  | _, _, .numeral _ => rfl
  | _, _, .string _ => rfl
  | _, _, .emptyArray _ => rfl
  | _, _, .array text => skip_array_eq_ok_iff.2 ⟨text.skip, rfl⟩
  | _, _, .emptyObject _ => rfl
  | _, _, .object text => skip_object_eq_ok_iff.2 ⟨text.skip, rfl⟩
theorem SpellsAfter.skip : ∀ {v : Raw} {cs : List Char}, SpellsAfter v cs → v.skip = .ok ()
  | _, _, .mk _ text => text.skip
theorem SpellsItems.skip : ∀ {items : List Raw} {cs : List Char}, SpellsItems items cs → skipAll items = .ok ()
  | _, _, .last text _ => skipAll_cons_eq_ok_iff.2 ⟨text.skip, rfl⟩
  | _, _, .more text _ hrest => skipAll_cons_eq_ok_iff.2 ⟨text.skip, hrest.skip⟩
theorem SpellsMembers.skip : ∀ {members : List (Literal × Raw)} {cs : List Char}, SpellsMembers members cs →
    skipMembers members = .ok ()
  | _, _, .last _ _ _ text _ => skipMembers_cons_eq_ok_iff.2 ⟨rfl, text.skip, rfl⟩
  | _, _, .more _ _ _ text _ hrest => skipMembers_cons_eq_ok_iff.2 ⟨rfl, text.skip, hrest.skip⟩
end

theorem skipAll_eq_ok_iff {items : List Raw} : skipAll items = .ok () ↔ ∀ v ∈ items, v.skip = .ok () := by
  induction items with
  | nil => simp [skipAll]
  | cons v items ih => rw [skipAll_cons_eq_ok_iff, ih, List.forall_mem_cons]

theorem skipMembers_eq_ok_iff {members : List (Literal × Raw)} :
    skipMembers members = .ok () ↔ ∀ m ∈ members, m.1.fault = none ∧ m.2.skip = .ok () := by
  induction members with
  | nil => simp [skipMembers]
  | cons m members ih => rw [skipMembers_cons_eq_ok_iff, ih, List.forall_mem_cons, and_assoc]

/-! ## Careful readers -/

variable {α σ : Type} {read : Reader α}

/-- A reader that overlooks no fault. -/
def Careful (read : Reader α) : Prop := ∀ depth v a, read depth v = .ok a → v.skip = .ok ()

theorem literalChars_fault {fault : Option Fault} {us : List LiteralUnit} {cs : List Char}
    (h : literalChars fault us = .ok cs) : fault = none := by
  fun_induction literalChars fault us generalizing cs with
  | case1 hfault => exact hfault
  | case2 f => cases h
  | case3 rest c ih =>
      obtain ⟨cs', hcs', -⟩ := map_eq_ok_iff.1 h
      exact ih hcs'
  | case4 rest c ih =>
      obtain ⟨cs', hcs', -⟩ := map_eq_ok_iff.1 h
      exact ih hcs'
  | case5 => cases h
  | case6 lead _ _ trail rest _ ih =>
      obtain ⟨cs', hcs', -⟩ := map_eq_ok_iff.1 h
      exact ih hcs'
  | case7 => cases h
  | case8 => cases h
  | case9 => cases h
  | case10 rest lead _ _ ih =>
      obtain ⟨cs', hcs', -⟩ := map_eq_ok_iff.1 h
      exact ih hcs'

theorem Literal.fault_of_text {l : Literal} {s : String} (h : l.text = .ok s) : l.fault = none := by
  obtain ⟨cs, hcs, -⟩ := map_eq_ok_iff.1 h
  exact literalChars_fault hcs

theorem Literal.skip_of_text {l : Literal} {s : String} (h : l.text = .ok s) : (Raw.string l).skip = .ok () :=
  close_eq_ok_iff.2 (Literal.fault_of_text h)

/-- Text is read from string literals. -/
theorem readText_eq_ok_iff {depth : Nat} {v : Raw} {s : String} :
    readText depth v = .ok s ↔ ∃ l, v = .string l ∧ l.text = .ok s := by
  constructor
  · intro h
    cases v with
    | string l => exact ⟨l, rfl, ofText_eq_ok_iff.1 h⟩
    | _ => cases h
  · rintro ⟨l, rfl, hl⟩
    exact ofText_eq_ok_iff.2 hl

/-- Integers are read from numerals. -/
theorem exists_of_readInt64 {depth : Nat} {v : Raw} {i : Int64} (h : readInt64 depth v = .ok i) :
    ∃ n, v = .numeral n := by
  cases v with
  | numeral n => exact ⟨n, rfl⟩
  | _ => cases h

theorem careful_readText : Careful readText := by
  intro depth v s h
  obtain ⟨l, rfl, hl⟩ := readText_eq_ok_iff.1 h
  exact Literal.skip_of_text hl

theorem careful_readInt64 : Careful readInt64 := by
  intro depth v i h
  obtain ⟨n, rfl⟩ := exists_of_readInt64 h
  rfl

theorem readOptional_null {depth : Nat} : readOptional read depth .null = .ok none := rfl

theorem readOptional_of_ne_null {depth : Nat} {v : Raw} (h : v ≠ .null) :
    readOptional read depth v = (read depth v).map some := by
  cases v with
  | null => exact absurd rfl h
  | _ => rfl

theorem Careful.optional (h : Careful read) : Careful (readOptional read) := by
  intro depth v a? ha
  by_cases hnull : v = .null
  · rw [hnull]
    rfl
  · rw [readOptional_of_ne_null hnull] at ha
    obtain ⟨a, ha, -⟩ := map_eq_ok_iff.1 ha
    exact h depth v a ha

/-- What is read on is read as carefully. -/
theorem Careful.map {β : Type} (h : Careful read) (f : α → β) : Careful fun depth v => (read depth v).map f := by
  intro depth v b hb
  obtain ⟨a, ha, -⟩ := map_eq_ok_iff.1 hb
  exact h depth v a ha

/-- All items are read if each of them is. -/
theorem readAll_eq_ok_iff {read : Raw → Except ReadError α} {items : List Raw} {as : List α} :
    readAll read items = .ok as ↔ List.Forall₂ (fun v a => read v = .ok a) items as := by
  induction items generalizing as with
  | nil =>
      rw [List.forall₂_nil_left_iff]
      exact ⟨fun h => (Except.ok.inj h).symm, fun h => congrArg Except.ok h.symm⟩
  | cons v items ih =>
      rw [List.forall₂_cons_left_iff]
      constructor
      · intro h
        obtain ⟨a, ha, hrest⟩ := exists_of_bind h
        obtain ⟨as', has, hlist⟩ := exists_of_bind hrest
        exact ⟨a, as', ha, ih.1 has, (Except.ok.inj hlist).symm⟩
      · rintro ⟨a, as', ha, has, rfl⟩
        rw [readAll, ha]
        show (readAll read items >>= fun as => .ok (a :: as)) = _
        rw [ih.2 has]
        rfl

/-- Lists are read from arrays, item by item, with one level of nesting less. -/
theorem readList_eq_ok_iff {depth : Nat} {v : Raw} {as : List α} :
    readList read depth v = .ok as ↔
      ∃ d items, depth = d + 1 ∧ v = .array items none ∧ List.Forall₂ (fun v a => read d v = .ok a) items as := by
  have harray : ∀ {d : Nat} {items : List Raw} {fault : Option Fault},
      readList read (d + 1) (.array items fault) = .ok as ↔ readAll (read d) items = .ok as ∧ fault = none :=
    closed_eq_ok_iff
  constructor
  · intro h
    cases v with
    | array items fault =>
        cases depth with
        | zero => cases h
        | succ d =>
            obtain ⟨hitems, rfl⟩ := harray.1 h
            exact ⟨d, items, rfl, rfl, readAll_eq_ok_iff.1 hitems⟩
    | _ => cases h
  · rintro ⟨d, items, rfl, rfl, hitems⟩
    exact harray.2 ⟨readAll_eq_ok_iff.2 hitems, rfl⟩

theorem Careful.list (h : Careful read) : Careful (readList read) := by
  intro depth v as has
  obtain ⟨d, items, rfl, rfl, hitems⟩ := readList_eq_ok_iff.1 has
  refine skip_array_eq_ok_iff.2 ⟨skipAll_eq_ok_iff.2 fun v hv => ?_, rfl⟩
  obtain ⟨i, hlt, rfl⟩ := List.getElem_of_mem hv
  exact h d _ _ (hitems.get hlt (hitems.length_eq ▸ hlt))

/-! ### Free-form values -/

mutual
/-- A value that is read strictly can be skipped. -/
theorem skip_of_ofRaw : ∀ {v : Raw} {depth : Nat} {a : Value}, Value.ofRaw depth v = .ok a → v.skip = .ok ()
  | .null, _, _, _ => rfl
  | .bool _, _, _, _ => rfl
  | .numeral _, _, _, _ => rfl
  | .cutNumeral, _, _, h => by cases h
  | .string l, _, _, h => by
    obtain ⟨s, hs, -⟩ := map_eq_ok_iff.1 h
    exact Literal.skip_of_text hs
  | .array items fault, 0, _, h => by cases h
  | .array items fault, depth + 1, _, h => by
    obtain ⟨as, has, hrest⟩ := exists_of_bind h
    exact skip_array_eq_ok_iff.2 ⟨skipAll_of_ofRaw has, close_eq_ok_iff.1 (check_eq_ok_iff.1 hrest).1⟩
  | .object members fault, 0, _, h => by cases h
  | .object members fault, depth + 1, _, h => by
    obtain ⟨as, has, hrest⟩ := exists_of_bind h
    exact skip_object_eq_ok_iff.2 ⟨skipMembers_of_ofRaw has, close_eq_ok_iff.1 (check_eq_ok_iff.1 hrest).1⟩
  | .broken _, _, _, h => by cases h
theorem skipAll_of_ofRaw : ∀ {items : List Raw} {depth : Nat} {as : List Value}, itemsOfRaw depth items = .ok as →
    skipAll items = .ok ()
  | [], _, _, _ => rfl
  | v :: items, _, _, h => by
    obtain ⟨a, ha, hrest⟩ := exists_of_bind h
    obtain ⟨as, has, -⟩ := exists_of_bind hrest
    exact skipAll_cons_eq_ok_iff.2 ⟨skip_of_ofRaw ha, skipAll_of_ofRaw has⟩
theorem skipMembers_of_ofRaw : ∀ {members : List (Literal × Raw)} {depth : Nat} {before after : List (String × Value)},
    membersOfRaw depth before members = .ok after → skipMembers members = .ok ()
  | [], _, _, _, _ => rfl
  | (l, v) :: members, _, _, _, h => by
    obtain ⟨name, hname, hrest⟩ := exists_of_bind h
    obtain ⟨a, ha, has⟩ := exists_of_bind hrest
    exact skipMembers_cons_eq_ok_iff.2 ⟨Literal.fault_of_text hname, skip_of_ofRaw ha, skipMembers_of_ofRaw has⟩
end

theorem careful_readValue : Careful readValue :=
  fun _ _ _ h => skip_of_ofRaw (ofText_eq_ok_iff.1 h)

/-! ### Records -/

theorem Shape.careful {sh : Shape σ} (h : ∀ x ∈ sh.slots, Careful x.read) : Careful sh.read := by
  intro depth v s hs
  obtain ⟨d, rfl, ⟨members, rfl⟩ | ⟨items, rfl⟩⟩ := exists_of_read hs
  · obtain ⟨-, horderly, hstands⟩ := read_object_iff.1 hs
    refine skip_object_eq_ok_iff.2 ⟨skipMembers_eq_ok_iff.2 fun m hm => ?_, rfl⟩
    obtain ⟨name, hname, hskip, -⟩ := horderly.named m hm
    refine ⟨Literal.fault_of_text hname, ?_⟩
    by_cases hknown : name ∈ sh.known
    · obtain ⟨x, hx, rfl⟩ := List.mem_map.1 hknown
      have hslot := hstands x hx
      rw [(horderly.memberNamed?_eq_some_iff hknown).2 ⟨m.1, hm, hname⟩] at hslot
      exact h x hx d m.2 _ hslot
    · exact hskip hknown
  · obtain ⟨-, hlen, hstands⟩ := read_array_iff.1 hs
    refine skip_array_eq_ok_iff.2 ⟨skipAll_eq_ok_iff.2 fun v hv => ?_, rfl⟩
    obtain ⟨i, hi⟩ := List.mem_iff_getElem?.1 hv
    have hlt : i < sh.slots.length := Nat.lt_of_lt_of_le (List.getElem?_eq_some_iff.1 hi).1 hlen
    have hslot := hstands i sh.slots[i] (List.getElem?_eq_getElem hlt)
    rw [hi] at hslot
    exact h sh.slots[i] (List.getElem_mem hlt) d v _ hslot

/-! ## Documents -/

/-- **A document is read as the tree that it spells.** -/
theorem readDocument_eq_ok_iff (h : Careful read) {text : String} {a : α} :
    readDocument read text = .ok a ↔ ∃ v, Document v text.toList ∧ read nestingLimit v = .ok a := by
  have hdocument : ∀ {v : Raw} {more : Bool}, Raw.ofText text = (v, more) →
      (readDocument read text = .ok a ↔ read nestingLimit v = .ok a ∧ more = false) := by
    intro v more htext
    rw [readDocument, htext]
    show (read nestingLimit v >>= fun a => if more = true then .error (.text .malformed) else .ok a) = .ok a ↔ _
    constructor
    · intro hbind
      obtain ⟨b, hb, hrest⟩ := exists_of_bind hbind
      cases more with
      | true => cases hrest
      | false =>
          cases hrest
          exact ⟨hb, rfl⟩
    · rintro ⟨hread, rfl⟩
      rw [hread]
      rfl
  constructor
  · intro hread
    obtain ⟨hv, hmore⟩ := (hdocument rfl).1 hread
    -- skipping the tree meets no fault, as the reader is careful, so the tree is spelled
    exact ⟨_, document_of_ofText (Prod.ext rfl hmore) (h _ _ _ hv), hv⟩
  · rintro ⟨v, hv, hread⟩
    exact (hdocument (ofText_of_document hv)).2 ⟨hread, rfl⟩

end GatewayAuth.Json
