import GatewayAuth.Proofs.Json.Layout

/-!
# `GatewayAuth.Proofs.Json.Rereading` — readers that undo what is written

What is read of a document is written with every slot that it has, also those that the document did not give. So a reader
undoes a writer if it reads again both what it has read and what there is by default; for the latter there must be as
many levels of nesting left as the defaults take.

## Contents
- `Rereads`: a thing that is read as it was written.
- `Restores`: readers that undo a writer on all that they read, and on the default.
- `restores_text`, `restores_int64`, `Restores.list`, `Shape.restores`, ...: the readers of configurations do.
-/

namespace GatewayAuth.Json

variable {α σ : Type} {read : Reader α} {write : α → Value} {depth levels : Nat} {a unset : α}

/-- A thing that is read as it was written, if there is no double in it. -/
def Rereads (read : Reader α) (write : α → Value) (depth : Nat) (a : α) : Prop :=
  (write a).FloatFree → read depth (write a).toRaw = .ok a

/-- A reader that undoes a writer, with so many levels of nesting left: whatever it has read, and the default. -/
structure Restores (read : Reader α) (write : α → Value) (levels : Nat) (unset : α) : Prop where
  default : ∀ depth, levels ≤ depth → Rereads read write depth unset
  given : ∀ depth, levels ≤ depth → ∀ v a, read depth v = .ok a → Rereads read write depth a

theorem Restores.stands (h : Restores read write levels unset) (hdepth : levels ≤ depth) {value? : Option Raw}
    (ha : Stands (read depth) value? unset a) : Rereads read write depth a := by
  cases value? with
  | none =>
      cases ha
      exact h.default depth hdepth
  | some v => exact h.given depth hdepth v a ha

/-- A reader that reads everything as it was written. -/
theorem Restores.of_forall (h : ∀ depth a, levels ≤ depth → Rereads read write depth a) (unset : α) :
    Restores read write levels unset :=
  ⟨fun depth hdepth => h depth unset hdepth, fun depth hdepth _ a _ => h depth a hdepth⟩

/-! ## Leaves -/

theorem restores_text (levels : Nat) (unset : String) : Restores readText .string levels unset :=
  .of_forall (fun _ s _ _ => readText_eq_ok_iff.2 ⟨Literal.of s, rfl, Literal.text_of s⟩) unset

theorem restores_value (levels : Nat) : Restores readValue (fun v => v) levels .null where
  default _ _ _ := rfl
  given _ _ _ _ ha hfree := ofText_eq_ok_iff.2 (Value.ofRaw_toRaw (ofText_eq_ok_iff.1 ha) hfree)

theorem rereads_int64 (i : Int64) : readInt64 depth (Value.int i.toInt).toRaw = .ok i := by
  have hlow := Int64.le_toInt i
  have hhigh := Int64.toInt_lt i
  have hnumber : (Numeral.of i.toInt).number = some (.int i.toInt) :=
    Numeral.number_of ⟨by omega, by omega⟩
  show readInt64 depth (.numeral (.of i.toInt)) = _
  simp only [readInt64, hnumber]
  rw [if_pos ⟨by unfold Decimal.int64Min; omega, by unfold Decimal.int64Max; omega⟩, Int64.ofInt_toInt]

theorem restores_int64 (levels : Nat) (unset : Int64) : Restores readInt64 (fun i => .int i.toInt) levels unset :=
  .of_forall (fun _ i _ _ => rereads_int64 i) unset

/-- What is optional is null where it is missing. -/
theorem Restores.optional {write? : Option α → Value} (write : α → Value)
    (h : ∀ depth, levels ≤ depth → ∀ v a, read depth v = .ok a → Rereads read write depth a)
    (hnone : write? none = .null) (hsome : ∀ a, write? (some a) = write a) (hnull : ∀ a, (write a).toRaw ≠ .null) :
    Restores (readOptional read) write? levels none where
  default _ _ _ := by
    rw [hnone]
    rfl
  given depth hdepth v a? ha := by
    by_cases hv : v = .null
    · rw [hv, readOptional_null] at ha
      cases ha
      intro _
      rw [hnone]
      rfl
    · rw [readOptional_of_ne_null hv] at ha
      obtain ⟨a, hread, rfl⟩ := map_eq_ok_iff.1 ha
      intro hfree
      rw [hsome] at hfree ⊢
      rw [readOptional_of_ne_null (hnull a)]
      exact map_eq_ok_iff.2 ⟨a, h depth hdepth v a hread hfree, rfl⟩

/-! ## Lists and records -/

theorem rereads_list {as : List α} (h : ∀ a ∈ as, Rereads read write depth a) :
    Rereads (readList read) (fun as => .array (as.map write)) (depth + 1) as := by
  intro hfree
  have hfree : ∀ v ∈ as.map write, v.FloatFree := itemsFloatFree_iff.1 hfree
  refine readList_eq_ok_iff.2 ⟨depth, _, rfl, rfl, ?_⟩
  rw [itemsToRaw_eq, List.map_map, List.forall₂_map_left_iff, List.forall₂_same]
  exact fun a ha => h a ha (hfree _ (List.mem_map_of_mem ha))

/-- Lists are restored item by item. -/
theorem Restores.list (h : Restores read write levels unset) :
    Restores (readList read) (fun as => .array (as.map write)) (levels + 1) [] where
  default depth hdepth := by
    obtain ⟨d, rfl⟩ : ∃ d, depth = d + 1 := ⟨depth - 1, by omega⟩
    exact rereads_list fun a ha => absurd ha List.not_mem_nil
  given depth hdepth v as has := by
    obtain ⟨d, items, rfl, rfl, hitems⟩ := readList_eq_ok_iff.1 has
    -- every item has been read in the level below
    refine rereads_list fun a ha => ?_
    obtain ⟨i, hlt, rfl⟩ := List.getElem_of_mem ha
    exact h.given d (by omega) _ _ (hitems.get (hitems.length_eq ▸ hlt) hlt)

theorem Shape.toRaw_write (sh : Shape σ) (s : σ) :
    (sh.write s).toRaw = .object (sh.slots.map fun x => (Literal.of x.name, (x.write (x.get s)).toRaw)) none := by
  show Raw.object (membersToRaw (sh.slots.map fun x => (x.name, x.write (x.get s)))) none = _
  rw [membersToRaw_eq, List.map_map]
  rfl

/-- The members of an object that is written name every slot once. -/
theorem Shape.orderly_written (sh : Shape σ) (s : σ) :
    Orderly sh.known [] (sh.slots.map fun x => (Literal.of x.name, (x.write (x.get s)).toRaw)) := by
  refine ⟨fun m hm => ?_, ?_⟩
  · obtain ⟨x, hx, rfl⟩ := List.mem_map.1 hm
    exact ⟨x.name, Literal.text_of x.name, fun h => absurd (List.mem_map_of_mem hx) h, fun _ => List.not_mem_nil⟩
  · have hnames : sh.slots.Pairwise fun x y => x.name ≠ y.name := List.pairwise_map.1 sh.names
    rw [List.pairwise_map]
    refine hnames.imp fun {x y} hne name _ hx hy => hne ?_
    rw [Literal.text_of] at hx hy
    exact Except.ok.inj (hx.trans hy.symm)

/-- A record is read as it was written if its slots are. -/
theorem Shape.rereads {sh : Shape σ} {s : σ} (h : ∀ x ∈ sh.slots, Rereads x.read x.write depth (x.get s)) :
    Rereads sh.read sh.write (depth + 1) s := by
  intro hfree
  have hfree : ∀ m ∈ sh.slots.map fun x => (x.name, x.write (x.get s)), m.2.FloatFree := membersFloatFree_iff.1 hfree
  rw [sh.toRaw_write]
  refine read_object_iff.2 ⟨rfl, sh.orderly_written s, fun x hx => ?_⟩
  have hmember : memberNamed? x.name (sh.slots.map fun x => (Literal.of x.name, (x.write (x.get s)).toRaw)) =
      some (x.write (x.get s)).toRaw :=
    ((sh.orderly_written s).memberNamed?_eq_some_iff (List.mem_map_of_mem hx)).2
      ⟨Literal.of x.name, List.mem_map.2 ⟨x, hx, rfl⟩, Literal.text_of x.name⟩
  rw [hmember]
  exact h x hx (hfree _ (List.mem_map.2 ⟨x, hx, rfl⟩))

/-- **Records are restored slot by slot.** -/
theorem Shape.restores {sh : Shape σ} (h : ∀ x ∈ sh.slots, Restores x.read x.write levels (x.get sh.unset)) :
    Restores sh.read sh.write (levels + 1) sh.unset where
  default depth hdepth := by
    obtain ⟨d, rfl⟩ : ∃ d, depth = d + 1 := ⟨depth - 1, by omega⟩
    exact Shape.rereads fun x hx => (h x hx).default d (by omega)
  given depth hdepth v s hs := by
    obtain ⟨d, rfl, ⟨members, rfl⟩ | ⟨items, rfl⟩⟩ := exists_of_read hs
    · obtain ⟨-, -, hstands⟩ := read_object_iff.1 hs
      exact Shape.rereads fun x hx => (h x hx).stands (by omega) (hstands x hx)
    · obtain ⟨-, -, hstands⟩ := read_array_iff.1 hs
      refine Shape.rereads fun x hx => ?_
      obtain ⟨i, hi⟩ := List.mem_iff_getElem?.1 hx
      exact (h x hx).stands (by omega) (hstands i x hi)

end GatewayAuth.Json
