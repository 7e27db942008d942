import GatewayAuth.Proofs.Json.Documents

/-!
# `GatewayAuth.Proofs.Json.Edits` — edits of documents and what they do to what is read

An edit is made somewhere inside a tree, where an object stands for a record, and the readers on the way there say which
objects these are. So edits are relations between trees under a reader: each of them is given at the place where it is
made, and goes from there up through members, items and lists.

## Contents
- `Edited`: members in another order, and further members that name no slot; `Edited.read_eq`: nothing comes of it.
- `Removed`: a member less that names a slot; `Removed.read_eq`: the slot is what it is without a member.
-/

namespace GatewayAuth.Json

/-! ## Edits that do not matter -/

/-- Edits under a reader that do not matter to it. -/
inductive Edited : {α : Type} → Reader α → Raw → Raw → Prop where
  | same {α : Type} (read : Reader α) (v : Raw) : Edited read v v
  | further {α : Type} {read : Reader α} {v v' v'' : Raw} (first : Edited read v v') (second : Edited read v' v'') :
      Edited read v v''
  /-- The members of an object that stands for a record come in another order. -/
  | permuted {σ : Type} (sh : Shape σ) {members members' : List (Literal × Raw)} {fault : Option Fault}
      (order : members.Perm members') : Edited sh.read (.object members fault) (.object members' fault)
  /-- There is a further member in an object that stands for a record. Its name is no slot's, its value is anything that
  is JSON. -/
  | inserted {σ : Type} (sh : Shape σ) (before : List (Literal × Raw)) {after : List (Literal × Raw)}
      {fault : Option Fault} {l : Literal} {name : String} {v : Raw} {cs : List Char} (hname : l.text = .ok name)
      (unknown : name ∉ sh.known) (value : Spells v cs) :
      Edited sh.read (.object (before ++ after) fault) (.object (before ++ (l, v) :: after) fault)
  /-- The edit is in the value of a slot. -/
  | inMember {σ : Type} (sh : Shape σ) (before : List (Literal × Raw)) {after : List (Literal × Raw)}
      {fault : Option Fault} {l : Literal} {x : Slot σ} {v v' : Raw} (hx : x ∈ sh.slots) (hname : l.text = .ok x.name)
      (edit : Edited x.read v v') :
      Edited sh.read (.object (before ++ (l, v) :: after) fault) (.object (before ++ (l, v') :: after) fault)
  /-- The edit is in the value of a slot, in an array that stands for a record. -/
  | inPlace {σ : Type} (sh : Shape σ) {items : List Raw} {fault : Option Fault} {i : Nat} {x : Slot σ} {v v' : Raw}
      (hx : sh.slots[i]? = some x) (hv : items[i]? = some v) (edit : Edited x.read v v') :
      Edited sh.read (.array items fault) (.array (items.set i v') fault)
  /-- The edit is in an item of a list. -/
  | inItem {α : Type} {read : Reader α} {items : List Raw} {fault : Option Fault} {i : Nat} {v v' : Raw}
      (hv : items[i]? = some v) (edit : Edited read v v') :
      Edited (readList read) (.array items fault) (.array (items.set i v') fault)
  /-- What is read is passed on. -/
  | passedOn {α β : Type} {read : Reader α} {v v' : Raw} (f : α → β) (edit : Edited read v v') :
      Edited (fun depth v => (read depth v).map f) v v'

/-! ## Edits that take something away -/

/-- Edits under a reader that take away the member of one slot, and what becomes of what is read. -/
inductive Removed : {α : Type} → Reader α → Raw → Raw → (α → α) → Prop where
  /-- The slot of a record is what it is where nothing is given. -/
  | member {σ : Type} (sh : Shape σ) (before : List (Literal × Raw)) {after : List (Literal × Raw)}
      {fault : Option Fault} {l : Literal} {x : Slot σ} {v : Raw} (hx : x ∈ sh.slots) (hname : l.text = .ok x.name) :
      Removed sh.read (.object (before ++ (l, v) :: after) fault) (.object (before ++ after) fault)
        fun s => x.set s (x.get sh.unset)
  /-- The edit is in the value of a slot. -/
  | inMember {σ : Type} (sh : Shape σ) (before : List (Literal × Raw)) {after : List (Literal × Raw)}
      {fault : Option Fault} {l : Literal} {x : Slot σ} {v v' : Raw} {f : x.Holds → x.Holds} (hx : x ∈ sh.slots)
      (hname : l.text = .ok x.name) (edit : Removed x.read v v' f) :
      Removed sh.read (.object (before ++ (l, v) :: after) fault) (.object (before ++ (l, v') :: after) fault)
        fun s => x.set s (f (x.get s))
  /-- The edit is in the value of a slot, in an array that stands for a record. -/
  | inPlace {σ : Type} (sh : Shape σ) {items : List Raw} {fault : Option Fault} {i : Nat} {x : Slot σ} {v v' : Raw}
      {f : x.Holds → x.Holds} (hx : sh.slots[i]? = some x) (hv : items[i]? = some v) (edit : Removed x.read v v' f) :
      Removed sh.read (.array items fault) (.array (items.set i v') fault) fun s => x.set s (f (x.get s))
  /-- The edit is in an item of a list. -/
  | inItem {α : Type} {read : Reader α} {items : List Raw} {fault : Option Fault} {i : Nat} {v v' : Raw} {f : α → α}
      (hv : items[i]? = some v) (edit : Removed read v v' f) :
      Removed (readList read) (.array items fault) (.array (items.set i v') fault) fun as => as.modify i f

/-! ## What is read after an edit -/

/-- Another item in the place of one changes what is read there. -/
theorem readList_item_replaced {α : Type} {read : Reader α} {depth : Nat} {items : List Raw} {fault : Option Fault}
    {as : List α} (h : readList read depth (.array items fault) = .ok as) {i : Nat} {v v' : Raw}
    (hv : items[i]? = some v) {f : α → α} (hf : ∀ d a, read d v = .ok a → read d v' = .ok (f a)) :
    readList read depth (.array (items.set i v') fault) = .ok (as.modify i f) := by
  obtain ⟨d, _, rfl, ⟨⟩, hitems⟩ := readList_eq_ok_iff.1 h
  refine readList_eq_ok_iff.2 ⟨d, _, rfl, rfl, ?_⟩
  rw [List.forall₂_iff_get] at hitems ⊢
  obtain ⟨hlen, hget⟩ := hitems
  refine ⟨by rw [List.length_set, List.length_modify, hlen], fun j hj hj' => ?_⟩
  rw [List.length_set] at hj
  have hread := hget j hj (hlen ▸ hj)
  simp only [List.get_eq_getElem] at hread ⊢
  rw [List.getElem_set, List.getElem_modify]
  by_cases hij : i = j
  · subst hij
    rw [if_pos rfl, if_pos rfl]
    rw [(List.getElem?_eq_some_iff.1 hv).2] at hread
    exact hf d _ hread
  · rwa [if_neg hij, if_neg hij]

variable {α : Type} {read : Reader α} {v v' : Raw} {depth : Nat} {a : α}

/-- **Edits that do not matter.** What could be read is read as before. -/
theorem Edited.read_eq (h : Edited read v v') (ha : read depth v = .ok a) : read depth v' = .ok a := by
  induction h generalizing depth with
  | same => exact ha
  | further first second ihfirst ihsecond => exact ihsecond (ihfirst ha)
  | permuted sh order => exact Shape.read_perm ha order
  | inserted sh before hname unknown value =>
      -- in front, where the order does not matter
      exact Shape.read_perm (Shape.read_cons_unknown ha hname unknown value.skip) List.perm_middle.symm
  | inMember sh before hx hname edit ih =>
      have hread := Shape.read_member_replaced hx hname ha (f := id) fun d b hb => ih hb
      rwa [id, Shape.set_get hx] at hread
  | inPlace sh hx hv edit ih =>
      have hread := Shape.read_item_replaced hx hv ha (f := id) fun d b hb => ih hb
      rwa [id, Shape.set_get (List.mem_of_getElem? hx)] at hread
  | inItem hv edit ih =>
      have hread := readList_item_replaced ha hv (f := id) fun d b hb => ih hb
      rwa [List.modify_id] at hread
  | passedOn f edit ih =>
      obtain ⟨b, hb, rfl⟩ := map_eq_ok_iff.1 ha
      exact map_eq_ok_iff.2 ⟨b, ih hb, rfl⟩

/-- **Edits that take a member away.** What could be read is read as before but for one slot. -/
theorem Removed.read_eq {f : α → α} (h : Removed read v v' f) (ha : read depth v = .ok a) :
    read depth v' = .ok (f a) := by
  induction h generalizing depth with
  | member sh before hx hname => exact Shape.read_member_removed hx hname ha
  | inMember sh before hx hname edit ih => exact Shape.read_member_replaced hx hname ha fun d b hb => ih hb
  | inPlace sh hx hv edit ih => exact Shape.read_item_replaced hx hv ha fun d b hb => ih hb
  | inItem hv edit ih => exact readList_item_replaced ha hv fun d b hb => ih hb

end GatewayAuth.Json
