import GatewayAuth.Json.Record
import GatewayAuth.Proofs.Json.Scanning
import Mathlib.Data.List.Nodup
import Mathlib.Data.List.Perm.Basic

/-!
# `GatewayAuth.Proofs.Json.Records` — records by their slots

A record has slots, each with a name, a place and a reader. In an object a slot meets the member of its name, in an array
the item at its place. What is read is the record each slot of which is what its value is read as, or the default where
there is no value: nothing depends on the order in which members come, and nothing on members that name no slot.

## Contents
- `Slot`, `Shape`: the parts of a record, and what makes them parts.
- `Orderly`, `memberNamed?`: objects in which the slots are named once, and the values that slots meet there.
- `Shape.read_object_iff`, `Shape.read_array_iff`: a record by its slots.
- `Shape.read_perm`, `Shape.read_cons_unknown`, `Shape.read_member_replaced`, `Shape.read_member_removed`,
  `Shape.read_item_replaced`: what each member and each item has to do with it.
-/

namespace GatewayAuth.Json

variable {σ : Type}

/-! ## Slots -/

/-- A part of a record: its name, how it is read and written, and where it is in the record. -/
structure Slot (σ : Type) where
  name : String
  Holds : Type
  read : Reader Holds
  write : Holds → Value
  get : σ → Holds
  set : σ → Holds → σ

/-- The member that sets a slot. -/
def Slot.member (x : Slot σ) : Member σ := .of x.name x.read x.set

/-- The shape of a record: slots that are stored independently of each other and make up the record, and the record of
which no slot is given. -/
structure Shape (σ : Type) where
  slots : List (Slot σ)
  unset : σ
  names : (slots.map Slot.name).Nodup
  get_set : ∀ x ∈ slots, ∀ s a, x.get (x.set s a) = a
  get_set_other : ∀ x ∈ slots, ∀ y ∈ slots, y.name ≠ x.name → ∀ s a, x.get (y.set s a) = x.get s
  ext : ∀ s s', (∀ x ∈ slots, x.get s = x.get s') → s = s'

namespace Shape

/-- The names of the slots. -/
def known (sh : Shape σ) : List String := sh.slots.map Slot.name

/-- Read a record of this shape. -/
def read (sh : Shape σ) : Reader σ := readRecord (sh.slots.map Slot.member) sh.unset

/-- Write a record of this shape, slot by slot. -/
def write (sh : Shape σ) (s : σ) : Value := .object (sh.slots.map fun x => (x.name, x.write (x.get s)))

theorem eq_of_name (sh : Shape σ) {x y : Slot σ} (hx : x ∈ sh.slots) (hy : y ∈ sh.slots) (h : y.name = x.name) : y = x :=
  List.inj_on_of_nodup_map sh.names hy hx h

end Shape

/-! ## Members by their names -/

/-- Objects that records are read from: every member has a name, names of slots come at most once and none of them has
been `seen` before, and under other names there is nothing that skipping objects to. -/
structure Orderly (known seen : List String) (members : List (Literal × Raw)) : Prop where
  named : ∀ m ∈ members, ∃ name, m.1.text = .ok name ∧ (name ∉ known → m.2.skip = .ok ()) ∧ (name ∈ known → name ∉ seen)
  once : members.Pairwise fun m m' => ∀ name ∈ known, m.1.text = .ok name → m'.1.text ≠ .ok name

/-- The value of the first member with the given name. -/
def memberNamed? (name : String) (members : List (Literal × Raw)) : Option Raw :=
  (members.find? fun m => decide (m.1.text.toOption = some name)).map Prod.snd

variable {known seen : List String} {name : String} {l : Literal} {v : Raw} {members members' : List (Literal × Raw)}

theorem toOption_eq_some_iff : l.text.toOption = some name ↔ l.text = .ok name := by
  refine ⟨eq_ok_of_toOption, fun h => ?_⟩
  rw [h]
  rfl

theorem memberNamed?_cons_self (h : l.text = .ok name) : memberNamed? name ((l, v) :: members) = some v := by
  rw [memberNamed?, List.find?_cons_of_pos (by simpa using toOption_eq_some_iff.2 h)]
  rfl

theorem memberNamed?_cons_other (h : l.text ≠ .ok name) :
    memberNamed? name ((l, v) :: members) = memberNamed? name members := by
  rw [memberNamed?, List.find?_cons_of_neg (by simpa using fun h' => h (toOption_eq_some_iff.1 h')), memberNamed?]

theorem text_ne {name' : String} (h : l.text = .ok name) (hne : name ≠ name') : l.text ≠ .ok name' := by
  rw [h]
  exact fun heq => hne (Except.ok.inj heq)

theorem Orderly.cons_unknown_iff (hname : l.text = .ok name) (hunknown : name ∉ known) :
    Orderly known seen ((l, v) :: members) ↔ v.skip = .ok () ∧ Orderly known seen members := by
  constructor
  · intro h
    obtain ⟨name', hname', hskip, -⟩ := h.named _ List.mem_cons_self
    obtain rfl : name = name' := Except.ok.inj (hname.symm.trans hname')
    exact ⟨hskip hunknown, fun m hm => h.named m (List.mem_cons_of_mem _ hm), (List.pairwise_cons.1 h.once).2⟩
  · rintro ⟨hskip, h⟩
    refine ⟨?_, List.pairwise_cons.2 ⟨?_, h.once⟩⟩
    · intro m hm
      rcases List.mem_cons.1 hm with rfl | hm
      · exact ⟨name, hname, fun _ => hskip, fun hknown => absurd hknown hunknown⟩
      · exact h.named m hm
    · intro m hm other hother hl
      exact absurd (Except.ok.inj (hname.symm.trans hl) ▸ hother) hunknown

theorem Orderly.cons_known_iff (hname : l.text = .ok name) (hknown : name ∈ known) :
    Orderly known seen ((l, v) :: members) ↔ name ∉ seen ∧ Orderly known (name :: seen) members := by
  constructor
  · intro h
    obtain ⟨name', hname', -, hseen⟩ := h.named _ List.mem_cons_self
    obtain rfl : name = name' := Except.ok.inj (hname.symm.trans hname')
    obtain ⟨honce, hrest⟩ := List.pairwise_cons.1 h.once
    refine ⟨hseen hknown, fun m hm => ?_, hrest⟩
    obtain ⟨other, hother, hskip, hfresh⟩ := h.named m (List.mem_cons_of_mem _ hm)
    refine ⟨other, hother, hskip, fun hk => ?_⟩
    rintro (_ | ⟨_, hmem⟩)
    · exact honce m hm name hknown hname hother
    · exact hfresh hk hmem
  · rintro ⟨hseen, h⟩
    refine ⟨?_, List.pairwise_cons.2 ⟨?_, h.once⟩⟩
    · intro m hm
      rcases List.mem_cons.1 hm with rfl | hm
      · exact ⟨name, hname, fun h => absurd hknown h, fun _ => hseen⟩
      · obtain ⟨other, hother, hskip, hfresh⟩ := h.named m hm
        exact ⟨other, hother, hskip, fun hk hmem => hfresh hk (List.mem_cons_of_mem _ hmem)⟩
    · intro m hm other hother hl hm'
      obtain rfl : name = other := Except.ok.inj (hname.symm.trans hl)
      obtain ⟨found, hfound, -, hfresh⟩ := h.named m hm
      obtain rfl : name = found := Except.ok.inj (hm'.symm.trans hfound)
      exact hfresh hknown List.mem_cons_self

theorem Orderly.perm (h : Orderly known seen members) (hperm : members.Perm members') : Orderly known seen members' := by
  refine ⟨fun m hm => h.named m (hperm.mem_iff.2 hm), (hperm.pairwise_iff ?_).1 h.once⟩
  intro m m' hm name hname hl hl'
  exact hm name hname hl' hl

/-- In an object that names a slot once, the slot meets the value that is there under its name. -/
theorem Orderly.memberNamed?_eq_some_iff (h : Orderly known seen members) (hname : name ∈ known) :
    memberNamed? name members = some v ↔ ∃ l, (l, v) ∈ members ∧ l.text = .ok name := by
  have honce := h.once
  clear h
  induction members with
  | nil => simp [memberNamed?]
  | cons m members ih =>
      obtain ⟨l, w⟩ := m
      obtain ⟨hfirst, hrest⟩ := List.pairwise_cons.1 honce
      by_cases hl : l.text = .ok name
      · rw [memberNamed?_cons_self hl]
        constructor
        · rintro ⟨⟩
          exact ⟨l, List.mem_cons_self, hl⟩
        · rintro ⟨l', hmem, hl'⟩
          rcases List.mem_cons.1 hmem with heq | hmem
          · cases heq
            rfl
          · exact absurd hl' (hfirst _ hmem name hname hl)
      · rw [memberNamed?_cons_other hl]
        refine (ih hrest).trans ?_
        constructor
        · rintro ⟨l', hmem, hl'⟩
          exact ⟨l', List.mem_cons_of_mem _ hmem, hl'⟩
        · rintro ⟨l', hmem, hl'⟩
          rcases List.mem_cons.1 hmem with heq | hmem
          · cases heq
            exact absurd hl' hl
          · exact ⟨l', hmem, hl'⟩

theorem Orderly.memberNamed?_perm (h : Orderly known seen members) (hperm : members.Perm members')
    (hname : name ∈ known) : memberNamed? name members' = memberNamed? name members := by
  apply Option.ext
  intro v
  rw [(h.perm hperm).memberNamed?_eq_some_iff hname, h.memberNamed?_eq_some_iff hname]
  constructor
  · rintro ⟨l, hmem, hl⟩
    exact ⟨l, hperm.mem_iff.2 hmem, hl⟩
  · rintro ⟨l, hmem, hl⟩
    exact ⟨l, hperm.mem_iff.1 hmem, hl⟩

/-- A name that has been seen is one that does not come again. -/
theorem Orderly.seen_cons_iff (hname : name ∈ known) :
    Orderly known (name :: seen) members ↔ Orderly known seen members ∧ memberNamed? name members = none := by
  constructor
  · intro h
    refine ⟨⟨fun m hm => ?_, h.once⟩, ?_⟩
    · obtain ⟨found, hfound, hskip, hfresh⟩ := h.named m hm
      exact ⟨found, hfound, hskip, fun hk hmem => hfresh hk (List.mem_cons_of_mem _ hmem)⟩
    · rw [Option.eq_none_iff_forall_ne_some]
      intro v hv
      obtain ⟨l, hmem, hl⟩ := (h.memberNamed?_eq_some_iff hname).1 hv
      obtain ⟨found, hfound, -, hfresh⟩ := h.named _ hmem
      obtain rfl : name = found := Except.ok.inj (hl.symm.trans hfound)
      exact hfresh hname List.mem_cons_self
  · rintro ⟨h, hnone⟩
    refine ⟨fun m hm => ?_, h.once⟩
    obtain ⟨found, hfound, hskip, hfresh⟩ := h.named m hm
    refine ⟨found, hfound, hskip, fun hk hmem => ?_⟩
    rcases List.mem_cons.1 hmem with rfl | hmem
    · have hsome := (h.memberNamed?_eq_some_iff hk).2 ⟨m.1, hm, hfound⟩
      exact absurd (hnone.symm.trans hsome) (Option.some_ne_none _).symm
    · exact hfresh hk hmem

/-! ## Reading records -/

variable {sh : Shape σ} {depth : Nat} {s s' : σ} {x : Slot σ}

theorem ofText_eq_ok_iff {α : Type} {outcome : Except Fault α} {a : α} :
    ofText outcome = .ok a ↔ outcome = .ok a := by
  cases outcome with
  | ok b => simp [ofText]
  | error f => simp [ofText]

/-- What is read up to a closing mark counts if the mark is there. -/
theorem closed_eq_ok_iff {α : Type} {outcome : Except ReadError α} {fault : Option Fault} {a : α} :
    (outcome >>= fun a => ofText (close fault) >>= fun _ => .ok a) = .ok a ↔ outcome = .ok a ∧ fault = none := by
  constructor
  · intro h
    obtain ⟨a', houtcome, hrest⟩ := exists_of_bind h
    obtain ⟨hclose, ha⟩ := check_eq_ok_iff.1 hrest
    cases ha
    exact ⟨houtcome, close_eq_ok_iff.1 (ofText_eq_ok_iff.1 hclose)⟩
  · rintro ⟨rfl, rfl⟩
    rfl

/-- A slot is set, and reading goes on with the record as it is then. -/
theorem Slot.member_read_bind_eq_ok_iff {next : σ → Except ReadError σ} :
    (x.member.read depth v s >>= next) = .ok s' ↔ ∃ a, x.read depth v = .ok a ∧ next (x.set s a) = .ok s' := by
  have hmember : ∀ {s₁ : σ}, x.member.read depth v s = .ok s₁ ↔ ∃ a, x.read depth v = .ok a ∧ x.set s a = s₁ :=
    map_eq_ok_iff
  constructor
  · intro h
    obtain ⟨s₁, hread, hnext⟩ := exists_of_bind h
    obtain ⟨a, ha, rfl⟩ := hmember.1 hread
    exact ⟨a, ha, hnext⟩
  · rintro ⟨a, ha, hnext⟩
    rw [hmember.2 ⟨a, ha, rfl⟩]
    exact hnext

/-- A member whose name is no slot's is skipped. -/
theorem readMembers_cons_unknown (hname : l.text = .ok name) (hunknown : name ∉ sh.known) :
    readMembers (sh.slots.map Slot.member) depth seen s ((l, v) :: members) = .ok s' ↔
      v.skip = .ok () ∧ readMembers (sh.slots.map Slot.member) depth seen s members = .ok s' := by
  have hfind : ((sh.slots.map Slot.member).find? fun f => f.name == name) = none := by
    rw [List.find?_eq_none]
    intro f hf
    obtain ⟨x, hx, rfl⟩ := List.mem_map.1 hf
    have hne : x.member.name ≠ name := fun heq => hunknown (List.mem_map.2 ⟨x, hx, heq⟩)
    simpa using hne
  simp only [readMembers, hname, ofText, ok_bind, hfind]
  show (ofText v.skip >>= fun _ => readMembers _ depth seen s members) = .ok s' ↔ _
  rw [check_eq_ok_iff, ofText_eq_ok_iff]

/-- A member with the name of a slot sets the slot. -/
theorem readMembers_cons_known (hx : x ∈ sh.slots) (hname : l.text = .ok x.name) :
    readMembers (sh.slots.map Slot.member) depth seen s ((l, v) :: members) = .ok s' ↔
      x.name ∉ seen ∧ ∃ a, x.read depth v = .ok a ∧
        readMembers (sh.slots.map Slot.member) depth (x.name :: seen) (x.set s a) members = .ok s' := by
  have hfind : ((sh.slots.map Slot.member).find? fun f => f.name == x.name) = some x.member := by
    have hmem : x.member ∈ sh.slots.map Slot.member := List.mem_map_of_mem hx
    have hself : (x.member.name == x.name) = true := beq_self_eq_true x.name
    obtain ⟨f, hf⟩ := Option.isSome_iff_exists.1 ((List.find?_isSome (p := fun f => f.name == x.name)).2
      ⟨x.member, hmem, hself⟩)
    obtain ⟨y, hy, rfl⟩ := List.mem_map.1 (List.mem_of_find?_eq_some hf)
    have hname : (y.member.name == x.name) = true := List.find?_some (p := fun f : Member σ => f.name == x.name) hf
    rw [hf, sh.eq_of_name hx hy (eq_of_beq hname)]
  simp only [readMembers, hname, ofText, ok_bind, hfind]
  show (if seen.contains x.name = true then .error .data
    else x.member.read depth v s >>= fun s => readMembers _ depth (x.name :: seen) s members) = .ok s' ↔ _
  by_cases hseen : x.name ∈ seen
  · rw [if_pos (by simpa using hseen)]
    exact ⟨fun h => absurd h (by simp), fun h => absurd hseen h.1⟩
  · rw [if_neg (by simpa using hseen), Slot.member_read_bind_eq_ok_iff]
    exact (and_iff_right hseen).symm

/-- What becomes of a record of which one slot is set. -/
theorem stands_set_iff (hx : x ∈ sh.slots) {a : x.Holds} {value? : Slot σ → Option Raw} (hvalue : value? x = none) :
    (∀ y ∈ sh.slots, Stands (y.read depth) (value? y) (y.get (x.set s a)) (y.get s')) ↔
      x.get s' = a ∧ ∀ y ∈ sh.slots, y.name ≠ x.name → Stands (y.read depth) (value? y) (y.get s) (y.get s') := by
  constructor
  · intro h
    constructor
    · have hself := h x hx
      rw [hvalue] at hself
      exact hself.trans (sh.get_set x hx s a)
    · intro y hy hne
      rw [← sh.get_set_other y hy x hx hne.symm s a]
      exact h y hy
  · rintro ⟨hself, hother⟩ y hy
    by_cases hname : y.name = x.name
    · obtain rfl := sh.eq_of_name hx hy hname
      rw [hvalue]
      exact hself.trans (sh.get_set y hy s a).symm
    · rw [sh.get_set_other y hy x hx (Ne.symm hname) s a]
      exact hother y hy hname

/-- **Members by their slots.** What the members of an object make of `s` is the record each slot of which is what it is
read as under its name, or what it is in `s`. -/
theorem readMembers_eq_ok_iff :
    readMembers (sh.slots.map Slot.member) depth seen s members = .ok s' ↔
      Orderly sh.known seen members ∧
        ∀ x ∈ sh.slots, Stands (x.read depth) (memberNamed? x.name members) (x.get s) (x.get s') := by
  induction members generalizing seen s with
  | nil =>
      constructor
      · rintro ⟨⟩
        exact ⟨⟨fun m hm => absurd hm List.not_mem_nil, .nil⟩, fun x hx => rfl⟩
      · rintro ⟨-, h⟩
        exact congrArg Except.ok (sh.ext s s' fun x hx => (h x hx).symm)
  | cons m members ih =>
      obtain ⟨l, v⟩ := m
      cases hl : l.text with
      | error f =>
          constructor
          · intro h
            rw [readMembers, hl] at h
            cases h
          · rintro ⟨horderly, -⟩
            obtain ⟨name, hname, -⟩ := horderly.named _ List.mem_cons_self
            cases hl.symm.trans hname
      | ok name =>
          by_cases hname : name ∈ sh.known
          · -- the slot of the member is set here, and no further member has its name
            obtain ⟨x, hx, rfl⟩ := List.mem_map.1 hname
            rw [readMembers_cons_known hx hl, Orderly.cons_known_iff hl hname, and_assoc]
            refine and_congr_right fun _ => ?_
            constructor
            · rintro ⟨a, ha, hrest⟩
              obtain ⟨horderly, hstands⟩ := ih.1 hrest
              obtain ⟨hself, hother⟩ := (stands_set_iff hx ((Orderly.seen_cons_iff hname).1 horderly).2).1 hstands
              refine ⟨horderly, fun y hy => ?_⟩
              by_cases hne : y.name = x.name
              · obtain rfl := sh.eq_of_name hx hy hne
                rw [memberNamed?_cons_self hl, hself]
                exact ha
              · rw [memberNamed?_cons_other (text_ne hl (Ne.symm hne))]
                exact hother y hy hne
            · rintro ⟨horderly, hstands⟩
              have hself := hstands x hx
              rw [memberNamed?_cons_self hl] at hself
              refine ⟨x.get s', hself, ih.2 ⟨horderly, ?_⟩⟩
              refine (stands_set_iff hx ((Orderly.seen_cons_iff hname).1 horderly).2).2 ⟨rfl, fun y hy hne => ?_⟩
              have hother := hstands y hy
              rwa [memberNamed?_cons_other (text_ne hl (Ne.symm hne))] at hother
          · rw [readMembers_cons_unknown hl hname, Orderly.cons_unknown_iff hl hname, ih, and_assoc]
            refine and_congr_right fun _ => and_congr_right fun _ => ?_
            refine forall_congr' fun x => forall_congr' fun hx => ?_
            have hne : name ≠ x.name := fun heq => hname (List.mem_map.2 ⟨x, hx, heq.symm⟩)
            rw [memberNamed?_cons_other (text_ne hl hne)]

/-- An item sets the slot at its place. -/
theorem readItems_cons {y : Slot σ} {later : List (Slot σ)} {items : List Raw} :
    readItems depth s ((y :: later).map Slot.member) (v :: items) = .ok s' ↔
      ∃ a, y.read depth v = .ok a ∧ readItems depth (y.set s a) (later.map Slot.member) items = .ok s' :=
  Slot.member_read_bind_eq_ok_iff

/-- The slots on either side of one have other names and hold what they held. -/
theorem get_set_beside {y : Slot σ} {first later : List (Slot σ)} (hslots : sh.slots = first ++ y :: later)
    (hx : x ∈ first ++ later) (a : y.Holds) : x.get (y.set s a) = x.get s := by
  have hmiddle : sh.slots.Perm (y :: (first ++ later)) := hslots ▸ List.perm_middle
  have hnames : ((y :: (first ++ later)).map Slot.name).Nodup := (hmiddle.map Slot.name).nodup_iff.1 sh.names
  rw [List.map_cons, List.nodup_cons] at hnames
  have hne : y.name ≠ x.name := fun heq => hnames.1 (heq ▸ List.mem_map_of_mem hx)
  exact sh.get_set_other x (hmiddle.mem_iff.2 (List.mem_cons_of_mem _ hx)) y (hmiddle.mem_iff.2 List.mem_cons_self) hne
    s a

/-- **Items by their slots.** What items make of `s`, from the slots after the first ones on. -/
theorem readItems_eq_ok_iff {first later : List (Slot σ)} (hslots : sh.slots = first ++ later) {items : List Raw} :
    readItems depth s (later.map Slot.member) items = .ok s' ↔
      items.length ≤ later.length ∧ (∀ x ∈ first, x.get s' = x.get s) ∧
        ∀ (i : Nat) (x : Slot σ), later[i]? = some x → Stands (x.read depth) items[i]? (x.get s) (x.get s') := by
  induction items generalizing s first later with
  | nil =>
      constructor
      · intro h
        rw [readItems] at h
        cases h
        exact ⟨Nat.zero_le _, fun _ _ => rfl, fun _ _ _ => rfl⟩
      · rintro ⟨-, hfirst, hlater⟩
        rw [readItems]
        refine congrArg Except.ok (sh.ext s s' fun x hx => ?_)
        rw [hslots, List.mem_append] at hx
        rcases hx with hx | hx
        · exact (hfirst x hx).symm
        · obtain ⟨i, hi⟩ := List.mem_iff_getElem?.1 hx
          exact (hlater i x hi).symm
  | cons v items ih =>
      cases later with
      | nil => simp [readItems]
      | cons y later =>
          have hy : y ∈ sh.slots := by
            rw [hslots]
            exact List.mem_append_right _ List.mem_cons_self
          have hslots' : sh.slots = (first ++ [y]) ++ later := by
            rw [hslots, List.append_assoc]
            rfl
          have hget : ∀ x ∈ first ++ later, ∀ a, x.get (y.set s a) = x.get s := fun x hx a => get_set_beside hslots hx a
          rw [readItems_cons]
          constructor
          · rintro ⟨a, ha, hrest⟩
            obtain ⟨hlen, hfirst, hlater⟩ := (ih hslots').1 hrest
            have hself : y.get s' = a :=
              (hfirst y (List.mem_append_right _ List.mem_cons_self)).trans (sh.get_set y hy s a)
            refine ⟨Nat.succ_le_succ hlen, fun x hx => ?_, fun i x hi => ?_⟩
            · rw [hfirst x (List.mem_append_left _ hx), hget x (List.mem_append_left _ hx)]
            · cases i with
              | zero =>
                  cases hi
                  exact hself ▸ ha
              | succ i =>
                  rw [← hget x (List.mem_append_right _ (List.mem_of_getElem? hi)) a]
                  exact hlater i x hi
          · rintro ⟨hlen, hfirst, hlater⟩
            refine ⟨y.get s', hlater 0 y rfl, (ih hslots').2 ⟨Nat.le_of_succ_le_succ hlen, fun x hx => ?_, ?_⟩⟩
            · rcases List.mem_append.1 hx with hx | hx
              · rw [hget x (List.mem_append_left _ hx)]
                exact hfirst x hx
              · cases List.mem_singleton.1 hx
                exact (sh.get_set y hy s _).symm
            · intro i x hi
              rw [hget x (List.mem_append_right _ (List.mem_of_getElem? hi))]
              exact hlater (i + 1) x hi

namespace Shape

/-- **A record in an object.** -/
theorem read_object_iff {fault : Option Fault} :
    sh.read (depth + 1) (.object members fault) = .ok s ↔
      fault = none ∧ Orderly sh.known [] members ∧
        ∀ x ∈ sh.slots, Stands (x.read depth) (memberNamed? x.name members) (x.get sh.unset) (x.get s) := by
  rw [← readMembers_eq_ok_iff]
  show (readMembers (sh.slots.map Slot.member) depth [] sh.unset members >>= fun s =>
    ofText (close fault) >>= fun _ => .ok s) = .ok s ↔ _
  rw [closed_eq_ok_iff, and_comm]

/-- **A record in an array.** -/
theorem read_array_iff {items : List Raw} {fault : Option Fault} :
    sh.read (depth + 1) (.array items fault) = .ok s ↔
      fault = none ∧ items.length ≤ sh.slots.length ∧
        ∀ (i : Nat) (x : Slot σ), sh.slots[i]? = some x → Stands (x.read depth) items[i]? (x.get sh.unset) (x.get s) := by
  have hitems : readItems depth sh.unset (sh.slots.map Slot.member) items = .ok s ↔ _ :=
    readItems_eq_ok_iff (List.nil_append sh.slots).symm
  show (readItems depth sh.unset (sh.slots.map Slot.member) items >>= fun s =>
    ofText (close fault) >>= fun _ => .ok s) = .ok s ↔ _
  rw [closed_eq_ok_iff, hitems, and_comm]
  simp

/-- Records are read from objects and arrays only, and only while a level of nesting is left. -/
theorem exists_of_read (h : sh.read depth v = .ok s) :
    ∃ d, depth = d + 1 ∧ ((∃ members, v = .object members none) ∨ ∃ items, v = .array items none) := by
  cases depth with
  | zero => cases v <;> cases h
  | succ d =>
      refine ⟨d, rfl, ?_⟩
      cases v with
      | object members fault =>
          obtain ⟨rfl, -, -⟩ := read_object_iff.1 h
          exact .inl ⟨members, rfl⟩
      | array items fault =>
          obtain ⟨rfl, -, -⟩ := read_array_iff.1 h
          exact .inr ⟨items, rfl⟩
      | _ => cases h

/-! ### What the members of an object have to do with the record -/

/-- The order of members does not matter. -/
theorem read_perm {fault : Option Fault} (h : sh.read depth (.object members fault) = .ok s)
    (hperm : members.Perm members') : sh.read depth (.object members' fault) = .ok s := by
  obtain ⟨d, rfl, -⟩ := exists_of_read h
  obtain ⟨rfl, horderly, hstands⟩ := read_object_iff.1 h
  refine read_object_iff.2 ⟨rfl, horderly.perm hperm, fun x hx => ?_⟩
  rw [horderly.memberNamed?_perm hperm (List.mem_map_of_mem hx)]
  exact hstands x hx

/-- A member that names no slot does not matter as long as it can be skipped. -/
theorem read_cons_unknown {fault : Option Fault} (h : sh.read depth (.object members fault) = .ok s)
    (hname : l.text = .ok name) (hunknown : name ∉ sh.known) (hskip : v.skip = .ok ()) :
    sh.read depth (.object ((l, v) :: members) fault) = .ok s := by
  obtain ⟨d, rfl, -⟩ := exists_of_read h
  obtain ⟨rfl, horderly, hstands⟩ := read_object_iff.1 h
  refine read_object_iff.2 ⟨rfl, (Orderly.cons_unknown_iff hname hunknown).2 ⟨hskip, horderly⟩, fun x hx => ?_⟩
  have hne : name ≠ x.name := fun heq => hunknown (List.mem_map.2 ⟨x, hx, heq.symm⟩)
  rw [memberNamed?_cons_other (text_ne hname hne)]
  exact hstands x hx

/-- A member with the name of a slot gives the slot, the other members give the rest of the record. -/
theorem read_cons_known_iff {fault : Option Fault} (hx : x ∈ sh.slots) (hname : l.text = .ok x.name) :
    sh.read (depth + 1) (.object ((l, v) :: members) fault) = .ok s ↔
      x.read depth v = .ok (x.get s) ∧ memberNamed? x.name members = none ∧
        sh.read (depth + 1) (.object members fault) = .ok (x.set s (x.get sh.unset)) := by
  have hknown : x.name ∈ sh.known := List.mem_map_of_mem hx
  rw [read_object_iff, read_object_iff, Orderly.cons_known_iff hname hknown, Orderly.seen_cons_iff hknown]
  constructor
  · rintro ⟨rfl, ⟨-, horderly, hnone⟩, hstands⟩
    have hself := hstands x hx
    rw [memberNamed?_cons_self hname] at hself
    refine ⟨hself, hnone, rfl, horderly, fun y hy => ?_⟩
    by_cases hne : y.name = x.name
    · obtain rfl := sh.eq_of_name hx hy hne
      rw [hnone]
      exact sh.get_set y hy s _
    · have hother := hstands y hy
      rw [memberNamed?_cons_other (text_ne hname (Ne.symm hne))] at hother
      rwa [sh.get_set_other y hy x hx (Ne.symm hne)]
  · rintro ⟨hself, hnone, rfl, horderly, hstands⟩
    refine ⟨rfl, ⟨List.not_mem_nil, horderly, hnone⟩, fun y hy => ?_⟩
    by_cases hne : y.name = x.name
    · obtain rfl := sh.eq_of_name hx hy hne
      rw [memberNamed?_cons_self hname]
      exact hself
    · have hother := hstands y hy
      rw [sh.get_set_other y hy x hx (Ne.symm hne)] at hother
      rwa [memberNamed?_cons_other (text_ne hname (Ne.symm hne))]

theorem set_set (hx : x ∈ sh.slots) (s : σ) (a b : x.Holds) : x.set (x.set s a) b = x.set s b := by
  refine sh.ext _ _ fun y hy => ?_
  by_cases hne : y.name = x.name
  · obtain rfl := sh.eq_of_name hx hy hne
    rw [sh.get_set y hy, sh.get_set y hy]
  · rw [sh.get_set_other y hy x hx (Ne.symm hne), sh.get_set_other y hy x hx (Ne.symm hne),
      sh.get_set_other y hy x hx (Ne.symm hne)]

/-- A slot that is set to what it holds. -/
theorem set_get (hx : x ∈ sh.slots) (s : σ) : x.set s (x.get s) = s := by
  refine sh.ext _ _ fun y hy => ?_
  by_cases hne : y.name = x.name
  · obtain rfl := sh.eq_of_name hx hy hne
    exact sh.get_set y hy s _
  · exact sh.get_set_other y hy x hx (Ne.symm hne) s _

variable {before after : List (Literal × Raw)} {fault : Option Fault}

/-- Another value for a slot changes the slot and nothing else. -/
theorem read_member_replaced (hx : x ∈ sh.slots) (hname : l.text = .ok x.name)
    (h : sh.read depth (.object (before ++ (l, v) :: after) fault) = .ok s) {v' : Raw} {f : x.Holds → x.Holds}
    (hf : ∀ d a, x.read d v = .ok a → x.read d v' = .ok (f a)) :
    sh.read depth (.object (before ++ (l, v') :: after) fault) = .ok (x.set s (f (x.get s))) := by
  obtain ⟨d, rfl, -⟩ := exists_of_read h
  obtain ⟨hself, hnone, hrest⟩ := (read_cons_known_iff hx hname).1 (read_perm h List.perm_middle)
  refine read_perm ((read_cons_known_iff hx hname).2 ⟨?_, hnone, ?_⟩) List.perm_middle.symm
  · rw [sh.get_set x hx]
    exact hf d _ hself
  · rwa [set_set hx]

/-- Without a member that gives a slot, the slot is what it is in a record of which nothing is given. -/
theorem read_member_removed (hx : x ∈ sh.slots) (hname : l.text = .ok x.name)
    (h : sh.read depth (.object (before ++ (l, v) :: after) fault) = .ok s) :
    sh.read depth (.object (before ++ after) fault) = .ok (x.set s (x.get sh.unset)) := by
  obtain ⟨d, rfl, -⟩ := exists_of_read h
  exact ((read_cons_known_iff hx hname).1 (read_perm h List.perm_middle)).2.2

/-! ### What the items of an array have to do with the record -/

/-- Another value for a slot changes the slot and nothing else. -/
theorem read_item_replaced {items : List Raw} {i : Nat} (hx : sh.slots[i]? = some x) (hv : items[i]? = some v)
    (h : sh.read depth (.array items fault) = .ok s) {v' : Raw} {f : x.Holds → x.Holds}
    (hf : ∀ d a, x.read d v = .ok a → x.read d v' = .ok (f a)) :
    sh.read depth (.array (items.set i v') fault) = .ok (x.set s (f (x.get s))) := by
  have hmem : x ∈ sh.slots := List.mem_of_getElem? hx
  obtain ⟨d, rfl, -⟩ := exists_of_read h
  obtain ⟨rfl, hlen, hstands⟩ := read_array_iff.1 h
  refine read_array_iff.2 ⟨rfl, by rwa [List.length_set], fun j y hy => ?_⟩
  by_cases hij : i = j
  · subst hij
    obtain rfl : x = y := Option.some.inj (hx.symm.trans hy)
    have hself := hstands i x hx
    rw [hv] at hself
    have hlt : i < items.length := (List.getElem?_eq_some_iff.1 hv).1
    rw [List.getElem?_set_self hlt]
    show x.read d v' = .ok (x.get (x.set s (f (x.get s))))
    rw [sh.get_set x hmem]
    exact hf d _ hself
  · -- at another place there is another slot
    have hne : x.name ≠ y.name := by
      intro heq
      obtain ⟨hi, hxi⟩ := List.getElem?_eq_some_iff.1 hx
      obtain ⟨hj, hyj⟩ := List.getElem?_eq_some_iff.1 hy
      have hnodup : sh.slots.Nodup := .of_map _ sh.names
      have hsame : sh.slots[i] = sh.slots[j] := by
        rw [hxi, hyj]
        exact sh.eq_of_name (List.mem_of_getElem? hy) hmem heq
      exact hij (hnodup.getElem_inj_iff.1 hsame)
    rw [List.getElem?_set_ne hij, sh.get_set_other y (List.mem_of_getElem? hy) x hmem hne]
    exact hstands j y hy

end Shape

end GatewayAuth.Json
