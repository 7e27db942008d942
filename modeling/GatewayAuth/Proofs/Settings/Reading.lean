import GatewayAuth.Proofs.Except
import GatewayAuth.Settings.Layers
import Mathlib.Data.List.Nodup

/-!
# `GatewayAuth.Proofs.Settings.Reading` — what settings are read from

A section is read from a table by the keys of its fields, or from a list by their places. Either way each field meets a
value or none, and each part of the section is what one field makes of its value, or the default where there is none.
So sections are given part by part, and there is one exactly if every value can be read.

## Contents
- `Tree.part?`: the value that a field is read from.
- `Filled`: fields and the values that they meet, one after the other.
- `Part`, `Describes`: the parts of a section, each of which one field sets.
- `readSection_eq_ok_iff`: sections by their parts.
-/

namespace GatewayAuth.Settings

/-- The value from which a field is read: the entry for its key in a table, or the item at its place in a list. -/
def Tree.part? (key : String) (place : Nat) : Tree → Option Tree
  | .table entries => Assoc.find? key entries
  | .list items => items[place]?
  | _ => none

/-- Whether a section can be read from a tree of this kind. -/
def Tree.isSection : Tree → Bool
  | .table _ => true
  | .list _ => true
  | _ => false

variable {σ : Type} {s s' : σ} {t : Tree} {entries : List (String × Tree)} {items : List Tree}
  {field : Field σ} {fields : List (Field σ)}

theorem under_eq_ok_iff {α : Type} {key : String} {read : Read α} {a : α} :
    under key read = .ok a ↔ read = .ok a := by
  cases read with
  | ok b => rfl
  | error m => simp [under]

theorem Field.of_read_eq_ok_iff {α : Type} {key : String} {read : Tree → Read α} {set : σ → α → σ} :
    (Field.of key read set).read t s = .ok s' ↔ ∃ a, read t = .ok a ∧ set s a = s' :=
  map_eq_ok_iff

/-! ## Fields and the values that they meet -/

/-- Fields with the values that they meet make `s'` out of `s`. -/
inductive Filled : List (Field σ × Option Tree) → σ → σ → Prop where
  | done (s : σ) : Filled [] s s
  | unset {rest : List (Field σ × Option Tree)} {s s' : σ} (field : Field σ)
      (more : Filled rest s s') : Filled ((field, none) :: rest) s s'
  | set {rest : List (Field σ × Option Tree)} {s s₁ s' : σ} {field : Field σ} {t : Tree}
      (read : field.read t s = .ok s₁) (more : Filled rest s₁ s') :
      Filled ((field, some t) :: rest) s s'

/-- The values that fields meet in a table. -/
def inTable (entries : List (String × Tree)) (fields : List (Field σ)) : List (Field σ × Option Tree) :=
  fields.map fun field => (field, Assoc.find? field.key entries)

/-- The values that fields meet in a list. -/
def inList : List Tree → List (Field σ) → List (Field σ × Option Tree)
  | _, [] => []
  | [], field :: fields => (field, none) :: inList [] fields
  | t :: ts, field :: fields => (field, some t) :: inList ts fields

theorem filled_of_readEntries (h : readEntries entries fields s = .ok s') :
    Filled (inTable entries fields) s s' := by
  induction fields generalizing s with
  | nil =>
      cases h
      exact .done _
  | cons field fields ih =>
      rw [readEntries] at h
      rw [inTable, List.map_cons]
      cases hfind : Assoc.find? field.key entries with
      | none =>
          rw [hfind] at h
          exact .unset field (ih h)
      | some t =>
          rw [hfind] at h
          obtain ⟨s₁, hread, hrest⟩ := exists_of_bind h
          exact .set (under_eq_ok_iff.1 hread) (ih hrest)

theorem readEntries_of_filled (h : Filled (inTable entries fields) s s') :
    readEntries entries fields s = .ok s' := by
  induction fields generalizing s with
  | nil =>
      cases h
      rfl
  | cons field fields ih =>
      rw [inTable, List.map_cons] at h
      rw [readEntries]
      cases hfind : Assoc.find? field.key entries with
      | none =>
          rw [hfind] at h
          cases h with
          | unset _ more => exact ih more
      | some t =>
          rw [hfind] at h
          cases h with
          | set read more =>
              show under field.key (field.read t s) >>= _ = _
              rw [under_eq_ok_iff.2 read]
              exact ih more

/-- Without items no field meets a value. -/
theorem filled_inList_nil : Filled (inList [] fields) s s' ↔ s' = s := by
  induction fields with
  | nil =>
      refine ⟨fun h => ?_, fun h => h ▸ .done s⟩
      cases h
      rfl
  | cons field fields ih =>
      refine ⟨fun h => ?_, fun h => .unset field (ih.2 h)⟩
      cases h with
      | unset _ more => exact ih.1 more

theorem filled_of_readItems {n : Nat} (h : readItems .ignored n fields items s = .ok s') :
    Filled (inList items fields) s s' := by
  induction fields generalizing s n items with
  | nil =>
      cases items with
      | nil => cases h; exact .done _
      | cons t ts => cases h; exact .done _
  | cons field fields ih =>
      cases items with
      | nil =>
          cases h
          exact filled_inList_nil.2 rfl
      | cons t ts =>
          obtain ⟨s₁, hread, hrest⟩ := exists_of_bind h
          exact .set (under_eq_ok_iff.1 hread) (ih hrest)

theorem readItems_of_filled (n : Nat) (h : Filled (inList items fields) s s') :
    readItems .ignored n fields items s = .ok s' := by
  induction fields generalizing s n items with
  | nil =>
      cases items with
      | nil => cases h; rfl
      | cons t ts => cases h; rfl
  | cons field fields ih =>
      cases items with
      | nil =>
          rw [filled_inList_nil.1 h]
          rfl
      | cons t ts =>
          cases h with
          | set read more =>
              show under (Decimal.ofNat n) (field.read t s) >>= _ = _
              rw [under_eq_ok_iff.2 read]
              exact ih (n + 1) more

/-- In a list a field meets the item at its own place. -/
theorem mem_inList {value? : Option Tree} :
    (field, value?) ∈ inList items fields ↔ ∃ i : Nat, fields[i]? = some field ∧ items[i]? = value? := by
  induction fields generalizing items with
  | nil =>
      constructor
      · intro h
        cases items <;> cases h
      · rintro ⟨i, hi, -⟩
        cases hi
  | cons first fields ih =>
      have hsplit : (field, value?) ∈ inList items (first :: fields) ↔
          (field = first ∧ value? = items[0]?) ∨ (field, value?) ∈ inList items.tail fields := by
        cases items with
        | nil => simp [inList]
        | cons t ts => simp [inList]
      rw [hsplit, ih]
      constructor
      · rintro (⟨rfl, rfl⟩ | ⟨i, hi, rfl⟩)
        · exact ⟨0, rfl, rfl⟩
        · exact ⟨i + 1, hi, List.getElem?_tail.symm⟩
      · rintro ⟨i, hi, rfl⟩
        cases i with
        | zero => exact .inl ⟨(Option.some.inj hi).symm, rfl⟩
        | succ i => exact .inr ⟨i, hi, List.getElem?_tail⟩

theorem map_fst_inTable (entries : List (String × Tree)) (fields : List (Field σ)) :
    (inTable entries fields).map Prod.fst = fields := by
  rw [inTable, List.map_map]
  exact List.map_id fields

theorem map_fst_inList (items : List Tree) (fields : List (Field σ)) :
    (inList items fields).map Prod.fst = fields := by
  induction fields generalizing items with
  | nil => cases items <;> rfl
  | cons field fields ih =>
      cases items with
      | nil => exact congrArg (field :: ·) (ih [])
      | cons t ts => exact congrArg (field :: ·) (ih ts)

/-! ## Parts -/

/-- A part of a section, which one of its fields sets. -/
structure Part (σ : Type) where
  key : String
  /-- The place of the field among those of the section. -/
  place : Nat
  Value : Type
  read : Tree → Read Value
  get : σ → Value
  set : σ → Value → σ

/-- The field that sets a part. -/
def Part.toField (p : Part σ) : Field σ := Field.of p.key p.read p.set

/-- The parts of a section: each has a field of its own and is what the field stores, no other field changes it, and
there is nothing else to the section. -/
structure Describes (parts : List (Part σ)) (fields : List (Field σ)) : Prop where
  map_field : parts.map Part.toField = fields
  keys : (parts.map Part.key).Nodup
  places : parts.map Part.place = List.range parts.length
  get_set : ∀ p ∈ parts, ∀ t a, p.read t = .ok a → ∀ s, p.get (p.set s a) = a
  get_set_other : ∀ p ∈ parts, ∀ other ∈ parts, other.key ≠ p.key → ∀ s a, p.get (other.set s a) = p.get s
  ext : ∀ s s', (∀ p ∈ parts, p.get s = p.get s') → s = s'

variable {p : Part σ} {parts : List (Part σ)} {pairs : List (Field σ × Option Tree)} {value? : Option Tree}

/-- Fields with other keys leave a part alone. -/
theorem Filled.get_eq (h : Filled pairs s s')
    (hkeeps : ∀ field ∈ pairs.map Prod.fst, ∀ t s s', field.read t s = .ok s' → p.get s' = p.get s) :
    p.get s' = p.get s := by
  induction h with
  | done => rfl
  | unset field more ih => exact ih fun f hf => hkeeps f (List.mem_cons_of_mem _ hf)
  | set read more ih =>
      rw [ih fun f hf => hkeeps f (List.mem_cons_of_mem _ hf)]
      exact hkeeps _ List.mem_cons_self _ _ _ read

/-- What becomes of a part when its field meets `value?`. -/
theorem Filled.stands (h : Filled pairs s s') (hkeys : ((pairs.map Prod.fst).map Field.key).Nodup)
    (hreads : ∀ field ∈ pairs.map Prod.fst, field.key = p.key → ∀ t s s', field.read t s = .ok s' →
      p.read t = .ok (p.get s'))
    (hkeeps : ∀ field ∈ pairs.map Prod.fst, field.key ≠ p.key → ∀ t s s', field.read t s = .ok s' →
      p.get s' = p.get s)
    (hmem : (field, value?) ∈ pairs) (hkey : field.key = p.key) :
    Stands p.read value? (p.get s) (p.get s') := by
  induction h with
  | done => cases hmem
  | @unset rest s s' first more ih =>
      rw [List.map_cons, List.map_cons, List.nodup_cons] at hkeys
      rcases List.mem_cons.1 hmem with heq | hmem
      · cases heq
        refine more.get_eq fun other hother => hkeeps other (List.mem_cons_of_mem _ hother) fun hsame => ?_
        exact hkeys.1 (List.mem_map.2 ⟨other, hother, hsame.trans hkey.symm⟩)
      · exact ih hkeys.2 (fun f hf => hreads f (List.mem_cons_of_mem _ hf))
          (fun f hf => hkeeps f (List.mem_cons_of_mem _ hf)) hmem
  | @set rest s s₁ s' first t read more ih =>
      rw [List.map_cons, List.map_cons, List.nodup_cons] at hkeys
      rcases List.mem_cons.1 hmem with heq | hmem
      · cases heq
        show p.read t = .ok (p.get s')
        rw [more.get_eq fun other hother => hkeeps other (List.mem_cons_of_mem _ hother) fun hsame =>
          hkeys.1 (List.mem_map.2 ⟨other, hother, hsame.trans hkey.symm⟩)]
        exact hreads field List.mem_cons_self hkey t s s₁ read
      · -- the part is that of a field further on, so this one leaves it alone
        have hother : first.key ≠ p.key := by
          intro hsame
          refine hkeys.1 (List.mem_map.2 ⟨field, List.mem_map_of_mem hmem, ?_⟩)
          rw [hkey, hsame]
        rw [← hkeeps first List.mem_cons_self hother t s s₁ read]
        exact ih hkeys.2 (fun f hf => hreads f (List.mem_cons_of_mem _ hf))
          (fun f hf => hkeeps f (List.mem_cons_of_mem _ hf)) hmem

/-- Fields that can read the values that they meet make something out of any `s`. -/
theorem exists_filled
    (h : ∀ field t, (field, some t) ∈ pairs → ∀ s, ∃ s', field.read t s = .ok s') (s : σ) :
    ∃ s', Filled pairs s s' := by
  induction pairs generalizing s with
  | nil => exact ⟨s, .done s⟩
  | cons pair pairs ih =>
      obtain ⟨field, value?⟩ := pair
      have hrest := ih fun f t hmem => h f t (List.mem_cons_of_mem _ hmem)
      cases value? with
      | none =>
          obtain ⟨s', more⟩ := hrest s
          exact ⟨s', .unset field more⟩
      | some t =>
          obtain ⟨s₁, read⟩ := h field t List.mem_cons_self s
          obtain ⟨s', more⟩ := hrest s₁
          exact ⟨s', .set read more⟩

/-! ## Sections -/

/-- A section is read by filling its fields, in some order, each with its own value. -/
theorem exists_filled_of_isSection (hsection : t.isSection = true) (fields : List (Field σ)) :
    ∃ pairs, (pairs.map Prod.fst).Perm fields ∧
      (∀ field value?, (field, value?) ∈ pairs → ∃ i, fields[i]? = some field ∧
        t.part? field.key i = value?) ∧
      ∀ s s', readSection .ignored fields s t = .ok s' ↔ Filled pairs s s' := by
  cases t with
  | table entries =>
      refine ⟨inTable entries (Sorted.sort (fun a b => decide (a.key ≤ b.key)) fields), ?_, ?_,
        fun s s' => ⟨filled_of_readEntries, readEntries_of_filled⟩⟩
      · rw [map_fst_inTable]
        exact Sorted.perm_sort _ fields
      · intro field value? hmem
        obtain ⟨f, hf, heq⟩ := List.mem_map.1 hmem
        cases heq
        obtain ⟨i, hi⟩ := List.mem_iff_getElem?.1 (Sorted.mem_sort.1 hf)
        exact ⟨i, hi, rfl⟩
  | list items =>
      refine ⟨inList items fields, ?_, ?_,
        fun s s' => ⟨filled_of_readItems, readItems_of_filled 0⟩⟩
      · rw [map_fst_inList]
      · intro field value? hmem
        exact mem_inList.1 hmem
  | _ => cases hsection

theorem isSection_of_readSection {surplus : Surplus} (h : readSection surplus fields s t = .ok s') :
    t.isSection = true := by
  cases t with
  | table entries => rfl
  | list items => rfl
  | _ => cases h

namespace Describes

variable (h : Describes parts fields)
include h

theorem map_key : fields.map Field.key = parts.map Part.key := by
  rw [← h.map_field, List.map_map]
  rfl

theorem exists_of_mem (hfield : field ∈ fields) : ∃ p ∈ parts, p.toField = field :=
  List.mem_map.1 (h.map_field ▸ hfield)

/-- A field belongs to the part of its key. -/
theorem eq_of_key (hp : p ∈ parts) {other : Part σ} (hother : other ∈ parts) (hkey : other.key = p.key) :
    other = p :=
  List.inj_on_of_nodup_map h.keys hother hp hkey

theorem reads (hp : p ∈ parts) (hfield : field ∈ fields) (hkey : field.key = p.key) (t : Tree) (s s' : σ)
    (hread : field.read t s = .ok s') : p.read t = .ok (p.get s') := by
  obtain ⟨other, hother, rfl⟩ := h.exists_of_mem hfield
  obtain rfl := h.eq_of_key hp hother hkey
  obtain ⟨a, ha, rfl⟩ := Field.of_read_eq_ok_iff.1 hread
  rw [h.get_set other hp t a ha s]
  exact ha

theorem keeps (hp : p ∈ parts) (hfield : field ∈ fields) (hkey : field.key ≠ p.key) (t : Tree) (s s' : σ)
    (hread : field.read t s = .ok s') : p.get s' = p.get s := by
  obtain ⟨other, hother, rfl⟩ := h.exists_of_mem hfield
  obtain ⟨a, -, rfl⟩ := Field.of_read_eq_ok_iff.1 hread
  exact h.get_set_other p hp other hother hkey s a

theorem getElem?_place (hp : p ∈ parts) : parts[p.place]? = some p := by
  obtain ⟨i, hi⟩ := List.mem_iff_getElem?.1 hp
  have hlt : i < parts.length := (List.getElem?_eq_some_iff.1 hi).1
  have hplace : (parts.map Part.place)[i]? = some p.place := by
    rw [List.getElem?_map, hi, Option.map_some]
  rw [h.places, List.getElem?_range hlt] at hplace
  rw [← Option.some.inj hplace, hi]

/-- The place of a part is where its field is. -/
theorem place_eq (hp : p ∈ parts) {i : Nat} (hfield : fields[i]? = some field) (hkey : field.key = p.key) :
    p.place = i := by
  rw [← h.map_field, List.getElem?_map, Option.map_eq_some_iff] at hfield
  obtain ⟨other, hi, rfl⟩ := hfield
  obtain rfl := h.eq_of_key hp (List.mem_of_getElem? hi) hkey
  have hnodup : parts.Nodup := .of_map _ h.keys
  obtain ⟨hlt, hi⟩ := List.getElem?_eq_some_iff.1 hi
  obtain ⟨hlt', hplace⟩ := List.getElem?_eq_some_iff.1 (h.getElem?_place hp)
  exact hnodup.getElem_inj_iff.1 (hplace.trans hi.symm)

end Describes

/-- **A section by its parts.** What is read is a section, each part of which is what its value is read as. -/
theorem readSection_eq_ok_iff (h : Describes parts fields) :
    readSection .ignored fields s t = .ok s' ↔
      t.isSection = true ∧ ∀ p ∈ parts, Stands p.read (t.part? p.key p.place) (p.get s) (p.get s') := by
  by_cases hsection : t.isSection = true
  · obtain ⟨pairs, hperm, hvalues, hfilled⟩ := exists_filled_of_isSection hsection fields
    have hkeys : ((pairs.map Prod.fst).map Field.key).Nodup := by
      rw [(hperm.map _).nodup_iff, h.map_key]
      exact h.keys
    -- whatever comes out of the values, its parts stand
    have hstands : ∀ s₁, Filled pairs s s₁ →
        ∀ p ∈ parts, Stands p.read (t.part? p.key p.place) (p.get s) (p.get s₁) := by
      intro s₁ filled p hp
      have hfield : p.toField ∈ pairs.map Prod.fst := by
        rw [hperm.mem_iff, ← h.map_field]
        exact List.mem_map_of_mem hp
      obtain ⟨⟨field, value?⟩, hmem, hfst⟩ := List.mem_map.1 hfield
      have hkey : field.key = p.key := congrArg Field.key hfst
      obtain ⟨i, hi, hvalue⟩ := hvalues field value? hmem
      rw [h.place_eq hp hi hkey, ← hkey, hvalue]
      exact filled.stands hkeys (fun f hf hfkey => h.reads hp (hperm.mem_iff.1 hf) hfkey)
        (fun f hf hfkey => h.keeps hp (hperm.mem_iff.1 hf) hfkey) hmem hkey
    rw [hfilled s s']
    refine ⟨fun filled => ⟨hsection, hstands s' filled⟩, fun ⟨_, hparts⟩ => ?_⟩
    obtain ⟨s₁, filled⟩ : ∃ s₁, Filled pairs s s₁ := by
      refine exists_filled (fun field t' hmem s => ?_) s
      obtain ⟨i, hi, hvalue⟩ := hvalues field _ hmem
      obtain ⟨p, hp, rfl⟩ := h.exists_of_mem (List.mem_of_getElem? hi)
      have hpart := hparts p hp
      rw [h.place_eq hp hi rfl] at hpart
      rw [show t.part? p.key i = some t' from hvalue] at hpart
      exact ⟨_, Field.of_read_eq_ok_iff.2 ⟨_, hpart, rfl⟩⟩
    -- there is only one section with these parts
    have hsame : s₁ = s' := h.ext s₁ s' fun p hp => (hstands s₁ filled p hp).unique (hparts p hp)
    exact hsame ▸ filled
  · refine ⟨fun hread => absurd (isSection_of_readSection hread) hsection, fun hparts => ?_⟩
    exact absurd hparts.1 hsection

end GatewayAuth.Settings
