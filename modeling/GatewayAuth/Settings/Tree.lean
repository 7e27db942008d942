import GatewayAuth.Json.Value
import GatewayAuth.Table

/-!
# `GatewayAuth.Settings.Tree` — untyped settings, and layers of them

A source of settings gives a tree: values at paths of keys. A higher tree is laid over a lower one key by
key; wherever one of the two has no table, the higher one stands.

## Contents
- `Tree`: values, lists, and tables by key; of two entries with one key the first counts.
- `Tree.upon`: one tree laid over another, and `Tree.stack` for a list of layers.
- `Tree.at?`: the value at a path; `Tree.find?_overEntries` says which layer an entry comes from.
- `Tree.placed`: a single value at a path.
-/

namespace GatewayAuth.Settings

/-- Untyped settings. -/
inductive Tree where
  /-- A value that is left empty. -/
  | empty
  | flag (b : Bool)
  | whole (i : Int)
  /-- A number with a fraction or an exponent; no setting takes one, so its value is of no interest. -/
  | fraction
  /-- A single character in single quotes. -/
  | letter (c : Char)
  | text (s : String)
  | list (items : List Tree)
  | table (entries : List (String × Tree))
  deriving Repr

namespace Tree

instance : Inhabited Tree := ⟨.empty⟩

/-! ## Laying one tree over another -/

mutual
/-- The tree `high` laid over `low`. -/
def upon : Tree → Tree → Tree
  | .table highs, .table lows => .table (overEntries highs lows)
  | high, _ => high
/-- The entries of a table laid over those of another. -/
def overEntries : List (String × Tree) → List (String × Tree) → List (String × Tree)
  | [], lows => lows
  | (key, high) :: rest, lows =>
    Assoc.insert key
      (match Assoc.find? key lows with
        | some low => upon high low
        | none => high)
      (overEntries rest lows)
end

/-- All layers laid over one another; the last one is the highest. -/
def stack (layers : List Tree) : Tree := layers.foldl (fun low high => upon high low) (.table [])

/-! ## Values at paths -/

/-- The value at a path of keys. -/
def at? : List String → Tree → Option Tree
  | [], t => some t
  | key :: path, .table entries => (Assoc.find? key entries).bind (at? path)
  | _ :: _, _ => none

/-- A tree with a single value, at the given path. -/
def placed : List String → Tree → Tree
  | [], t => t
  | key :: path, t => .table [(key, placed path t)]

theorem at?_placed (path : List String) (t : Tree) : at? path (placed path t) = some t := by
  induction path with
  | nil => rfl
  | cons key path ih => simp [placed, at?, Assoc.find?, ih]

theorem upon_of_not_table {high low : Tree} (h : ∀ entries, high ≠ .table entries) :
    upon high low = high := by
  cases high with
  | table entries => exact absurd rfl (h entries)
  | _ => simp [upon]

theorem upon_of_table_of_not_table {highs : List (String × Tree)} {low : Tree}
    (h : ∀ entries, low ≠ .table entries) : upon (.table highs) low = .table highs := by
  cases low with
  | table entries => exact absurd rfl (h entries)
  | _ => simp [upon]

/-- An entry of the upper table is laid over the lower one of its key, if there is one. -/
theorem find?_overEntries (key : String) (highs lows : List (String × Tree)) :
    Assoc.find? key (overEntries highs lows) =
      match Assoc.find? key highs, Assoc.find? key lows with
      | some high, some low => some (upon high low)
      | some high, none => some high
      | none, low => low := by
  induction highs with
  | nil => simp [overEntries, Assoc.find?]
  | cons entry rest ih =>
    obtain ⟨key', high⟩ := entry
    simp only [overEntries, Assoc.find?_insert]
    by_cases h : key' = key
    · subst h
      simp only [if_true, Assoc.find?]
      cases Assoc.find? key' lows <;> rfl
    · simp only [h, if_false, Assoc.find?, ih]

/-! ## Trees of documents -/

mutual
/-- A JSON value as a tree. -/
def ofJson : Json.Value → Tree
  | .null => .empty
  | .bool b => .flag b
  | .number (.int i) => .whole i
  | .number (.float _) => .fraction
  | .string s => .text s
  | .array items => .list (ofJsonItems items)
  | .object members => .table (ofJsonMembers members)
/-- The items of an array as trees. -/
def ofJsonItems : List Json.Value → List Tree
  | [] => []
  | v :: rest => ofJson v :: ofJsonItems rest
/-- The members of an object as entries. -/
def ofJsonMembers : List (String × Json.Value) → List (String × Tree)
  | [] => []
  | (name, v) :: rest => (name, ofJson v) :: ofJsonMembers rest
end

end Tree

end GatewayAuth.Settings
