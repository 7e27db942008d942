import GatewayAuth.Settings.Tree

/-!
# `GatewayAuth.Settings.Toml.Outline` — tables while a TOML document is read

A table may come about in three ways: by a header of its own, because a longer header runs through it, or by
a dotted key. What may still be added to it depends on that, and nothing may be defined twice.

## Contents
- `Node`, `Origin`: what a key stands for so far.
- `openTable`, `openElement`: a header of a table, and of an element of a list of tables.
- `define`: a key and its value, below the last header.
- `Node.tree`: the finished tree.
-/

namespace GatewayAuth.Settings.Toml

/-- How a table came about. -/
inductive Origin where
  | header
  /-- A longer header runs through it. -/
  | passage
  | dotted
  deriving DecidableEq, Repr

/-- What a key stands for so far. -/
inductive Node where
  | value (t : Tree)
  | table (origin : Origin) (entries : List (String × Node))
  /-- A list of tables; the last element comes first. -/
  | elements (tables : List (List (String × Node)))

/-- The entries of a table. -/
abbrev Entries := List (String × Node)

/-- Change the table at a path. Tables on the way come about as needed; dotted keys do not lead into a table
with a header, and in a list of tables the path leads to the last element. -/
def within (dotted : Bool) (change : Origin → Entries → Option Entries) :
    List String → Origin → Entries → Option Entries
  | [], origin, entries => change origin entries
  | key :: path, _, entries => do
    let inner ← match Assoc.find? key entries with
      | none =>
        let origin : Origin := if dotted then .dotted else .passage
        (within dotted change path origin []).map (Node.table origin)
      | some (.table origin inner) =>
        if dotted ∧ origin = .header then none
        else (within dotted change path origin inner).map (Node.table origin)
      | some (.elements (last :: others)) =>
        (within dotted change path .header last).map fun last => Node.elements (last :: others)
      | some _ => none
    return Assoc.insert key inner entries

/-- Add a key with its value to a table. A dotted key ends in a table that a dotted key made. -/
def addEntry (isDotted : Bool) (key : String) (t : Tree) (origin : Origin) (entries : Entries) :
    Option Entries :=
  if (origin == .dotted) ≠ isDotted then none
  else if (Assoc.find? key entries).isSome then none
  else some (Assoc.insert key (.value t) entries)

/-- Define a key, the last of `path ++ [key]`, in the table with the given entries. -/
def addPath (path : List String) (key : String) (t : Tree) (entries : Entries) : Option Entries :=
  within true (addEntry (!path.isEmpty) key t) path .header entries

/-- Define a key below the header `header`. -/
def define (header path : List String) (key : String) (t : Tree) (root : Entries) : Option Entries :=
  within false (fun _ entries => addPath path key t entries) header .header root

/-- Open the table `path ++ [key]` by a header. -/
def openTable (path : List String) (key : String) (root : Entries) : Option Entries :=
  let header (_ : Origin) (entries : Entries) : Option Entries :=
    match Assoc.find? key entries with
    | none => some (Assoc.insert key (.table .header []) entries)
    | some (.table .passage inner) => some (Assoc.insert key (.table .header inner) entries)
    | some _ => none
  within false header path .header root

/-- Open a further element of the list of tables `path ++ [key]` by a header. -/
def openElement (path : List String) (key : String) (root : Entries) : Option Entries :=
  let append (_ : Origin) (entries : Entries) : Option Entries :=
    match Assoc.find? key entries with
    | none => some (Assoc.insert key (.elements [[]]) entries)
    | some (.elements tables) => some (Assoc.insert key (.elements ([] :: tables)) entries)
    | some _ => none
  within false append path .header root

/-! ## The finished tree -/

mutual
/-- The tree of what a key stands for. -/
def Node.tree : Node → Tree
  | .value t => t
  | .table _ entries => .table (entriesTree entries)
  | .elements tables => .list (elementTrees tables).reverse
/-- The trees of entries. -/
def entriesTree : List (String × Node) → List (String × Tree)
  | [] => []
  | (key, node) :: rest => (key, node.tree) :: entriesTree rest
/-- The trees of the elements of a list of tables. -/
def elementTrees : List (List (String × Node)) → List Tree
  | [] => []
  | entries :: rest => .table (entriesTree entries) :: elementTrees rest
end

end GatewayAuth.Settings.Toml
