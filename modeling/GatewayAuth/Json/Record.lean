import GatewayAuth.Json.Value

/-!
# `GatewayAuth.Json.Record` — reading trees as records

A record may be written as an object or as the array of its fields in order. In an object, members in any
order set the fields that they name; a member that names no field is skipped, one that repeats a field is
refused. In an array, fields that are missing at the end keep their defaults, and surplus items are refused.

## Contents
- `ReadError`: a fault of the text, or a value of the wrong shape.
- `readText`, `readInt64`, `readOptional`, `readList`, `readValue`: the leaves.
- `Member`, `readRecord`: records by the list of their fields.
-/

namespace GatewayAuth.Json

/-- Why a tree is not what a reader expects. -/
inductive ReadError where
  /-- The text itself is at fault. -/
  | text (fault : Fault)
  /-- The text is well-formed, but a value has the wrong type, or a field is repeated or missing. -/
  | data
  deriving DecidableEq, Repr

/-- A reader: given the levels of nesting that are left, it reads a tree. -/
abbrev Reader (α : Type) := Nat → Raw → Except ReadError α

/-- An outcome of reading text as an outcome of reading. -/
def ofText {α : Type} : Except Fault α → Except ReadError α
  | .ok a => .ok a
  | .error f => .error (.text f)

/-- What is wrong with a tree of an unexpected kind: literals are read first, so their faults count. -/
def mismatch : Raw → ReadError
  | .string l =>
    match l.text with
    | .ok _ => .data
    | .error f => .text f
  | .numeral n =>
    match n.number with
    | some _ => .data
    | none => .text .malformed
  | .cutNumeral => .text .ended
  | .broken f => .text f
  | _ => .data

/-! ## Leaves -/

/-- Read a text. -/
def readText : Reader String := fun _ v =>
  match v with
  | .string l => ofText l.text
  | v => .error (mismatch v)

/-- Read a 64-bit integer. -/
def readInt64 : Reader Int64 := fun _ v =>
  match v with
  | .numeral n =>
    match n.number with
    | some (.int i) =>
      if Decimal.int64Min ≤ i ∧ i ≤ Decimal.int64Max then .ok (Int64.ofInt i) else .error .data
    | some (.float _) => .error .data
    | none => .error (.text .malformed)
  | v => .error (mismatch v)

/-- Read a value that may be null. -/
def readOptional {α : Type} (read : Reader α) : Reader (Option α) := fun depth v =>
  match v with
  | .null => .ok none
  | v => (read depth v).map some

/-- Read all trees of a list. -/
def readAll {α : Type} (read : Raw → Except ReadError α) : List Raw → Except ReadError (List α)
  | [] => .ok []
  | v :: rest => do
    let a ← read v
    let as ← readAll read rest
    return a :: as

/-- Read an array of values of one kind. -/
def readList {α : Type} (read : Reader α) : Reader (List α) := fun depth v =>
  match v with
  | .array items fault =>
    match depth with
    | 0 => .error (.text .malformed)
    | depth + 1 => do
      let as ← readAll (read depth) items
      ofText (close fault)
      return as
  | v => .error (mismatch v)

/-- Read a free-form value. -/
def readValue : Reader Value := fun depth v => ofText (Value.ofRaw depth v)

/-! ## Records -/

/-- A field of a record `σ`: its name, and how a tree sets it. -/
structure Member (σ : Type) where
  name : String
  read : Nat → Raw → σ → Except ReadError σ

/-- The field that `read` reads and `set` stores. -/
def Member.of {σ α : Type} (name : String) (read : Reader α) (set : σ → α → σ) : Member σ :=
  ⟨name, fun depth v s => (read depth v).map (set s)⟩

/-- Read the members of an object; `seen` lists the fields set before. -/
def readMembers {σ : Type} (fields : List (Member σ)) (depth : Nat) (seen : List String) (s : σ) :
    List (Literal × Raw) → Except ReadError σ
  | [] => .ok s
  | (literal, v) :: rest => do
    let name ← ofText literal.text
    match fields.find? fun f => f.name == name with
    | none =>
      ofText v.skip
      readMembers fields depth seen s rest
    | some field =>
      if seen.contains name then throw .data
      let s ← field.read depth v s
      readMembers fields depth (name :: seen) s rest

/-- Read the items of an array as fields in order. -/
def readItems {σ : Type} (depth : Nat) (s : σ) :
    List (Member σ) → List Raw → Except ReadError σ
  | _, [] => .ok s
  | [], _ :: _ => .error (.text .malformed)
  | field :: fields, v :: rest => do
    let s ← field.read depth v s
    readItems depth s fields rest

/-- Read a record, starting from the defaults in `s`. -/
def readRecord {σ : Type} (fields : List (Member σ)) (s : σ) : Reader σ := fun depth v =>
  match v with
  | .array items fault =>
    match depth with
    | 0 => .error (.text .malformed)
    | depth + 1 => do
      let s ← readItems depth s fields items
      ofText (close fault)
      return s
  | .object members fault =>
    match depth with
    | 0 => .error (.text .malformed)
    | depth + 1 => do
      let s ← readMembers fields depth [] s members
      ofText (close fault)
      return s
  | v => .error (mismatch v)

/-- Read a text that holds one value and nothing else. -/
def readDocument {α : Type} (read : Reader α) (text : String) : Except ReadError α := do
  let (tree, more) := Raw.ofText text
  let a ← read nestingLimit tree
  if more then throw (.text .malformed)
  return a

end GatewayAuth.Json
