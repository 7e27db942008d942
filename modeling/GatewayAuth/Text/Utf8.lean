/-!
# `GatewayAuth.Text.Utf8` — text as octets

## Contents
- `octetsOf`, `octets`: the one to four octets of a character, and the octets of a text.
- `readOctets`: the text that octets stand for; every character has to be written in its shortest form.
- `readOctets_octets`: reading undoes writing.
-/

namespace GatewayAuth.Text

/-- The octets of a character. -/
def octetsOf (c : Char) : List Nat :=
  let n := c.toNat
  if n < 128 then [n]
  else if n < 2048 then [192 + n / 64, 128 + n % 64]
  else if n < 65536 then [224 + n / 4096, 128 + n / 64 % 64, 128 + n % 64]
  else [240 + n / 262144, 128 + n / 4096 % 64, 128 + n / 64 % 64, 128 + n % 64]

/-- The octets of a text. -/
def octets (cs : List Char) : List Nat := cs.flatMap octetsOf

/-- The character with a code point that its form reaches first with `least`. -/
def charFrom? (least n : Nat) : Option Char :=
  if h : n.isValidChar then if least ≤ n then some (Char.ofNatAux n h) else none else none

/-- The payload of an octet that continues a character. -/
def payload? (b : Nat) : Option Nat := if 128 ≤ b ∧ b < 192 then some (b - 128) else none

/-- Put a character in front of what is read after it. -/
def consChar (c : Option Char) (rest : Option (List Char)) : Option (List Char) :=
  match c, rest with
  | some c, some cs => some (c :: cs)
  | _, _ => none

/-- The text that octets stand for. -/
def readOctets : List Nat → Option (List Char)
  | [] => some []
  | b :: rest =>
    if b < 128 then consChar (charFrom? 0 b) (readOctets rest)
    else if b < 192 then none
    else if b < 224 then
      match rest with
      | b1 :: rest =>
        consChar ((payload? b1).bind fun p1 => charFrom? 128 ((b - 192) * 64 + p1)) (readOctets rest)
      | _ => none
    else if b < 240 then
      match rest with
      | b1 :: b2 :: rest =>
        consChar
          ((payload? b1).bind fun p1 => (payload? b2).bind fun p2 =>
            charFrom? 2048 (((b - 224) * 64 + p1) * 64 + p2))
          (readOctets rest)
      | _ => none
    else
      match rest with
      | b1 :: b2 :: b3 :: rest =>
        consChar
          ((payload? b1).bind fun p1 => (payload? b2).bind fun p2 => (payload? b3).bind fun p3 =>
            charFrom? 65536 ((((b - 240) * 64 + p1) * 64 + p2) * 64 + p3))
          (readOctets rest)
      | _ => none

theorem charFrom?_toNat {least : Nat} (c : Char) (h : least ≤ c.toNat) :
    charFrom? least c.toNat = some c := by
  have hv : c.toNat.isValidChar := c.valid
  have : Char.ofNatAux c.toNat hv = c := by
    have h2 := Char.ofNat_toNat c
    unfold Char.ofNat at h2
    rwa [dif_pos hv] at h2
  unfold charFrom?
  rw [dif_pos hv, if_pos h, this]

theorem payload?_add {n : Nat} (h : n < 64) : payload? (128 + n) = some n := by
  have h1 : 128 ≤ 128 + n ∧ 128 + n < 192 := by omega
  have h2 : 128 + n - 128 = n := by omega
  simp only [payload?, h1, and_self, if_true, h2]

theorem readOctets_one {b : Nat} (rest : List Nat) (h : b < 128) :
    readOctets (b :: rest) = consChar (charFrom? 0 b) (readOctets rest) := by
  conv => lhs; unfold readOctets
  rw [if_pos h]

theorem readOctets_two {b b1 p1 : Nat} (rest : List Nat) (h : 192 ≤ b) (h' : b < 224)
    (h1 : payload? b1 = some p1) :
    readOctets (b :: b1 :: rest) =
      consChar (charFrom? 128 ((b - 192) * 64 + p1)) (readOctets rest) := by
  conv => lhs; unfold readOctets
  rw [if_neg (by omega), if_neg (by omega), if_pos h']
  simp only [h1, Option.bind_some]

theorem readOctets_three {b b1 b2 p1 p2 : Nat} (rest : List Nat) (h : 224 ≤ b) (h' : b < 240)
    (h1 : payload? b1 = some p1) (h2 : payload? b2 = some p2) :
    readOctets (b :: b1 :: b2 :: rest) =
      consChar (charFrom? 2048 (((b - 224) * 64 + p1) * 64 + p2)) (readOctets rest) := by
  conv => lhs; unfold readOctets
  rw [if_neg (by omega), if_neg (by omega), if_neg (by omega), if_pos h']
  simp only [h1, h2, Option.bind_some]

theorem readOctets_four {b b1 b2 b3 p1 p2 p3 : Nat} (rest : List Nat) (h : 240 ≤ b)
    (h1 : payload? b1 = some p1) (h2 : payload? b2 = some p2) (h3 : payload? b3 = some p3) :
    readOctets (b :: b1 :: b2 :: b3 :: rest) =
      consChar (charFrom? 65536 ((((b - 240) * 64 + p1) * 64 + p2) * 64 + p3))
        (readOctets rest) := by
  conv => lhs; unfold readOctets
  rw [if_neg (by omega), if_neg (by omega), if_neg (by omega), if_neg (by omega)]
  simp only [h1, h2, h3, Option.bind_some]

/-- Reading the octets of a character gives the character. -/
theorem readOctets_octetsOf (c : Char) (rest : List Nat) :
    readOctets (octetsOf c ++ rest) = consChar (some c) (readOctets rest) := by
  have code (least n : Nat) (h : least ≤ c.toNat) (e : n = c.toNat) : charFrom? least n = some c :=
    e ▸ charFrom?_toNat c h
  have low (n : Nat) : n % 64 < 64 := Nat.mod_lt n (by decide)
  unfold octetsOf
  by_cases h1 : c.toNat < 128
  · simp only [h1, if_true, List.cons_append, List.nil_append]
    rw [readOctets_one rest h1, code 0 _ (Nat.zero_le _) rfl]
  · by_cases h2 : c.toNat < 2048
    · simp only [h1, h2, if_true, if_false, List.cons_append, List.nil_append]
      rw [readOctets_two rest (by omega) (by omega) (payload?_add (low _)),
        code _ _ (by omega) (by omega)]
    · by_cases h3 : c.toNat < 65536
      · simp only [h1, h2, h3, if_true, if_false, List.cons_append, List.nil_append]
        rw [readOctets_three rest (by omega) (by omega) (payload?_add (low _)) (payload?_add (low _)),
          code _ _ (by omega) (by omega)]
      · simp only [h1, h2, h3, if_false, List.cons_append, List.nil_append]
        rw [readOctets_four rest (by omega) (payload?_add (low _)) (payload?_add (low _))
          (payload?_add (low _)), code _ _ (by omega) (by omega)]

/-- Reading the octets of a text gives the text. -/
@[simp] theorem readOctets_octets (cs : List Char) : readOctets (octets cs) = some cs := by
  induction cs with
  | nil => rfl
  | cons c cs ih =>
    show readOctets (octetsOf c ++ octets cs) = _
    rw [readOctets_octetsOf, ih]
    rfl

end GatewayAuth.Text
