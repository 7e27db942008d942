import GatewayAuth.Url.Percent

/-!
# `GatewayAuth.Proofs.Url.Percent` — what is escaped can be read back

A text with some of its characters written by their octets stands for the same octets as the text itself, as long as
the percent sign is among the characters that are escaped. So reading gives the text back, and no two texts have the
same escaped form.

## Contents
- `escapes`, `mem_encode`: the characters of an escaped text.
- `octets_encode`: the octets that an escaped text stands for.
- `decode?_encode`, `encode_injective`: reading undoes escaping.
-/

namespace GatewayAuth.Url.Percent

/-! ## The characters of escaped texts -/

/-- The characters that octets are written with. -/
def escapes : List Char := '%' :: "0123456789ABCDEF".toList

theorem hexDigit_mem_escapes {n : Nat} (h : n < 16) : hexDigit n ∈ escapes := by
  revert h
  revert n
  decide

/-- The octets of a character are octets. -/
theorem lt_of_mem_octetsOf {c : Char} {b : Nat} (h : b ∈ Text.octetsOf c) : b < 256 := by
  have hvalid : c.toNat < 0x110000 := by
    rcases c.valid with hlow | ⟨-, hhigh⟩
    · show c.val.toNat < _
      omega
    · exact hhigh
  unfold Text.octetsOf at h
  dsimp only at h
  split at h
  · simp only [List.mem_singleton] at h
    omega
  · split at h
    · simp only [List.mem_cons, List.not_mem_nil, or_false] at h
      omega
    · split at h
      · simp only [List.mem_cons, List.not_mem_nil, or_false] at h
        omega
      · simp only [List.mem_cons, List.not_mem_nil, or_false] at h
        omega

theorem mem_encodeChar {c d : Char} (h : d ∈ encodeChar c) : d ∈ escapes := by
  obtain ⟨b, hb, hd⟩ := List.mem_flatMap.1 h
  have hlt := lt_of_mem_octetsOf hb
  have hhigh : hexDigit (b / 16) ∈ escapes := hexDigit_mem_escapes (by omega)
  have hlow : hexDigit (b % 16) ∈ escapes := hexDigit_mem_escapes (by omega)
  unfold encodeOctet at hd
  simp only [List.mem_cons, List.not_mem_nil, or_false] at hd
  rcases hd with rfl | rfl | rfl
  · exact List.mem_cons_self
  · exact hhigh
  · exact hlow

variable {escaped : Char → Bool} {cs cs' : List Char} {c : Char}

/-- A character of an escaped text stands for itself, or it belongs to an escape. -/
theorem mem_encode (h : c ∈ encode escaped cs) : (c ∈ cs ∧ escaped c = false) ∨ c ∈ escapes := by
  obtain ⟨d, hd, hc⟩ := List.mem_flatMap.1 h
  by_cases hescaped : escaped d = true
  · rw [if_pos hescaped] at hc
    exact .inr (mem_encodeChar hc)
  · rw [if_neg hescaped, List.mem_singleton] at hc
    subst hc
    exact .inl ⟨hd, by simpa using hescaped⟩

theorem encodeChar_eq (c : Char) :
    ∃ b rest, Text.octetsOf c = b :: rest ∧
      encodeChar c = '%' :: hexDigit (b / 16) :: hexDigit (b % 16) :: rest.flatMap encodeOctet := by
  have hsome : ∃ b rest, Text.octetsOf c = b :: rest := by
    unfold Text.octetsOf
    dsimp only
    split
    · exact ⟨_, _, rfl⟩
    · split
      · exact ⟨_, _, rfl⟩
      · split <;> exact ⟨_, _, rfl⟩
  obtain ⟨b, rest, heq⟩ := hsome
  refine ⟨b, rest, heq, ?_⟩
  unfold encodeChar
  rw [heq]
  rfl

theorem encode_ne_nil (h : cs ≠ []) : encode escaped cs ≠ [] := by
  obtain ⟨c, rest, rfl⟩ := List.exists_cons_of_ne_nil h
  show (if escaped c then encodeChar c else [c]) ++ encode escaped rest ≠ []
  by_cases hescaped : escaped c = true
  · obtain ⟨b, more, -, heq⟩ := encodeChar_eq c
    rw [if_pos hescaped, heq]
    nofun
  · rw [if_neg hescaped]
    nofun

/-! ## Reading -/

theorem digitValue?_hexDigit {n : Nat} (h : n < 16) : digitValue? (hexDigit n) = some n := by
  revert h
  revert n
  decide

theorem octet?_hexDigit {b : Nat} (h : b < 256) :
    octet? (hexDigit (b / 16)) (hexDigit (b % 16)) = some b := by
  unfold octet?
  rw [digitValue?_hexDigit (by omega), digitValue?_hexDigit (by omega)]
  show some (b / 16 * 16 + b % 16) = some b
  congr 1
  omega

/-- A character other than the percent sign stands for its own octets. -/
theorem octets_cons (h : c ≠ '%') (rest : List Char) :
    octets (c :: rest) = Text.octetsOf c ++ octets rest := by
  rw [octets]
  rintro d e more hc -
  exact h hc

/-- An octet that is written by its number stands for itself. -/
theorem octets_encodeOctet {b : Nat} (h : b < 256) (rest : List Char) :
    octets (encodeOctet b ++ rest) = b :: octets rest := by
  show octets ('%' :: hexDigit (b / 16) :: hexDigit (b % 16) :: rest) = _
  rw [octets, octet?_hexDigit h]

theorem octets_flatMap_encodeOctet (bs : List Nat) (h : ∀ b ∈ bs, b < 256) (rest : List Char) :
    octets (bs.flatMap encodeOctet ++ rest) = bs ++ octets rest := by
  induction bs with
  | nil => rfl
  | cons b bs ih =>
      have hrest := ih fun d hd => h d (List.mem_cons_of_mem _ hd)
      rw [List.flatMap_cons, List.append_assoc, octets_encodeOctet (h b List.mem_cons_self), hrest]
      rfl

/-- **An escaped text stands for the octets of the text**, if the percent sign is escaped. -/
theorem octets_encode (hpercent : escaped '%' = true) (cs rest : List Char) :
    octets (encode escaped cs ++ rest) = Text.octets cs ++ octets rest := by
  induction cs with
  | nil => rfl
  | cons c cs ih =>
      show octets ((if escaped c then encodeChar c else [c]) ++ encode escaped cs ++ rest) =
        Text.octetsOf c ++ Text.octets cs ++ octets rest
      rw [List.append_assoc, List.append_assoc, ← ih]
      by_cases hescaped : escaped c = true
      · rw [if_pos hescaped]
        exact octets_flatMap_encodeOctet _ (fun b hb => lt_of_mem_octetsOf hb) _
      · have hc : c ≠ '%' := by
          rintro rfl
          exact hescaped hpercent
        rw [if_neg hescaped]
        exact octets_cons hc _

/-- **Reading an escaped text gives the text back.** -/
theorem decode?_encode (hpercent : escaped '%' = true) (cs : List Char) :
    decode? (encode escaped cs) = some cs := by
  have hoctets := octets_encode hpercent cs []
  rw [List.append_nil] at hoctets
  unfold decode?
  rw [hoctets]
  show Text.readOctets (Text.octets cs ++ []) = some cs
  rw [List.append_nil, Text.readOctets_octets]

/-- No two texts have the same escaped form. -/
theorem encode_injective (hpercent : escaped '%' = true) (h : encode escaped cs = encode escaped cs') :
    cs = cs' := by
  have hread := decode?_encode hpercent cs
  rw [h, decode?_encode hpercent cs'] at hread
  exact (Option.some.inj hread).symm

end GatewayAuth.Url.Percent
