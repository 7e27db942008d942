import GatewayAuth.Proofs.Except
import GatewayAuth.Proofs.Url.Form
import GatewayAuth.Url.Parse

/-!
# `GatewayAuth.Proofs.Url.Path` — what becomes of texts that are put at the end of a path

A text becomes one part of a path, with the characters escaped that would end the part. There are exceptions: tabs and
line ends get lost, and a text that stands for a directory once they are gone does not come to stand in the path as what
it is. A path is the same text as another one only if it has the same parts.

## Contents
- `splitWhere_pathChars`, `path_eq_of_pathChars`: the parts of a path from its text.
- `IsPart`, `isPart_of_parse`: parts without a slash, and that paths read from a text have no others.
- `isSingleDot_encode`, `isDoubleDot_encode`: which texts stand for directories when they are escaped.
- `kept`, `escapedPart`: what a part tells of its text.
- `placed`, `path_push`, `path_extend`: a path with more texts at its end.
- `IsName`, `placed_of_isName`, `foldl_placed_of_isName`: texts that become one part each.
- `stem`, `ground_popIfEmpty`: the path below which parts are put.
-/

namespace GatewayAuth.Url

/-! ## Paths and their texts -/

/-- Whether a text can be told from its neighbours in a path. -/
def IsPart (part : List Char) : Prop := '/' ∉ part

theorem IsPart.beq_eq_false {part : List Char} (h : IsPart part) : ∀ c ∈ part, (c == '/') = false := by
  intro c hc
  exact beq_false_of_ne fun heq => h (heq ▸ hc)

theorem splitWhere_pathChars {path : List (List Char)} (h : ∀ part ∈ path, IsPart part) :
    splitWhere (· == '/') (path.flatMap ('/' :: ·)) = [] :: path := by
  have hsplit : ∀ path : List (List Char), (∀ part ∈ path, IsPart part) → ∀ part, IsPart part →
      splitWhere (· == '/') (part ++ path.flatMap ('/' :: ·)) = part :: path := by
    intro path
    induction path with
    | nil =>
        intro _ part hpart
        rw [List.flatMap_nil, List.append_nil]
        exact splitWhere_of_not hpart.beq_eq_false
    | cons next rest ih =>
        intro hall part hpart
        have hrest := ih (fun p hp => hall p (List.mem_cons_of_mem _ hp)) next (hall next List.mem_cons_self)
        show splitWhere _ (part ++ '/' :: (next ++ rest.flatMap ('/' :: ·))) = _
        rw [splitWhere_append (by rfl), splitWhere_of_not hpart.beq_eq_false, hrest]
        rfl
  exact hsplit path h [] (by simp [IsPart])

/-- **Paths with the same text are the same.** -/
theorem path_eq_of_pathChars {path path' : List (List Char)} (h : ∀ part ∈ path, IsPart part)
    (h' : ∀ part ∈ path', IsPart part)
    (heq : path.flatMap ('/' :: ·) = path'.flatMap ('/' :: ·)) : path = path' := by
  have hsplit := splitWhere_pathChars h
  rw [heq, splitWhere_pathChars h'] at hsplit
  exact (List.cons.inj hsplit).2.symm

theorem isPart_encode {escaped : Char → Bool} {cs : List Char}
    (h : '/' ∈ cs → escaped '/' = true) : IsPart (Percent.encode escaped cs) := by
  intro hslash
  rcases Percent.mem_encode hslash with ⟨hmem, hplain⟩ | hescape
  · rw [h hmem] at hplain
    cases hplain
  · exact absurd hescape (by decide)

/-! ## Paths that are read -/

theorem mem_of_mem_parent {path : List (List Char)} {part : List Char} (h : part ∈ parent path) : part ∈ path := by
  unfold parent at h
  split at h
  · exact h
  · exact List.dropLast_subset path h

theorem length_le_parent (path : List (List Char)) : path.length ≤ (parent path).length + 1 := by
  unfold parent
  split
  · exact Nat.le_succ _
  · rw [List.length_dropLast]
    omega

theorem isPart_resolveParts {parts : List (List Char)} :
    ∀ {path : List (List Char)}, (∀ part ∈ path, IsPart part) → (∀ part ∈ parts, IsPart part) →
      ∀ part ∈ resolveParts path parts, IsPart part := by
  induction parts with
  | nil => exact fun hpath _ => hpath
  | cons part parts ih =>
      intro path hpath hparts
      have hmore : ∀ p ∈ parts, IsPart p := fun p hp => hparts p (List.mem_cons_of_mem _ hp)
      have hending : ∀ p ∈ (if parts.isEmpty then [[]] else [] : List (List Char)), IsPart p := by
        intro p hp
        split at hp
        · rw [List.mem_singleton] at hp
          subst hp
          nofun
        · cases hp
      have hencoded : IsPart (Percent.encode Percent.inPath part) :=
        isPart_encode fun hmem => absurd hmem (hparts part List.mem_cons_self)
      rw [resolveParts]
      split
      · have habove : ∀ p ∈ parent path, IsPart p := fun p hp => hpath p (mem_of_mem_parent hp)
        exact ih (List.forall_mem_append.2 ⟨habove, hending⟩) hmore
      · split
        · exact ih (List.forall_mem_append.2 ⟨hpath, hending⟩) hmore
        · exact ih (List.forall_mem_append.2 ⟨hpath, List.forall_mem_singleton.2 hencoded⟩) hmore

theorem isPart_readPath {cs part : List Char} (h : part ∈ readPath cs) : IsPart part := by
  unfold readPath at h
  refine isPart_resolveParts (by nofun) (fun part hpart hslash => ?_) part h
  have hsplit := not_of_mem_splitWhere hpart hslash
  exact absurd hsplit (by decide)

theorem exists_readPath_of_located {kind : SchemeKind} {scheme : String} {cs : List Char} {u : Url}
    (h : readLocated kind scheme cs = .ok (.web u)) : ∃ path, u.path = readPath path := by
  obtain ⟨authority, -, hurl⟩ := exists_of_bind h
  by_cases hweb : scheme = "http" ∨ scheme = "https"
  · rw [if_pos hweb] at hurl
    cases hurl
    exact ⟨_, rfl⟩
  · rw [if_neg hweb] at hurl
    cases hurl

/-- **The parts of a path that is read from a text can be told from each other.** -/
theorem isPart_of_parse {text : String} {u : Url} (h : parse text = .ok (.web u)) {part : List Char}
    (hpart : part ∈ u.path) : IsPart part := by
  have hread : ∃ path, u.path = readPath path := by
    unfold parse at h
    dsimp only at h
    split at h
    · cases h
    · split at h
      · exact exists_readPath_of_located h
      · next hkind =>
        rename_i rest _ _
        cases hfile : checkFileHost rest with
        | error e =>
            rw [hfile] at h
            cases h
        | ok _ =>
            rw [hfile] at h
            cases h
      · split at h
        · exact exists_readPath_of_located h
        · cases h
  obtain ⟨path, hpath⟩ := hread
  exact isPart_readPath (hpath ▸ hpart)

/-! ## Texts that stand for directories -/

/-- The ways to write a dot. -/
def dots : List (List Char) := [['.'], ['%', '2', 'e']]

theorem lt_of_toLower {c : Char} (h : c.toLower.toNat < 128) : c.toNat < 128 := by
  unfold Char.toLower at h
  split at h
  · next hupper =>
    have hbound : 'Z'.val.toNat = 90 := rfl
    have hc : c.toNat = c.val.toNat := rfl
    have hle := UInt32.le_iff_toNat_le.1 hupper.2
    omega
  · exact h

/-- What holds of the ASCII characters with an ASCII letter in lower case holds of all characters with it. -/
theorem of_toLower {P : Char → Prop} {d : Char} (hd : d.toNat < 128)
    (hP : ∀ n < 128, (Char.ofNat n).toLower = d → P (Char.ofNat n)) {c : Char} (h : c.toLower = d) :
    P c :=
  of_ascii (P := fun c => c.toLower = d → P c) hP (lt_of_toLower (h ▸ hd)) h

/-- However a dot is written, it is the octet of a dot. -/
theorem octets_dot {d : List Char} (h : d.map Char.toLower ∈ dots) (rest : List Char) :
    Percent.octets (d ++ rest) = 46 :: Percent.octets rest := by
  unfold dots at h
  rcases List.mem_cons.1 h with hplain | h
  · obtain ⟨c, more, rfl, hc, hmore⟩ := List.map_eq_cons_iff.1 hplain
    rw [List.map_eq_nil_iff] at hmore
    subst hmore
    have hdot : c = '.' := of_toLower (P := (· = '.')) (by decide) (by decide) hc
    subst hdot
    exact Percent.octets_cons (by decide) rest
  · rw [List.mem_singleton] at h
    obtain ⟨a, more, rfl, ha, hmore⟩ := List.map_eq_cons_iff.1 h
    obtain ⟨b, more, rfl, hb, hmore⟩ := List.map_eq_cons_iff.1 hmore
    obtain ⟨c, more, rfl, hc, hmore⟩ := List.map_eq_cons_iff.1 hmore
    rw [List.map_eq_nil_iff] at hmore
    subst hmore
    have ha : a = '%' := of_toLower (P := (· = '%')) (by decide) (by decide) ha
    have hb : b = '2' := of_toLower (P := (· = '2')) (by decide) (by decide) hb
    have hc : c = 'e' ∨ c = 'E' :=
      of_toLower (P := fun c => c = 'e' ∨ c = 'E') (by decide) (by decide) hc
    have hread : Percent.octet? '2' c = some 46 := by
      rcases hc with rfl | rfl <;> rfl
    subst ha hb
    show Percent.octets ('%' :: '2' :: c :: rest) = _
    rw [Percent.octets, hread]

theorem isSingleDot_iff {part : List Char} :
    isSingleDot part = true ↔ part = ['.'] ∨ part.map Char.toLower = ['%', '2', 'e'] := by
  unfold isSingleDot
  rw [Bool.or_eq_true, beq_iff_eq, beq_iff_eq]

theorem isDoubleDot_iff {part : List Char} :
    isDoubleDot part = true ↔ ∃ a ∈ dots, ∃ b ∈ dots, part.map Char.toLower = a ++ b := by
  unfold isDoubleDot dots
  simp only [List.any_eq_true, beq_iff_eq]

/-- **Escaped, only a dot stands for the directory itself.** -/
theorem isSingleDot_encode (cs : List Char) :
    isSingleDot (Percent.encode Percent.inSegment cs) = true ↔ cs = ['.'] := by
  constructor
  · intro h
    have hdot : (Percent.encode Percent.inSegment cs).map Char.toLower ∈ dots := by
      rcases isSingleDot_iff.1 h with heq | heq
      · rw [heq]
        decide
      · rw [heq]
        decide
    have hoctets := octets_dot hdot []
    rw [List.append_nil] at hoctets
    have hread : Percent.decode? (Percent.encode Percent.inSegment cs) = some cs :=
      Percent.decode?_encode (by decide) cs
    unfold Percent.decode? at hread
    rw [hoctets] at hread
    exact (Option.some.inj hread).symm
  · rintro rfl
    decide

/-- **Escaped, only two dots stand for the directory above.** -/
theorem isDoubleDot_encode (cs : List Char) :
    isDoubleDot (Percent.encode Percent.inSegment cs) = true ↔ cs = ['.', '.'] := by
  constructor
  · intro h
    obtain ⟨a, ha, b, hb, heq⟩ := isDoubleDot_iff.1 h
    obtain ⟨first, second, hparts, hfirst, hsecond⟩ := List.map_eq_append_iff.1 heq
    have hoctets := octets_dot (d := first) (by rw [hfirst]; exact ha) (second ++ [])
    rw [octets_dot (d := second) (by rw [hsecond]; exact hb), List.append_nil, ← hparts] at hoctets
    have hread : Percent.decode? (Percent.encode Percent.inSegment cs) = some cs :=
      Percent.decode?_encode (by decide) cs
    unfold Percent.decode? at hread
    rw [hoctets] at hread
    exact (Option.some.inj hread).symm
  · rintro rfl
    decide

/-! ## One more part -/

/-- What is kept of a text in a path. -/
def kept (cs : List Char) : List Char := cs.filter fun c => !isDropped c

theorem kept_eq_self {cs : List Char} (h : ∀ c ∈ cs, isDropped c = false) : kept cs = cs :=
  List.filter_eq_self.2 fun c hc => by rw [h c hc]; rfl

/-- The part that is made of a text. -/
def escapedPart (s : List Char) : List Char := Percent.encode Percent.inSegment (kept s)

/-- A part tells what is kept of its text … -/
theorem decode?_escapedPart (s : List Char) : Percent.decode? (escapedPart s) = some (kept s) :=
  Percent.decode?_encode (by decide) (kept s)

theorem escapedPart_inj {s s' : List Char} (h : escapedPart s = escapedPart s') : kept s = kept s' :=
  Percent.encode_injective (by decide) h

/-- … and nothing else of the path. -/
theorem isPart_escapedPart (s : List Char) : IsPart (escapedPart s) := isPart_encode fun _ => by decide

/-- A path with a text put at its end. A text that plainly stands for a directory is left out; one that does
after tabs and line ends are dropped takes away the part before it, or leaves an empty part. The letter of a drive is
not taken away. -/
def placed (path : List (List Char)) (s : List Char) : List (List Char) :=
  if s = ['.'] ∨ s = ['.', '.'] then path
  else if kept s = ['.', '.'] then parent path ++ [[]]
  else if kept s = ['.'] then path ++ [[]]
  else path ++ [escapedPart s]

/-- Whether a text names something other than a directory, once tabs and line ends are dropped. -/
def IsName (s : List Char) : Prop := kept s ≠ ['.'] ∧ kept s ≠ ['.', '.']

instance (s : List Char) : Decidable (IsName s) := inferInstanceAs (Decidable (_ ∧ _))

/-- **A name becomes one part.** -/
theorem placed_of_isName {s : List Char} (h : IsName s) (path : List (List Char)) :
    placed path s = path ++ [escapedPart s] := by
  have hplain : ¬(s = ['.'] ∨ s = ['.', '.']) := by
    rintro (rfl | rfl)
    · exact h.1 rfl
    · exact h.2 rfl
  unfold placed
  rw [if_neg hplain, if_neg h.2, if_neg h.1]

/-- Names become one part each. -/
theorem foldl_placed_of_isName {parts : List (List Char)} (h : ∀ part ∈ parts, IsName part)
    (path : List (List Char)) : parts.foldl placed path = path ++ parts.map escapedPart := by
  induction parts generalizing path with
  | nil => exact (List.append_nil path).symm
  | cons part rest ih =>
      have hrest : ∀ p ∈ rest, IsName p := fun p hp => h p (List.mem_cons_of_mem _ hp)
      rw [List.foldl_cons, placed_of_isName (h part List.mem_cons_self), ih hrest, List.append_assoc]
      rfl

/-- The path below which parts are put: a single empty part counts as none. -/
def ground (path : List (List Char)) : List (List Char) := if path = [[]] then [] else path

/-- **What becomes of a text that is put at the end of a path.** -/
theorem path_push (u : Url) (s : List Char) (h : s ≠ ['.'] ∧ s ≠ ['.', '.'] ∨ u.path ≠ [[]]) :
    (u.push s).path = placed (ground u.path) s := by
  unfold push placed
  by_cases hdots : s = ['.'] ∨ s = ['.', '.']
  · have hpath : u.path ≠ [[]] := by
      rcases h with h | h
      · exact absurd hdots (not_or.2 h)
      · exact h
    rw [if_pos hdots, if_pos hdots]
    unfold ground
    rw [if_neg hpath]
  · rw [if_neg hdots, if_neg hdots]
    show pushPart u.path s = _
    unfold pushPart
    show (if isDoubleDot (escapedPart s) = true then parent (ground u.path) ++ [[]]
      else if isSingleDot (escapedPart s) = true then ground u.path ++ [[]]
      else ground u.path ++ [escapedPart s]) = _
    simp only [escapedPart, isDoubleDot_encode, isSingleDot_encode]

/-- A path of more than one part is a ground as it is, and stays one. -/
theorem ground_of_length {path : List (List Char)} (h : 2 ≤ path.length) : ground path = path := by
  have hne : path ≠ [[]] := by
    rintro rfl
    simp at h
  exact if_neg hne

theorem length_le_placed (path : List (List Char)) (s : List Char) (h : path ≠ []) :
    path.length ≤ (placed path s).length := by
  have hpos := List.length_pos_iff.2 h
  unfold placed
  split
  · exact Nat.le_refl _
  · split
    · rw [List.length_append]
      exact length_le_parent path
    · split <;> simp

/-- Further texts are put at the end of a path one after the other. -/
theorem path_extend (u : Url) (h : 2 ≤ u.path.length) (parts : List (List Char)) :
    (u.extend parts).path = parts.foldl placed u.path := by
  unfold extend
  induction parts generalizing u with
  | nil => rfl
  | cons part rest ih =>
      have hne : u.path ≠ [[]] := by
        intro heq
        rw [heq] at h
        simp at h
      have hnil : u.path ≠ [] := by
        intro heq
        rw [heq] at h
        simp at h
      have hpush := path_push u part (.inr hne)
      rw [ground_of_length h] at hpush
      have hlonger := length_le_placed u.path part hnil
      rw [List.foldl_cons, List.foldl_cons, ih _ (by rw [hpush]; omega), hpush]

/-! ## The stem of a path -/

/-- A path without one empty part at its end. -/
def stem (path : List (List Char)) : List (List Char) :=
  ground (if path.getLast? = some [] then path.dropLast else path)

theorem ground_popIfEmpty (u : Url) : ground u.popIfEmpty.path = stem u.path := by
  unfold popIfEmpty stem
  by_cases hlast : u.path.getLast? = some []
  · by_cases hlength : 1 < u.path.length
    · rw [if_pos ⟨hlength, hlast⟩, if_pos hlast]
    · have hone : u.path = [[]] := by
        obtain ⟨part, hpart⟩ : ∃ part, u.path = [part] := by
          cases hpath : u.path with
          | nil =>
              rw [hpath] at hlast
              cases hlast
          | cons part rest =>
              rw [hpath] at hlength
              have hnil : rest = [] := by
                simp only [List.length_cons] at hlength
                exact List.length_eq_zero_iff.1 (by omega)
              exact ⟨part, by rw [hnil]⟩
        rw [hpart] at hlast ⊢
        simpa using hlast
      rw [if_neg (fun hand => hlength hand.1), if_pos hlast, hone]
      rfl
  · rw [if_neg (fun hand => hlast hand.2), if_neg hlast]

theorem isPart_stem {path : List (List Char)} (h : ∀ part ∈ path, IsPart part) :
    ∀ part ∈ stem path, IsPart part := by
  intro part hpart
  have hfront : ∀ p ∈ (if path.getLast? = some [] then path.dropLast else path), IsPart p := by
    intro p hp
    split at hp
    · exact h p (List.dropLast_subset path hp)
    · exact h p hp
  unfold stem ground at hpart
  by_cases hsingle : (if path.getLast? = some [] then path.dropLast else path) = [[]]
  · rw [if_pos hsingle] at hpart
    cases hpart
  · rw [if_neg hsingle] at hpart
    exact hfront part hpart

/-- More parts change the path and nothing else. -/
theorem extend_eq (u : Url) (parts : List (List Char)) :
    u.extend parts = { u with path := (u.extend parts).path } := by
  unfold extend
  induction parts generalizing u with
  | nil => rfl
  | cons part rest ih =>
      rw [List.foldl_cons, ih]
      unfold push
      split <;> rfl

theorem popIfEmpty_eq (u : Url) : u.popIfEmpty = { u with path := u.popIfEmpty.path } := by
  unfold popIfEmpty
  split <;> rfl

end GatewayAuth.Url
