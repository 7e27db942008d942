import GatewayAuth.Json.Raw
import Mathlib.Data.List.TakeWhile

/-!
# `GatewayAuth.Proofs.Json.Grammar` — the grammar of JSON texts

Which texts spell a tree is said here without reference to the scanner: a literal is a row of units, a numeral has its
parts one after the other, and values, commas and brackets may have blanks between them. A literal and a numeral each
have a lemma for both directions; a numeral has to be followed by something that does not belong to it.

## Contents
- `LiteralText`, `NumeralText`: the texts of lexemes.
- `Spells`, `SpellsItems`, `SpellsMembers`: the texts of trees; `Document`: with blanks around.
- `Literal.scan_of_text`, `Literal.scanned`: literals are scanned as they are spelled.
- `scanNumeral_of_text`, `scanNumeral_scanned`: so are numerals.
-/

namespace GatewayAuth.Json

/-! ## The grammar -/

/-- The text of one unit of a literal. -/
inductive UnitText : LiteralUnit → List Char → Prop where
  | plain {c : Char} (control : ¬ c < ' ') (quote : c ≠ '"') (backslash : c ≠ '\\') : UnitText (.plain c) [c]
  | escaped {e c : Char} (stands : escapeChar? e = some c) : UnitText (.escaped c) ['\\', e]
  | code {a b c d : Char} {n : Nat} (digits : hexUnit? a b c d = some n) :
      UnitText (.code n) ['\\', 'u', a, b, c, d]

/-- The text of a literal after its opening quote. -/
inductive LiteralText : List LiteralUnit → List Char → Prop where
  | closed : LiteralText [] ['"']
  | unit {u : LiteralUnit} {us : List LiteralUnit} {cs rest : List Char} (here : UnitText u cs)
      (more : LiteralText us rest) : LiteralText (u :: us) (cs ++ rest)

/-- At least one digit and nothing else. -/
def IsDigits (ds : List Char) : Prop := ds ≠ [] ∧ ∀ c ∈ ds, c.isDigit = true

/-- The text of an exponent, if there is one. -/
inductive ExponentText : Option (Bool × List Char) → List Char → Prop where
  | none : ExponentText none []
  | some {mark : Char} {sign ds : List Char} {negative : Bool} (hmark : mark = 'e' ∨ mark = 'E')
      (hsign : negative = false ∧ (sign = [] ∨ sign = ['+']) ∨ negative = true ∧ sign = ['-']) (hds : IsDigits ds) :
      ExponentText (some (negative, ds)) (mark :: sign ++ ds)

/-- The text of a fraction, if there is one. -/
inductive FractionText : List Char → List Char → Prop where
  | none : FractionText [] []
  | some {ds : List Char} (hds : IsDigits ds) : FractionText ds ('.' :: ds)

/-- The text of a numeral: a sign, digits of which the first is zero only if it stands alone, a fraction and an
exponent. -/
inductive NumeralText (n : Numeral) : List Char → Prop where
  | mk {fraction exponent : List Char} (digits : IsDigits n.whole) (leading : ∀ ds, n.whole = '0' :: ds → ds = [])
      (hfraction : FractionText n.fraction fraction) (hexponent : ExponentText n.exponent exponent) :
      NumeralText n ((if n.negative then ['-'] else []) ++ n.whole ++ fraction ++ exponent)

/-- White space. -/
def Blanks (cs : List Char) : Prop := ∀ c ∈ cs, isBlank c = true

mutual
/-- The texts that spell a tree. -/
inductive Spells : Raw → List Char → Prop where
  | null : Spells .null ['n', 'u', 'l', 'l']
  | yes : Spells (.bool true) ['t', 'r', 'u', 'e']
  | no : Spells (.bool false) ['f', 'a', 'l', 's', 'e']
  | numeral {n : Numeral} {cs : List Char} (text : NumeralText n cs) : Spells (.numeral n) cs
  | string {us : List LiteralUnit} {cs : List Char} (text : LiteralText us cs) :
      Spells (.string ⟨us, none⟩) ('"' :: cs)
  | emptyArray {blanks : List Char} (hblanks : Blanks blanks) : Spells (.array [] none) ('[' :: blanks ++ [']'])
  | array {items : List Raw} {cs : List Char} (text : SpellsItems items cs) : Spells (.array items none) ('[' :: cs)
  | emptyObject {blanks : List Char} (hblanks : Blanks blanks) :
      Spells (.object [] none) ('\x7b' :: blanks ++ ['\x7d'])
  | object {members : List (Literal × Raw)} {cs : List Char} (text : SpellsMembers members cs) :
      Spells (.object members none) ('\x7b' :: cs)
/-- The texts of a tree with blanks in front. -/
inductive SpellsAfter : Raw → List Char → Prop where
  | mk {v : Raw} {before cs : List Char} (hbefore : Blanks before) (text : Spells v cs) : SpellsAfter v (before ++ cs)
/-- The texts of the items of an array, the closing bracket included. -/
inductive SpellsItems : List Raw → List Char → Prop where
  | last {v : Raw} {cs after : List Char} (text : SpellsAfter v cs) (hafter : Blanks after) :
      SpellsItems [v] (cs ++ after ++ [']'])
  | more {v : Raw} {items : List Raw} {cs after rest : List Char} (text : SpellsAfter v cs) (hafter : Blanks after)
      (hrest : SpellsItems items rest) : SpellsItems (v :: items) (cs ++ after ++ ',' :: rest)
/-- The texts of the members of an object, the closing brace included. -/
inductive SpellsMembers : List (Literal × Raw) → List Char → Prop where
  | last {us : List LiteralUnit} {v : Raw} {before name beside cs after : List Char} (hbefore : Blanks before)
      (hname : LiteralText us name) (hbeside : Blanks beside) (text : SpellsAfter v cs) (hafter : Blanks after) :
      SpellsMembers [(⟨us, none⟩, v)] (before ++ '"' :: name ++ beside ++ ':' :: cs ++ after ++ ['\x7d'])
  | more {us : List LiteralUnit} {v : Raw} {members : List (Literal × Raw)}
      {before name beside cs after rest : List Char} (hbefore : Blanks before) (hname : LiteralText us name)
      (hbeside : Blanks beside) (text : SpellsAfter v cs) (hafter : Blanks after)
      (hrest : SpellsMembers members rest) :
      SpellsMembers ((⟨us, none⟩, v) :: members) (before ++ '"' :: name ++ beside ++ ':' :: cs ++ after ++ ',' :: rest)
end

/-- A text that spells a tree, with blanks around it. -/
def Document (v : Raw) (cs : List Char) : Prop := ∃ body after, cs = body ++ after ∧ SpellsAfter v body ∧ Blanks after

theorem blanks_nil : Blanks [] := fun _ hc => absurd hc List.not_mem_nil

/-- There need not be blanks in front. -/
theorem Spells.after {v : Raw} {cs : List Char} (h : Spells v cs) : SpellsAfter v cs := .mk blanks_nil h

/-! ## Literals -/

theorem UnitText.scan {u : LiteralUnit} {cs : List Char} (h : UnitText u cs) (rest : List Char) :
    Literal.scan (cs ++ rest) = ((Literal.scan rest).1.cons u, (Literal.scan rest).2) := by
  cases h with
  | @plain c control quote backslash =>
      rw [List.singleton_append, Literal.scan.eq_7 c rest quote (fun h _ => backslash h) (fun _ _ _ _ _ h _ => backslash h)
        (fun _ h _ => backslash h) (fun _ _ h _ => backslash h), if_neg control]
  | @escaped e c stands =>
      have hu : e ≠ 'u' := by
        rintro rfl
        cases stands
      show Literal.scan ('\\' :: e :: rest) = _
      rw [Literal.scan.eq_6 e rest (fun _ _ _ _ _ h _ => hu h) hu, stands]
  | @code a b c d n digits =>
      show Literal.scan ('\\' :: 'u' :: a :: b :: c :: d :: rest) = _
      rw [Literal.scan.eq_4, digits]

/-- **A literal that is spelled is scanned.** -/
theorem Literal.scan_of_text {us : List LiteralUnit} {cs : List Char} (h : LiteralText us cs) (rest : List Char) :
    Literal.scan (cs ++ rest) = (⟨us, none⟩, some rest) := by
  induction h with
  | closed => exact Literal.scan.eq_2 rest
  | unit here more ih =>
      rw [List.append_assoc, here.scan, ih]
      rfl

/-- What scanning a literal comes to: a text that spells it, or a fault. -/
def Literal.Scanned (cs : List Char) : Literal × Option (List Char) → Prop
  | (l, some rest) => l.fault = none ∧ ∃ text, cs = text ++ rest ∧ LiteralText l.units text
  | (l, none) => l.fault ≠ none

theorem Literal.Scanned.unit {u : LiteralUnit} {here cs : List Char} {l : Literal} {rest? : Option (List Char)}
    (hu : UnitText u here) (h : Literal.Scanned cs (l, rest?)) : Literal.Scanned (here ++ cs) (l.cons u, rest?) := by
  cases rest? with
  | none => exact h
  | some rest =>
      obtain ⟨hfault, text, rfl, htext⟩ := h
      exact ⟨hfault, here ++ text, (List.append_assoc _ _ _).symm, .unit hu htext⟩

/-- **A literal is scanned as it is spelled.** -/
theorem Literal.scanned (cs : List Char) : Literal.Scanned cs (Literal.scan cs) := by
  fun_induction Literal.scan cs with
  | case1 => exact Option.some_ne_none _
  | case2 rest => exact ⟨rfl, ['"'], rfl, .closed⟩
  | case3 => exact Option.some_ne_none _
  | case4 a b c d rest n digits l rest' hscan ih =>
      rw [hscan] at ih
      exact ih.unit (.code digits)
  | case5 => exact Option.some_ne_none _
  | case6 => exact Option.some_ne_none _
  | case7 e rest _ hu c stands l rest' hscan ih =>
      rw [hscan] at ih
      exact ih.unit (.escaped stands)
  | case8 => exact Option.some_ne_none _
  | case9 => exact Option.some_ne_none _
  | case10 c rest quote hend _ _ hescape control l rest' hscan ih =>
      rw [hscan] at ih
      refine ih.unit (.plain control quote ?_)
      intro hc
      cases rest with
      | nil => exact hend hc rfl
      | cons e rest => exact hescape e rest hc rfl

/-! ## Numerals -/

/-- What may follow a value: nothing, a blank, or a mark between values. -/
def Delimited (cs : List Char) : Prop :=
  ∀ c rest, cs = c :: rest → isBlank c = true ∨ c = ',' ∨ c = ']' ∨ c = '\x7d'

/-- No digit stands at the front. -/
def Stops (cs : List Char) : Prop := ∀ c rest, cs = c :: rest → c.isDigit = false

theorem Delimited.ne {cs rest : List Char} {c : Char} (h : Delimited cs) (hcs : cs = c :: rest) :
    c.isDigit = false ∧ c ≠ '.' ∧ c ≠ 'e' ∧ c ≠ 'E' := by
  have hblank : ∀ {c}, isBlank c = true → c = ' ' ∨ c = '\n' ∨ c = '\t' ∨ c = '\r' := by
    intro c h
    simpa [isBlank, or_assoc] using h
  rcases h c rest hcs with hb | rfl | rfl | rfl
  · rcases hblank hb with rfl | rfl | rfl | rfl <;> decide
  · decide
  · decide
  · decide

theorem Delimited.stops {cs : List Char} (h : Delimited cs) : Stops cs := fun _ _ hcs => (h.ne hcs).1

theorem takeWhile_of_stops {ds rest : List Char} (hds : ∀ c ∈ ds, c.isDigit = true) (hrest : Stops rest) :
    (ds ++ rest).takeWhile Char.isDigit = ds ∧ (ds ++ rest).dropWhile Char.isDigit = rest := by
  have hend : rest.takeWhile Char.isDigit = [] ∧ rest.dropWhile Char.isDigit = rest := by
    cases rest with
    | nil => exact ⟨rfl, rfl⟩
    | cons c rest =>
        have hc : ¬ c.isDigit = true := Bool.not_eq_true _ ▸ hrest c rest rfl
        exact ⟨List.takeWhile_cons_of_neg hc, List.dropWhile_cons_of_neg hc⟩
  rw [List.takeWhile_append_of_pos hds, List.dropWhile_append_of_pos hds, hend.1, hend.2, List.append_nil]
  exact ⟨rfl, rfl⟩

theorem ExponentText.stops {e : Option (Bool × List Char)} {cs rest : List Char} (h : ExponentText e cs)
    (hrest : Delimited rest) : Stops (cs ++ rest) := by
  cases h with
  | none => exact hrest.stops
  | some hmark hsign hds =>
      intro c more hcs
      obtain ⟨rfl, -⟩ := List.cons.inj hcs
      rcases hmark with rfl | rfl <;> rfl

/-- The digits of an exponent. -/
def exponentDigits (n : Numeral) (negative : Bool) (r : List Char) : Raw × Option (List Char) :=
  match r.takeWhile Char.isDigit with
  | [] => (missingDigit r, none)
  | ds => (.numeral { n with exponent := some (negative, ds) }, some (r.dropWhile Char.isDigit))

/-- An exponent is a mark, a sign and digits. -/
theorem scanExponent_mark {mark : Char} (hmark : mark = 'e' ∨ mark = 'E') (n : Numeral) (r : List Char) :
    scanExponent n (mark :: r) =
      match r with
      | '+' :: r' => exponentDigits n false r'
      | '-' :: r' => exponentDigits n true r'
      | _ => exponentDigits n false r := by
  rcases hmark with rfl | rfl <;> rfl

theorem exponentDigits_of_isDigits {ds rest : List Char} (hds : IsDigits ds) (hrest : Stops rest) (n : Numeral)
    (negative : Bool) :
    exponentDigits n negative (ds ++ rest) = (.numeral { n with exponent := some (negative, ds) }, some rest) := by
  obtain ⟨htake, hdrop⟩ := takeWhile_of_stops hds.2 hrest
  obtain ⟨d, ds, rfl⟩ := List.exists_cons_of_ne_nil hds.1
  rw [exponentDigits, htake, hdrop]

/-- An exponent that is spelled is scanned. -/
theorem scanExponent_of_text {e : Option (Bool × List Char)} {cs rest : List Char} (h : ExponentText e cs)
    (hrest : Delimited rest) (n : Numeral) (hn : n.exponent = none) :
    scanExponent n (cs ++ rest) = (.numeral { n with exponent := e }, some rest) := by
  cases h with
  | none =>
      have hsame : ({ n with exponent := none } : Numeral) = n := by rw [← hn]
      rw [hsame]
      unfold scanExponent
      split
      · next heq => exact absurd rfl (hrest.ne heq).2.2.1
      · next heq => exact absurd rfl (hrest.ne heq).2.2.2
      · rfl
  | @some mark sign ds negative hmark hsign hds =>
      have hdigits := exponentDigits_of_isDigits hds hrest.stops n negative
      rw [List.cons_append, List.cons_append, scanExponent_mark hmark, List.append_assoc]
      rcases hsign with ⟨rfl, rfl | rfl⟩ | ⟨rfl, rfl⟩
      · -- without a sign the first digit stands where a sign might
        obtain ⟨d, ds, rfl⟩ := List.exists_cons_of_ne_nil hds.1
        have hd : d.isDigit = true := hds.2 d List.mem_cons_self
        rw [← hdigits]
        show (match d :: (ds ++ rest) with
          | '+' :: r' => exponentDigits n false r'
          | '-' :: r' => exponentDigits n true r'
          | _ => exponentDigits n false (d :: (ds ++ rest))) = _
        split
        · next heq =>
          obtain ⟨rfl, -⟩ := List.cons.inj heq
          cases hd
        · next heq =>
          obtain ⟨rfl, -⟩ := List.cons.inj heq
          cases hd
        · rfl
      · exact hdigits
      · exact hdigits

/-- A fraction that is spelled is scanned, and so is the exponent after it. -/
theorem scanFraction_of_text {f fs es rest : List Char} {e : Option (Bool × List Char)} (hf : FractionText f fs)
    (he : ExponentText e es) (hrest : Delimited rest) (n : Numeral) (hn : n.fraction = [] ∧ n.exponent = none) :
    scanFraction n (fs ++ (es ++ rest)) = (.numeral { n with fraction := f, exponent := e }, some rest) := by
  cases hf with
  | none =>
      have hsame : ({ n with fraction := [], exponent := e } : Numeral) = { n with exponent := e } := by rw [← hn.1]
      rw [hsame, ← scanExponent_of_text he hrest n hn.2]
      unfold scanFraction
      split
      · next r heq =>
        -- neither an exponent nor what follows a value starts with a point
        cases he with
        | none => exact absurd rfl (hrest.ne heq).2.1
        | some hmark =>
            obtain ⟨rfl, -⟩ := List.cons.inj heq
            rcases hmark with h | h <;> cases h
      · rfl
  | some hds =>
      obtain ⟨htake, hdrop⟩ := takeWhile_of_stops hds.2 (he.stops hrest)
      have hexponent := scanExponent_of_text he hrest { n with fraction := f } hn.2
      obtain ⟨d, ds, rfl⟩ := List.exists_cons_of_ne_nil hds.1
      rw [List.cons_append, scanFraction, htake, hdrop]
      exact hexponent

theorem FractionText.stops {f fs rest : List Char} (h : FractionText f fs) (hrest : Stops rest) : Stops (fs ++ rest) := by
  cases h with
  | none => exact hrest
  | some hds =>
      intro c more hcs
      obtain ⟨rfl, -⟩ := List.cons.inj hcs
      rfl

theorem scanMagnitude_of_isDigits {ds rest : List Char} (hds : IsDigits ds)
    (hleading : ∀ more, ds = '0' :: more → more = []) (hrest : Stops rest) (negative : Bool) :
    scanMagnitude negative (ds ++ rest) = scanFraction ⟨negative, ds, [], none⟩ rest := by
  obtain ⟨htake, hdrop⟩ := takeWhile_of_stops hds.2 hrest
  rw [scanMagnitude, htake, hdrop]
  split
  · exact absurd rfl hds.1
  · next d ds => cases hleading _ rfl
  · rfl

/-- **A numeral that is spelled is scanned.** -/
theorem scanNumeral_of_text {n : Numeral} {cs rest : List Char} (h : NumeralText n cs) (hrest : Delimited rest) :
    scanNumeral (cs ++ rest) = (.numeral n, some rest) := by
  obtain ⟨hdigits, hleading, hfraction, hexponent⟩ := h
  obtain ⟨negative, whole, f, e⟩ := n
  have hmagnitude : ∀ negative, scanMagnitude negative (whole ++ (_ ++ (_ ++ rest))) =
      (.numeral ⟨negative, whole, f, e⟩, some rest) :=
    fun negative => (scanMagnitude_of_isDigits hdigits hleading (hfraction.stops (hexponent.stops hrest)) negative).trans
      (scanFraction_of_text hfraction hexponent hrest ⟨negative, whole, [], none⟩ ⟨rfl, rfl⟩)
  simp only [List.append_assoc]
  cases negative with
  | true => exact hmagnitude true
  | false =>
      -- the first digit stands where the sign might
      obtain ⟨d, ds, rfl⟩ := List.exists_cons_of_ne_nil hdigits.1
      have hd : d.isDigit = true := hdigits.2 d List.mem_cons_self
      rw [← hmagnitude false]
      show scanNumeral (d :: (ds ++ _)) = scanMagnitude false (d :: (ds ++ _))
      unfold scanNumeral
      split
      · next heq =>
        obtain ⟨rfl, -⟩ := List.cons.inj heq
        cases hd
      · rfl

/-- What scanning comes to: a text that spells what is found as it should, or a fault. -/
def Scanned (P : Raw → List Char → Prop) (cs : List Char) : Raw × Option (List Char) → Prop
  | (v, some rest) => ∃ text, cs = text ++ rest ∧ P v text
  | (v, none) => v.skip ≠ .ok ()

theorem missingDigit_skip (rest : List Char) : (missingDigit rest).skip ≠ .ok () := by
  unfold missingDigit
  split
  · intro h
    cases h
  · intro h
    cases h

/-- What scanning comes to from more text in front. -/
theorem Scanned.front {P Q : Raw → List Char → Prop} {cs : List Char} {found : Raw × Option (List Char)}
    (front : List Char) (hPQ : ∀ v text, P v text → Q v (front ++ text)) (h : Scanned P cs found) :
    Scanned Q (front ++ cs) found := by
  obtain ⟨v, rest?⟩ := found
  cases rest? with
  | none => exact h
  | some rest =>
      obtain ⟨text, rfl, hP⟩ := h
      exact ⟨front ++ text, (List.append_assoc _ _ _).symm, hPQ v text hP⟩

theorem Scanned.imp {P Q : Raw → List Char → Prop} {cs : List Char} {found : Raw × Option (List Char)}
    (hPQ : ∀ v text, P v text → Q v text) (h : Scanned P cs found) : Scanned Q cs found :=
  Scanned.front [] hPQ h

/-- Digits are taken as far as they go. -/
theorem isDigits_takeWhile {cs : List Char} (hne : cs.takeWhile Char.isDigit ≠ []) :
    IsDigits (cs.takeWhile Char.isDigit) ∧ cs.takeWhile Char.isDigit ++ cs.dropWhile Char.isDigit = cs :=
  ⟨⟨hne, fun _ hc => List.mem_takeWhile_imp hc⟩, List.takeWhile_append_dropWhile⟩

theorem exponentDigits_scanned (n : Numeral) (negative : Bool) (cs : List Char) :
    Scanned (fun v text => IsDigits text ∧ v = .numeral { n with exponent := some (negative, text) }) cs
      (exponentDigits n negative cs) := by
  unfold exponentDigits
  split
  · exact missingDigit_skip cs
  · next hne =>
    obtain ⟨hdigits, hcs⟩ := isDigits_takeWhile hne
    exact ⟨cs.takeWhile Char.isDigit, hcs.symm, hdigits, rfl⟩

/-- An exponent is scanned as it is spelled. -/
theorem scanExponent_scanned (n : Numeral) (hn : n.exponent = none) (cs : List Char) :
    Scanned (fun v text => ∃ e, ExponentText e text ∧ v = .numeral { n with exponent := e }) cs (scanExponent n cs) := by
  have hmarked : ∀ {mark : Char} (hmark : mark = 'e' ∨ mark = 'E') (r : List Char),
      Scanned (fun v text => ∃ e, ExponentText e text ∧ v = .numeral { n with exponent := e }) (mark :: r)
        (scanExponent n (mark :: r)) := by
    intro mark hmark r
    rw [scanExponent_mark hmark]
    split
    · next r =>
      refine (exponentDigits_scanned n false r).front [mark, '+'] ?_
      rintro v text ⟨hdigits, rfl⟩
      exact ⟨_, .some hmark (.inl ⟨rfl, .inr rfl⟩) hdigits, rfl⟩
    · next r =>
      refine (exponentDigits_scanned n true r).front [mark, '-'] ?_
      rintro v text ⟨hdigits, rfl⟩
      exact ⟨_, .some hmark (.inr ⟨rfl, rfl⟩) hdigits, rfl⟩
    · refine (exponentDigits_scanned n false r).front [mark] ?_
      rintro v text ⟨hdigits, rfl⟩
      exact ⟨_, @ExponentText.some mark [] text false hmark (.inl ⟨rfl, .inl rfl⟩) hdigits, rfl⟩
  unfold scanExponent
  split
  · exact hmarked (.inl rfl) _
  · exact hmarked (.inr rfl) _
  · exact ⟨[], rfl, none, .none, by rw [← hn]⟩

/-- A fraction is scanned as it is spelled, and so is the exponent after it. -/
theorem scanFraction_scanned (n : Numeral) (hn : n.fraction = [] ∧ n.exponent = none) (cs : List Char) :
    Scanned (fun v text => ∃ f fs e es, text = fs ++ es ∧ FractionText f fs ∧ ExponentText e es ∧
      v = .numeral { n with fraction := f, exponent := e }) cs (scanFraction n cs) := by
  unfold scanFraction
  split
  · next r =>
    split
    · exact missingDigit_skip r
    · next hne =>
      obtain ⟨hdigits, hr⟩ := isDigits_takeWhile hne
      have h := (scanExponent_scanned { n with fraction := r.takeWhile Char.isDigit } hn.2
        (r.dropWhile Char.isDigit)).front ('.' :: r.takeWhile Char.isDigit)
        (Q := fun v text => ∃ f fs e es, text = fs ++ es ∧ FractionText f fs ∧ ExponentText e es ∧
          v = .numeral { n with fraction := f, exponent := e }) (by
            rintro v text ⟨e, he, rfl⟩
            exact ⟨_, _, e, text, rfl, .some hdigits, he, rfl⟩)
      rwa [List.cons_append, hr] at h
  · refine (scanExponent_scanned n hn.2 cs).imp ?_
    rintro v text ⟨e, he, rfl⟩
    exact ⟨[], [], e, text, rfl, .none, he, by rw [← hn.1]⟩

theorem scanMagnitude_scanned (negative : Bool) {sign : List Char} (hsign : sign = if negative then ['-'] else [])
    (cs : List Char) :
    Scanned (fun v text => ∃ n, v = .numeral n ∧ NumeralText n (sign ++ text)) cs (scanMagnitude negative cs) := by
  unfold scanMagnitude
  split
  · exact missingDigit_skip cs
  · intro h
    cases h
  · next hne hleading =>
    obtain ⟨hdigits, hcs⟩ := isDigits_takeWhile hne
    have h := (scanFraction_scanned ⟨negative, cs.takeWhile Char.isDigit, [], none⟩ ⟨rfl, rfl⟩
      (cs.dropWhile Char.isDigit)).front (cs.takeWhile Char.isDigit)
      (Q := fun v text => ∃ n, v = .numeral n ∧ NumeralText n (sign ++ text)) (by
        rintro v text ⟨f, fs, e, es, rfl, hf, he, rfl⟩
        refine ⟨_, rfl, ?_⟩
        rw [← List.append_assoc, ← List.append_assoc, hsign]
        refine .mk (n := ⟨negative, _, f, e⟩) hdigits ?_ hf he
        intro ds hds
        cases ds with
        | nil => rfl
        | cons d ds => exact absurd hds (hleading d ds))
    rwa [hcs] at h

/-- **A numeral is scanned as it is spelled.** -/
theorem scanNumeral_scanned (cs : List Char) :
    Scanned (fun v text => ∃ n, v = .numeral n ∧ NumeralText n text) cs (scanNumeral cs) := by
  unfold scanNumeral
  split
  · next r => exact (scanMagnitude_scanned true rfl r).front ['-'] fun v text h => h
  · exact (scanMagnitude_scanned false rfl cs).imp fun v text h => h

end GatewayAuth.Json
