import GatewayAuth.Redaction

/-!
# `GatewayAuth.Proofs.Redaction.Pattern` — what a replacement throughout a text does

A pattern recognises a lead with something after it, and what comes after the lead is replaced. The result of replacing
throughout a text is a relation between the two texts, built from characters that are kept and stretches in which what
follows a lead is replaced. Where a word stands in the new text, either it stood in the old one as well, with no match at
that place, or it is a stretch of the new text that starts with a lead; nothing else is possible if the word cannot overlap
with such a stretch, which is a matter of comparing finitely many texts.

## Contents
- `IsRun`: a stretch of characters of one kind, as long as possible.
- `Pattern`, `Pattern.Match`, `MatchesAt`: what is recognised, and where.
- `Follows`: a rule that recognises what a pattern does; the three rules do.
- `Passed`, `passed_replaceAll`: a text before and after.
- `Passed.eq_of_settled`: a text in which everything is replaced already stays as it is.
- `Apart`, `Occurrence`, `Passed.occurrence`: where a word in the new text comes from.
-/

namespace GatewayAuth.Redaction

open GatewayAuth.Text

/-! ## Runs -/

/-- The characters of a kind at the front of a text. -/
structure IsRun (kind : Char → Bool) (run rest : List Char) : Prop where
  inside : ∀ c ∈ run, kind c = true
  after : ∀ c ∈ rest.head?, kind c = false

section
variable {kind : Char → Bool} {run rest run' rest' : List Char}

theorem isRun_takeWhile (kind : Char → Bool) (cs : List Char) :
    IsRun kind (cs.takeWhile kind) (cs.dropWhile kind) := by
  induction cs with
  | nil => exact ⟨nofun, nofun⟩
  | cons c rest ih =>
      by_cases hc : kind c = true
      · rw [List.takeWhile_cons_of_pos hc, List.dropWhile_cons_of_pos hc]
        refine ⟨fun d hd => ?_, ih.after⟩
        rcases List.mem_cons.1 hd with rfl | hd
        · exact hc
        · exact ih.inside d hd
      · rw [List.takeWhile_cons_of_neg hc, List.dropWhile_cons_of_neg hc]
        refine ⟨nofun, fun d hd => ?_⟩
        rw [List.head?_cons, Option.mem_def, Option.some.injEq] at hd
        subst hd
        simpa using hc

theorem IsRun.takeWhile_eq (h : IsRun kind run rest) : (run ++ rest).takeWhile kind = run := by
  rw [List.takeWhile_append_of_pos h.inside]
  cases rest with
  | nil => simp
  | cons c rest =>
      have hc : ¬kind c = true := by simpa using h.after c rfl
      rw [List.takeWhile_cons_of_neg hc, List.append_nil]

/-- A text has only one run at its front. -/
theorem IsRun.unique (h : IsRun kind run rest) (h' : IsRun kind run' rest')
    (heq : run ++ rest = run' ++ rest') : run = run' ∧ rest = rest' := by
  have hrun : run = run' := by rw [← h.takeWhile_eq, heq, h'.takeWhile_eq]
  subst hrun
  exact ⟨rfl, List.append_cancel_left heq⟩

theorem IsRun.dropWhile_eq (h : IsRun kind run rest) : (run ++ rest).dropWhile kind = rest :=
  ((isRun_takeWhile kind _).unique h List.takeWhile_append_dropWhile).2

end

/-! ## Patterns -/

/-- What is recognised in a text, and what takes its place. -/
structure Pattern where
  /-- What may stand in front. -/
  guard : Option Char → Bool
  /-- What it starts with. -/
  leads : List (List Char)
  /-- What follows a lead and is recognised with it, given the text after that. -/
  takes : List Char → List Char → Prop
  /-- What it is replaced by. -/
  stand : List Char
  /-- The characters that cannot come next. -/
  goesOn : Char → Bool

/-- A pattern matches somewhere in a text. -/
structure Pattern.Match (p : Pattern) (text front lead gone rest : List Char) : Prop where
  eq : text = front ++ (lead ++ (gone ++ rest))
  guard : p.guard front.getLast? = true
  lead : lead ∈ p.leads
  takes : p.takes gone rest

/-- A pattern matches at the front of a text, given the character before. -/
def Pattern.MatchesAt (p : Pattern) (before : Option Char) (cs : List Char) : Prop :=
  p.guard before = true ∧ ∃ lead ∈ p.leads, ∃ gone rest, cs = lead ++ (gone ++ rest) ∧ p.takes gone rest

/-- What is recognised is never nothing, and it does not end before it has to. -/
structure Pattern.Proper (p : Pattern) : Prop where
  lead_ne : ∀ lead ∈ p.leads, lead ≠ []
  gone_ne : ∀ {gone rest}, p.takes gone rest → gone ≠ []
  ends : ∀ {gone rest}, p.takes gone rest → ∀ c ∈ rest.head?, p.goesOn c = false

/-- A rule recognises what a pattern does. -/
structure Follows (rule : Rule) (p : Pattern) : Prop where
  of_some : ∀ {before cs hit}, rule before cs = some hit → p.guard before = true ∧
    ∃ lead ∈ p.leads, ∃ gone rest, cs = lead ++ (gone ++ rest) ∧ p.takes gone rest ∧
      hit = ⟨lead ++ p.stand, (lead ++ gone).length - 1⟩
  of_none : ∀ {before cs}, rule before cs = none → ¬p.MatchesAt before cs

/-! ## The three patterns -/

/-- One of the names with an equals sign, and a value after it. -/
def named (guard : Option Char → Bool) (names : List String) : Pattern where
  guard := guard
  leads := names.map fun name => name.toList ++ ['=']
  takes gone rest := gone ≠ [] ∧ IsRun isValueChar gone rest
  stand := placeholder
  goesOn := isValueChar

/-- The name of a credential, not in the middle of a word. -/
def queryPattern : Pattern := named (fun before => !before.any isWord) queryNames

/-- The name of a credential in brackets. -/
def bracketPattern : Pattern := named (fun _ => true) bracketNames

/-- A bearer token after blanks. -/
def bearerPattern : Pattern where
  guard _ := true
  leads := [bearer]
  takes gone rest := ∃ blanks token, gone = blanks ++ token ∧ blanks ≠ [] ∧
    IsRun isBlank blanks (token ++ rest) ∧ token ≠ [] ∧ IsRun isTokenChar token rest
  stand := ' ' :: placeholder
  goesOn := isTokenChar

theorem proper_named (guard : Option Char → Bool) (names : List String) : (named guard names).Proper where
  lead_ne lead hlead := by
    obtain ⟨name, -, rfl⟩ := List.mem_map.1 hlead
    simp
  gone_ne h := h.1
  ends h := h.2.after

theorem proper_bearer : bearerPattern.Proper where
  lead_ne lead hlead := by
    rw [List.mem_singleton.1 hlead]
    decide
  gone_ne h := by
    obtain ⟨blanks, token, rfl, hblanks, -⟩ := h
    exact List.append_ne_nil_of_left_ne_nil hblanks token
  ends h := by
    obtain ⟨blanks, token, -, -, -, -, htoken⟩ := h
    exact htoken.after

theorem follows_named (guard : Option Char → Bool) (names : List String) :
    Follows (fun before cs => if guard before = true then namedValue names cs else none)
      (named guard names) := by
  constructor
  · intro before cs hit hrule
    by_cases hguard : guard before = true
    · rw [if_pos hguard] at hrule
      obtain ⟨name, hname, hhit⟩ := List.exists_of_findSome?_eq_some hrule
      dsimp only at hhit
      by_cases hlead : (name.toList ++ ['=']).isPrefixOf cs = true
      · obtain ⟨after, rfl⟩ := List.isPrefixOf_iff_prefix.1 hlead
        rw [if_pos hlead, List.drop_left] at hhit
        by_cases hvalue : (after.takeWhile isValueChar).isEmpty = true
        · rw [if_pos hvalue] at hhit
          cases hhit
        · rw [if_neg hvalue] at hhit
          cases hhit
          refine ⟨hguard, _, List.mem_map.2 ⟨name, hname, rfl⟩, after.takeWhile isValueChar,
            after.dropWhile isValueChar, ?_, ⟨by simpa using hvalue, isRun_takeWhile isValueChar after⟩, ?_⟩
          · rw [List.takeWhile_append_dropWhile]
          · simp only [List.length_append]
            rfl
      · rw [if_neg hlead] at hhit
        cases hhit
    · rw [if_neg hguard] at hrule
      cases hrule
  · rintro before cs hrule ⟨hguard, lead, hlead, gone, rest, rfl, hne, hrun⟩
    obtain ⟨name, hname, rfl⟩ := List.mem_map.1 hlead
    have hguard : guard before = true := hguard
    rw [if_pos hguard] at hrule
    have hnone := List.findSome?_eq_none_iff.1 hrule name hname
    dsimp only at hnone
    have hprefix : (name.toList ++ ['=']).isPrefixOf (name.toList ++ ['='] ++ (gone ++ rest)) = true :=
      List.isPrefixOf_iff_prefix.2 (List.prefix_append _ _)
    have hvalue : ¬gone.isEmpty = true := by simpa using hne
    rw [if_pos hprefix, List.drop_left, hrun.takeWhile_eq, if_neg hvalue] at hnone
    cases hnone

theorem follows_query : Follows queryRule queryPattern := by
  have hrule : queryRule = fun before cs =>
      if (!before.any isWord) = true then namedValue queryNames cs else none := by
    funext before cs
    unfold queryRule
    cases before.any isWord <;> rfl
  rw [hrule]
  exact follows_named _ queryNames

theorem follows_bracket : Follows bracketRule bracketPattern :=
  follows_named (fun _ => true) bracketNames

theorem follows_bearer : Follows bearerRule bearerPattern := by
  constructor
  · intro before cs hit hrule
    unfold bearerRule at hrule
    by_cases hlead : bearer.isPrefixOf cs = true
    · obtain ⟨after, rfl⟩ := List.isPrefixOf_iff_prefix.1 hlead
      rw [if_pos hlead, List.drop_left] at hrule
      dsimp only at hrule
      split at hrule
      · cases hrule
      · next hsome =>
        cases hrule
        rw [Bool.or_eq_true, not_or] at hsome
        have hblanks := isRun_takeWhile isBlank after
        have htoken := isRun_takeWhile isTokenChar (after.dropWhile isBlank)
        refine ⟨rfl, bearer, List.mem_singleton.2 rfl,
          after.takeWhile isBlank ++ (after.dropWhile isBlank).takeWhile isTokenChar,
          (after.dropWhile isBlank).dropWhile isTokenChar, ?_,
          ⟨_, _, rfl, by simpa using hsome.1, ?_, by simpa using hsome.2, htoken⟩, ?_⟩
        · rw [List.append_assoc, List.takeWhile_append_dropWhile, List.takeWhile_append_dropWhile]
        · rw [List.takeWhile_append_dropWhile]
          exact hblanks
        · rw [List.length_append, List.length_append, Nat.add_assoc]
          rfl
    · rw [if_neg hlead] at hrule
      cases hrule
  · rintro before cs hrule ⟨-, lead, hlead, gone, rest, rfl, blanks, token, rfl, hblanks, hblank, htoken,
      hrun⟩
    rw [List.mem_singleton.1 hlead, List.append_assoc] at hrule
    have hprefix : bearer.isPrefixOf (bearer ++ (blanks ++ (token ++ rest))) = true :=
      List.isPrefixOf_iff_prefix.2 (List.prefix_append _ _)
    have hdrop : (blanks ++ (token ++ rest)).dropWhile isBlank = token ++ rest := by
      have hboth := List.takeWhile_append_dropWhile (p := isBlank) (l := blanks ++ (token ++ rest))
      rw [hblank.takeWhile_eq] at hboth
      exact List.append_cancel_left hboth
    unfold bearerRule at hrule
    rw [if_pos hprefix, List.drop_left] at hrule
    dsimp only at hrule
    rw [hblank.takeWhile_eq, hdrop, hrun.takeWhile_eq] at hrule
    have hsome : ¬(blanks.isEmpty || token.isEmpty) = true := by
      rw [Bool.or_eq_true, not_or]
      exact ⟨by simpa using hblanks, by simpa using htoken⟩
    rw [if_neg hsome] at hrule
    cases hrule

/-! ## A text before and after -/

/-- What replacing throughout a text makes of it, given the character before. -/
inductive Passed (p : Pattern) : Option Char → List Char → List Char → Prop where
  | nil {before : Option Char} : Passed p before [] []
  /-- Where nothing is recognised, a character is kept. -/
  | keep {before : Option Char} {c : Char} {cs out : List Char} (unmatched : ¬p.MatchesAt before (c :: cs))
      (more : Passed p (some c) cs out) : Passed p before (c :: cs) (c :: out)
  /-- What follows a lead is replaced. -/
  | put {before : Option Char} {text new lead gone cs out : List Char}
      (textEq : text = lead ++ (gone ++ cs)) (newEq : new = lead ++ (p.stand ++ out))
      (guard : p.guard before = true) (lead_mem : lead ∈ p.leads) (takes : p.takes gone cs)
      (more : Passed p gone.getLast? cs out) : Passed p before text new

theorem getLast?_append_or (front cs : List Char) (before : Option Char) :
    (front ++ cs).getLast?.or before = cs.getLast?.or (front.getLast?.or before) := by
  rw [List.getLast?_append, Option.or_assoc]

/-- The character before something is the last one of what is in front of it. -/
theorem getLast?_or {front : List Char} (h : front ≠ []) (before : Option Char) :
    front.getLast?.or before = front.getLast? := by
  cases hlast : front.getLast? with
  | none => exact absurd (List.getLast?_eq_none_iff.1 hlast) h
  | some _ => rfl

theorem getLast?_cons_or (c : Char) (cs : List Char) (before : Option Char) :
    (c :: cs).getLast?.or before = cs.getLast?.or (some c) := by
  rw [← List.singleton_append, getLast?_append_or]
  rfl

/-- Characters that are still to be passed over are passed over. -/
theorem replaceFrom_length (rule : Rule) (gone cs : List Char) (before : Option Char) :
    replaceFrom rule gone.length before (gone ++ cs) =
      replaceFrom rule 0 (gone.getLast?.or before) cs := by
  induction gone generalizing before with
  | nil => rfl
  | cons c gone ih =>
      show replaceFrom rule gone.length (some c) (gone ++ cs) = _
      rw [ih, getLast?_cons_or]

section
variable {p : Pattern} {rule : Rule} {before : Option Char} {cs out w x : List Char}

theorem passed_replaceFrom (hproper : p.Proper) (hfollows : Follows rule p) (n : Nat) :
    ∀ (cs : List Char) (before : Option Char), cs.length ≤ n →
      Passed p before cs (replaceFrom rule 0 before cs) := by
  induction n with
  | zero =>
      intro cs before hlength
      rw [List.length_eq_zero_iff.1 (Nat.le_zero.1 hlength)]
      exact .nil
  | succ n ih =>
      intro cs before hlength
      cases cs with
      | nil => exact .nil
      | cons c cs =>
          rw [replaceFrom]
          cases hrule : rule before (c :: cs) with
          | none =>
              have hmore := ih cs (some c) (by simpa using hlength)
              exact .keep (hfollows.of_none hrule) hmore
          | some hit =>
              obtain ⟨hguard, lead, hlead, gone, rest, heq, htakes, rfl⟩ := hfollows.of_some hrule
              have hgone := hproper.gone_ne htakes
              -- the stretch is the present character and those that are passed over
              obtain ⟨d, tail, hstretch⟩ : ∃ d tail, lead ++ gone = d :: tail :=
                List.exists_cons_of_ne_nil (List.append_ne_nil_of_right_ne_nil lead hgone)
              have hsplit : c :: cs = d :: (tail ++ rest) := by
                rw [heq, ← List.append_assoc, hstretch]
                rfl
              obtain ⟨rfl, rfl⟩ := List.cons.inj hsplit
              have hlast : tail.getLast?.or (some c) = gone.getLast? := by
                rw [← getLast?_cons_or c tail none, ← hstretch, getLast?_append_or, getLast?_or hgone]
              have hmore := ih rest gone.getLast? (by
                simp only [List.length_cons, List.length_append] at hlength
                omega)
              show Passed p before _ (lead ++ p.stand ++
                replaceFrom rule ((lead ++ gone).length - 1) (some c) (tail ++ rest))
              rw [hstretch, List.length_cons, Nat.add_sub_cancel, replaceFrom_length, hlast,
                List.append_assoc]
              exact .put heq rfl hguard hlead htakes hmore

/-- **Replacing throughout a text by a rule.** -/
theorem passed_replaceAll (hproper : p.Proper) (hfollows : Follows rule p) (cs : List Char) :
    Passed p none cs (replaceAll rule cs) :=
  passed_replaceFrom hproper hfollows cs.length cs none (Nat.le_refl _)

/-- A text and what becomes of it start with the same character. -/
theorem Passed.head?_eq (hproper : p.Proper) (h : Passed p before cs out) : out.head? = cs.head? := by
  cases h with
  | nil => rfl
  | keep => rfl
  | @put _ _ _ lead _ _ _ textEq newEq _ lead_mem _ _ =>
      obtain ⟨c, tail, rfl⟩ := List.exists_cons_of_ne_nil (hproper.lead_ne lead lead_mem)
      rw [textEq, newEq]
      rfl

/-- A text whose matches are what they would be replaced by stays as it is. -/
theorem Passed.eq_of_settled (hproper : p.Proper) (h : Passed p before cs out)
    (hsettled : ∀ front lead gone rest, cs = front ++ (lead ++ (gone ++ rest)) →
      p.guard (front.getLast?.or before) = true → lead ∈ p.leads → p.takes gone rest → gone = p.stand) :
    out = cs := by
  induction h with
  | nil => rfl
  | @keep before c cs out _ _ ih =>
      refine congrArg (c :: ·) (ih fun front lead gone rest heq hguard hlead htakes => ?_)
      refine hsettled (c :: front) lead gone rest (by rw [heq]; rfl) ?_ hlead htakes
      rw [getLast?_cons_or]
      exact hguard
  | @put before text new lead gone cs out textEq newEq guard lead_mem takes _ ih =>
      have hgone : gone = p.stand := hsettled [] lead gone cs textEq guard lead_mem takes
      have hrest : out = cs := by
        refine ih fun front lead' gone' rest heq hguard hlead htakes => ?_
        refine hsettled (lead ++ (gone ++ front)) lead' gone' rest ?_ ?_ hlead htakes
        · rw [textEq, heq]
          simp only [List.append_assoc]
        · rw [getLast?_append_or, getLast?_append_or, getLast?_or (hproper.gone_ne takes)]
          exact hguard
      rw [newEq, textEq, hrest, hgone]

/-! ## Where words come from -/

/-- Whether two texts can stand at one place. -/
def agree (w t : List Char) : Bool := w.isPrefixOf t || t.isPrefixOf w

theorem agree_of_append_eq {t y : List Char} (h : w ++ x = t ++ y) : agree w t = true := by
  have hw : w <+: t ++ y := h ▸ List.prefix_append w x
  rcases List.prefix_or_prefix_of_prefix hw (List.prefix_append t y) with hwt | htw
  · unfold agree
    rw [List.isPrefixOf_iff_prefix.2 hwt, Bool.true_or]
  · unfold agree
    rw [List.isPrefixOf_iff_prefix.2 htw, Bool.or_true]

/-- Whether a word and a stretch cannot overlap unless they start at one place. -/
def Apart (w t : List Char) : Prop :=
  (∀ i < w.length, 0 < i → agree (w.drop i) t = false) ∧
    ∀ i < t.length, 0 < i → agree w (t.drop i) = false

instance (w t : List Char) : Decidable (Apart w t) := inferInstanceAs (Decidable (_ ∧ _))

/-- A word at the front of the new text that no stretch can start in stood at the front of the old one. -/
theorem Passed.of_append (h : Passed p before cs (w ++ x))
    (hfree : ∀ i < w.length, ∀ lead ∈ p.leads, agree (w.drop i) (lead ++ p.stand) = false) :
    ∃ rest, cs = w ++ rest ∧ Passed p (w.getLast?.or before) rest x := by
  induction w generalizing before cs with
  | nil => exact ⟨cs, rfl, h⟩
  | cons c w ih =>
      cases h with
      | keep _ more =>
          obtain ⟨rest, rfl, hrest⟩ := ih more fun i hi => hfree (i + 1) (Nat.succ_lt_succ hi)
          rw [getLast?_cons_or]
          exact ⟨rest, rfl, hrest⟩
      | @put _ _ _ lead _ _ _ _ newEq _ lead_mem _ _ =>
          rw [← List.append_assoc] at newEq
          have hagree := agree_of_append_eq (w := c :: w) newEq
          have hnot := hfree 0 (Nat.succ_pos _) lead lead_mem
          rw [List.drop_zero, hagree] at hnot
          cases hnot

/-- A word at the front of the old text that no lead can start in is kept. -/
theorem Passed.of_append_left (h : Passed p before (w ++ cs) out)
    (hfree : ∀ i < w.length, ∀ lead ∈ p.leads, agree lead (w.drop i) = false) :
    ∃ rest, out = w ++ rest ∧ Passed p (w.getLast?.or before) cs rest := by
  induction w generalizing before out with
  | nil => exact ⟨out, rfl, h⟩
  | cons c w ih =>
      cases h with
      | keep _ more =>
          obtain ⟨rest, rfl, hrest⟩ := ih more fun i hi => hfree (i + 1) (Nat.succ_lt_succ hi)
          rw [getLast?_cons_or]
          exact ⟨rest, rfl, hrest⟩
      | @put _ _ _ lead _ _ _ textEq _ _ lead_mem _ _ =>
          have hagree := agree_of_append_eq (t := c :: w) textEq.symm
          have hnot := hfree 0 (Nat.succ_pos _) lead lead_mem
          rw [List.drop_zero, hagree] at hnot
          cases hnot

/-- Where a word in the new text comes from. -/
inductive Occurrence (p : Pattern) (before : Option Char) (cs front w x : List Char) : Prop where
  /-- It was there, without a match, after the same character unless it starts with one that cannot come next. -/
  | kept (front' : List Char) {cs' : List Char} {last : Option Char} (eq : cs = front' ++ (w ++ cs'))
      (same : front'.getLast?.or before = front.getLast?.or before ∨ ∀ c ∈ w.head?, p.goesOn c = false)
      (unmatched : ¬p.MatchesAt (front'.getLast?.or before) (w ++ cs')) (more : Passed p last cs' x)
  /-- It starts where a stretch starts. -/
  | stands {lead rest : List Char} (lead_mem : lead ∈ p.leads) (eq : w ++ x = lead ++ (p.stand ++ rest))
      (ends : ∀ c ∈ rest.head?, p.goesOn c = false)

theorem Passed.occurrence_of_keep {c : Char} (hw : w ≠ [])
    (hapart : ∀ lead ∈ p.leads, Apart w (lead ++ p.stand)) (unmatched : ¬p.MatchesAt before (c :: cs))
    (more : Passed p (some c) cs out) (heq : c :: out = w ++ x) : Occurrence p before (c :: cs) [] w x := by
  obtain ⟨d, w, rfl⟩ := List.exists_cons_of_ne_nil hw
  obtain ⟨rfl, rfl⟩ := List.cons.inj heq
  obtain ⟨rest, rfl, hrest⟩ := more.of_append fun i hi lead hlead =>
    (hapart lead hlead).1 (i + 1) (Nat.succ_lt_succ hi) (Nat.succ_pos i)
  exact .kept [] rfl (.inl rfl) unmatched hrest

/-- A word behind a stretch comes from behind what was recognised there. -/
theorem Occurrence.of_put {text lead gone back : List Char} (hproper : p.Proper)
    (textEq : text = lead ++ (gone ++ cs)) (takes : p.takes gone cs) (more : Passed p gone.getLast? cs out)
    (hw : w ≠ []) (hout : out = back ++ (w ++ x)) (h : Occurrence p gone.getLast? cs back w x) :
    Occurrence p before text (lead ++ p.stand ++ back) w x := by
  cases h with
  | stands lead_mem hstands ends => exact .stands lead_mem hstands ends
  | @kept front' cs' _ hcs same hnot hrest =>
      have hlast : (lead ++ (gone ++ front')).getLast?.or before = front'.getLast?.or gone.getLast? := by
        rw [getLast?_append_or, getLast?_append_or, getLast?_or (hproper.gone_ne takes)]
      refine .kept (lead ++ (gone ++ front')) ?_ ?_ (by rw [hlast]; exact hnot) hrest
      · rw [textEq, hcs]
        simp only [List.append_assoc]
      · by_cases hback : back = []
        · -- right behind the stretch is a character that could not come next
          subst hback
          refine .inr fun c hc => hproper.ends takes c ?_
          obtain ⟨d, tail, rfl⟩ := List.exists_cons_of_ne_nil hw
          rw [← more.head?_eq hproper, hout]
          exact hc
        · refine same.imp_left fun hsame => ?_
          rw [hlast, hsame, getLast?_append_or, getLast?_or hback, getLast?_or hback]

/-- **Where a word in the new text comes from**, if it cannot overlap with a stretch. -/
theorem Passed.occurrence (hproper : p.Proper) (h : Passed p before cs out) (hw : w ≠ [])
    (hapart : ∀ lead ∈ p.leads, Apart w (lead ++ p.stand)) {front : List Char}
    (heq : out = front ++ (w ++ x)) : Occurrence p before cs front w x := by
  induction h generalizing front with
  | nil =>
      have hnil := List.append_eq_nil_iff.1 (List.append_eq_nil_iff.1 heq.symm).2
      exact absurd hnil.1 hw
  | @keep before c cs out unmatched more ih =>
      cases front with
      | nil => exact Passed.occurrence_of_keep hw hapart unmatched more heq
      | cons d front =>
          obtain ⟨rfl, hout⟩ := List.cons.inj heq
          cases ih hout with
          | stands lead_mem hstands ends => exact .stands lead_mem hstands ends
          | @kept front' _ _ hcs same hnot hrest =>
              refine .kept (c :: front') (by rw [hcs]; rfl) ?_ ?_ hrest
              · rw [getLast?_cons_or, getLast?_cons_or]
                exact same
              · rw [getLast?_cons_or]
                exact hnot
  | @put before text new lead gone cs out textEq newEq guard lead_mem takes more ih =>
      have hbehind : ∀ back : List Char, out = back ++ (w ++ x) →
          Occurrence p before text (lead ++ p.stand ++ back) w x :=
        fun _ hout => .of_put hproper textEq takes more hw hout (ih hout)
      rw [newEq, ← List.append_assoc] at heq
      rcases List.append_eq_append_iff.1 heq with ⟨back, rfl, hout⟩ | ⟨inner, hstretch, hword⟩
      · exact hbehind _ hout
      · by_cases hfront : front = []
        · subst hfront
          refine .stands lead_mem ?_ ((more.head?_eq hproper).symm ▸ hproper.ends takes)
          rw [hword, ← List.nil_append inner, ← hstretch, List.append_assoc]
        · by_cases hinner : inner = []
          · subst hinner
            have hback := hbehind [] hword.symm
            rw [hstretch, List.append_nil, List.append_nil] at hback
            exact hback
          · -- a word cannot start inside a stretch
            have hagree := agree_of_append_eq hword
            have hlength : front.length < (lead ++ p.stand).length := by
              have hpos := List.length_pos_iff.2 hinner
              rw [hstretch, List.length_append]
              omega
            have hnot := (hapart lead lead_mem).2 front.length hlength (List.length_pos_iff.2 hfront)
            rw [hstretch, List.drop_left, hagree] at hnot
            cases hnot

end

end GatewayAuth.Redaction
