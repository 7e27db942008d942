import GatewayAuth.Proofs.Redaction.Pattern

/-!
# `GatewayAuth.Proofs.Redaction.Values` — redaction does not depend on the values of credentials

Where a credential of a query comes after a question mark or an ampersand, a text with one value and the same text with
another one are redacted to the same text, whatever is around them: what is in front is recognised in the same places,
and it reaches either no farther than the separator, or beyond the value in both texts.

## Contents
- `Passed.unique`: what becomes of a text is determined.
- `Passed.of_before`: where the character before does not matter.
- `Passed.swap`, `redactChars_swap`: one value in place of another.
-/

namespace GatewayAuth.Redaction

open GatewayAuth.Text

/-- The names of credentials in a query have characters of values only, and no separator. -/
theorem of_mem_queryLead {lead : List Char} (hlead : lead ∈ queryPattern.leads) {c : Char} (hc : c ∈ lead) :
    isValueChar c = true ∧ c ≠ '&' ∧ c ≠ '?' := by
  have hall : ∀ w ∈ queryPattern.leads,
      w.all (fun c => isValueChar c && c != '&' && c != '?') = true := by decide
  have hchar := List.all_eq_true.1 (hall lead hlead) c hc
  simp only [Bool.and_eq_true, bne_iff_ne] at hchar
  exact ⟨hchar.1.1, hchar.1.2, hchar.2⟩

/-- No two of them can stand at one place. -/
theorem queryLeads_agree : ∀ w ∈ queryPattern.leads, ∀ w' ∈ queryPattern.leads,
    agree w w' = true → w = w' := by
  decide

theorem proper_query : queryPattern.Proper := proper_named _ _

section
variable {before : Option Char} {cs out out' lead : List Char}

/-- A name starts with a character of values. -/
theorem exists_of_lead {text x : List Char} (hlead : lead ∈ queryPattern.leads) (heq : text = lead ++ x) :
    ∃ c ∈ text.head?, isValueChar c = true := by
  obtain ⟨c, tail, rfl⟩ := List.exists_cons_of_ne_nil (proper_query.lead_ne lead hlead)
  exact ⟨c, by rw [heq]; rfl, (of_mem_queryLead hlead List.mem_cons_self).1⟩

/-- **What becomes of a text is determined.** -/
theorem Passed.unique (h : Passed queryPattern before cs out) (h' : Passed queryPattern before cs out') :
    out = out' := by
  induction h generalizing out' with
  | nil =>
      cases h' with
      | nil => rfl
      | put textEq _ _ lead_mem _ _ =>
          have hnil := (List.append_eq_nil_iff.1 textEq.symm).1
          exact absurd hnil (proper_query.lead_ne _ lead_mem)
  | keep unmatched _ ih =>
      cases h' with
      | keep _ more' => exact congrArg _ (ih more')
      | put textEq _ guard lead_mem takes _ =>
          exact absurd ⟨guard, _, lead_mem, _, _, textEq, takes⟩ unmatched
  | put textEq newEq guard lead_mem takes _ ih =>
      cases h' with
      | nil =>
          have hnil := (List.append_eq_nil_iff.1 textEq.symm).1
          exact absurd hnil (proper_query.lead_ne _ lead_mem)
      | keep unmatched _ => exact absurd ⟨guard, _, lead_mem, _, _, textEq, takes⟩ unmatched
      | put textEq' newEq' _ lead_mem' takes' more' =>
          have heq := textEq.symm.trans textEq'
          have hlead := queryLeads_agree _ lead_mem _ lead_mem' (agree_of_append_eq heq)
          subst hlead
          obtain ⟨hgone, hrest⟩ := takes.2.unique takes'.2 (List.append_cancel_left heq)
          subst hgone hrest
          rw [newEq, newEq', ih more']

/-- In front of something that does not belong to a value, the character before does not matter. -/
theorem Passed.of_before (h : Passed queryPattern before cs out)
    (hcs : ∀ c ∈ cs.head?, isValueChar c = false) (other : Option Char) :
    Passed queryPattern other cs out := by
  cases h with
  | nil => exact .nil
  | keep _ more =>
      refine .keep ?_ more
      rintro ⟨-, lead, hlead, gone, rest, heq, -⟩
      obtain ⟨c, hc, hvalue⟩ := exists_of_lead hlead heq
      rw [hcs c hc] at hvalue
      cases hvalue
  | put textEq _ _ lead_mem _ _ =>
      obtain ⟨c, hc, hvalue⟩ := exists_of_lead lead_mem textEq
      rw [hcs c hc] at hvalue
      cases hvalue

/-! ## One value in place of another -/

/-- A run goes at least as far as characters of its kind do. -/
theorem IsRun.exists_append {kind : Char → Bool} {run rest part x : List Char} (h : IsRun kind run rest)
    (hpart : ∀ c ∈ part, kind c = true) (heq : part ++ x = run ++ rest) :
    ∃ more, run = part ++ more ∧ x = more ++ rest := by
  have hrun : run = part ++ x.takeWhile kind := by
    rw [← h.takeWhile_eq, ← heq, List.takeWhile_append_of_pos hpart]
  refine ⟨x.takeWhile kind, hrun, ?_⟩
  rw [hrun, List.append_assoc] at heq
  exact List.append_cancel_left heq

/-- A value that goes on behind other characters of values. -/
theorem IsRun.append_left {kind : Char → Bool} {part run rest : List Char} (h : IsRun kind run rest)
    (hpart : ∀ c ∈ part, kind c = true) : IsRun kind (part ++ run) rest := by
  refine ⟨fun c hc => ?_, h.after⟩
  rcases List.mem_append.1 hc with hc | hc
  · exact hpart c hc
  · exact h.inside c hc

theorem IsRun.of_append {kind : Char → Bool} {part run rest : List Char}
    (h : IsRun kind (part ++ run) rest) : IsRun kind run rest :=
  ⟨fun c hc => h.inside c (List.mem_append_right _ hc), h.after⟩

/-- A name does not reach beyond a separator. -/
theorem exists_of_separator {c : Char} (hc : c = '&' ∨ c = '?') {front x y : List Char}
    (hlead : lead ∈ queryPattern.leads) (heq : lead ++ x = front ++ c :: y) :
    ∃ between, front = lead ++ between ∧ x = between ++ c :: y := by
  rcases List.append_eq_append_iff.1 heq with ⟨between, hfront, hx⟩ | ⟨inner, hinner, hy⟩
  · exact ⟨between, hfront, hx⟩
  · cases inner with
    | nil =>
        rw [List.append_nil] at hinner
        exact ⟨[], by rw [hinner, List.append_nil], hy.symm⟩
    | cons d tail =>
        obtain ⟨hd, -⟩ := List.cons.inj hy
        have hmem : c ∈ lead := by
          rw [hinner, hd]
          exact List.mem_append_right _ List.mem_cons_self
        have hnot := (of_mem_queryLead hlead hmem).2
        rcases hc with hc | hc
        · exact absurd hc hnot.1
        · exact absurd hc hnot.2

/-- What is recognised in front of a separator does not depend on what comes after it. -/
theorem matchesAt_of_separator {c : Char} (hc : c = '&' ∨ c = '?') {front y y' : List Char}
    (h : queryPattern.MatchesAt before (front ++ c :: y)) :
    queryPattern.MatchesAt before (front ++ c :: y') := by
  obtain ⟨hguard, lead, hlead, gone, rest, heq, hne, hrun⟩ := h
  obtain ⟨between, rfl, hbetween⟩ := exists_of_separator hc hlead heq.symm
  have hhead : (between ++ c :: y').head? = (between ++ c :: y).head? := by cases between <;> rfl
  obtain ⟨d, tail, rfl⟩ := List.exists_cons_of_ne_nil hne
  have hvalue : isValueChar d = true := hrun.inside d List.mem_cons_self
  have hsome : (between ++ c :: y').takeWhile isValueChar ≠ [] := by
    rw [← hbetween] at hhead
    cases htext : between ++ c :: y' with
    | nil =>
        rw [htext] at hhead
        cases hhead
    | cons e more =>
        rw [htext] at hhead
        have hd : e = d := Option.some.inj hhead
        rw [List.takeWhile_cons_of_pos (hd ▸ hvalue)]
        nofun
  refine ⟨hguard, lead, hlead, _, _, ?_, hsome, isRun_takeWhile isValueChar (between ++ c :: y')⟩
  rw [List.takeWhile_append_dropWhile, List.append_assoc]

variable {v v' post : List Char}

/-- Behind its name, one value is as good as another. -/
theorem Passed.swap_value (hlead : lead ∈ queryPattern.leads) (hguard : queryPattern.guard before = true)
    (hv : v ≠ []) (hvalue : ∀ c ∈ v, isValueChar c = true) (hv' : v' ≠ [])
    (hvalue' : ∀ c ∈ v', isValueChar c = true)
    (h : Passed queryPattern before (lead ++ (v ++ post)) out) :
    Passed queryPattern before (lead ++ (v' ++ post)) out := by
  have hrest := isRun_takeWhile isValueChar post
  have hpost := List.takeWhile_append_dropWhile (p := isValueChar) (l := post)
  have hmatch : queryPattern.takes (v ++ post.takeWhile isValueChar) (post.dropWhile isValueChar) :=
    ⟨List.append_ne_nil_of_left_ne_nil hv _, hrest.append_left hvalue⟩
  have htext : lead ++ (v ++ post) =
      lead ++ (v ++ post.takeWhile isValueChar ++ post.dropWhile isValueChar) := by
    rw [List.append_assoc v, hpost]
  generalize lead ++ (v ++ post) = text at h htext
  cases h with
  | nil =>
      have hnil := (List.append_eq_nil_iff.1 htext.symm).1
      exact absurd hnil (proper_query.lead_ne lead hlead)
  | keep unmatched _ => exact absurd ⟨hguard, lead, hlead, _, _, htext, hmatch⟩ unmatched
  | @put _ _ _ lead' gone rest _ textEq newEq _ lead_mem takes more =>
      have heq := textEq.symm.trans htext
      have hsame := queryLeads_agree _ lead_mem _ hlead (agree_of_append_eq heq)
      subst hsame
      obtain ⟨-, hafter⟩ := takes.2.unique hmatch.2 (List.append_cancel_left heq)
      subst hafter
      have htext' : lead' ++ (v' ++ post) =
          lead' ++ (v' ++ post.takeWhile isValueChar ++ post.dropWhile isValueChar) := by
        rw [List.append_assoc v', hpost]
      exact .put htext' newEq hguard lead_mem
        ⟨List.append_ne_nil_of_left_ne_nil hv' _, hrest.append_left hvalue'⟩
        (more.of_before takes.2.after _)

/-- A value that goes on beyond a credential goes on beyond it with another value, too. -/
theorem exists_beyond {c : Char} {between tail rest : List Char} (hlead : lead ∈ queryPattern.leads)
    (hvalue : ∀ c ∈ v, isValueChar c = true) (hvalue' : ∀ c ∈ v', isValueChar c = true)
    (hrun : IsRun isValueChar (between ++ c :: tail) rest) (heq : lead ++ (v ++ post) = tail ++ rest) :
    ∃ more, post = more ++ rest ∧
      IsRun isValueChar (between ++ c :: (lead ++ (v' ++ more))) rest := by
  have hname : ∀ e ∈ lead, isValueChar e = true := fun e he => (of_mem_queryLead hlead he).1
  have hfront : ∀ e ∈ between ++ [c], isValueChar e = true := by
    intro e he
    refine hrun.inside e ?_
    rw [← List.singleton_append, ← List.append_assoc]
    exact List.mem_append_left _ he
  have htail : IsRun isValueChar tail rest := by
    rw [← List.singleton_append, ← List.append_assoc] at hrun
    exact hrun.of_append
  obtain ⟨behindName, rfl, hbehindName⟩ := htail.exists_append hname heq
  obtain ⟨more, rfl, hmore⟩ := htail.of_append.exists_append hvalue hbehindName
  have hrest : IsRun isValueChar more rest := htail.of_append.of_append
  have hnew := ((hrest.append_left hvalue').append_left hname).append_left hfront
  rw [List.append_assoc, List.singleton_append] at hnew
  exact ⟨more, hmore, hnew⟩

/-- **One value in place of another**, behind a separator. -/
theorem Passed.swap {c : Char} (hc : c = '&' ∨ c = '?') (hlead : lead ∈ queryPattern.leads) (hv : v ≠ [])
    (hvalue : ∀ c ∈ v, isValueChar c = true) (hv' : v' ≠ []) (hvalue' : ∀ c ∈ v', isValueChar c = true)
    (h : Passed queryPattern before cs out) {front : List Char}
    (heq : cs = front ++ c :: (lead ++ (v ++ post))) :
    Passed queryPattern before (front ++ c :: (lead ++ (v' ++ post))) out := by
  induction h generalizing front with
  | nil => exact absurd heq.symm (by simp)
  | @keep before d cs out unmatched more ih =>
      have hunmatched : ¬queryPattern.MatchesAt before (front ++ c :: (lead ++ (v' ++ post))) := by
        intro hmatch
        rw [heq] at unmatched
        exact unmatched (matchesAt_of_separator hc hmatch)
      cases front with
      | nil =>
          obtain ⟨rfl, rfl⟩ := List.cons.inj heq
          have hguard : queryPattern.guard (some d) = true := by
            rcases hc with rfl | rfl <;> decide
          exact .keep hunmatched (more.swap_value hlead hguard hv hvalue hv' hvalue')
      | cons e front =>
          obtain ⟨rfl, hcs⟩ := List.cons.inj heq
          exact .keep hunmatched (ih hcs)
  | @put before text new lead₁ gone rest out textEq newEq guard lead_mem takes more ih =>
      obtain ⟨between, rfl, hgone⟩ := exists_of_separator hc lead_mem (textEq.symm.trans heq)
      -- the value ends at the separator, or it goes on behind it and then behind the other value, too
      have hshort : ∀ back : List Char, between = gone ++ back →
          rest = back ++ c :: (lead ++ (v ++ post)) →
          Passed queryPattern before (lead₁ ++ between ++ c :: (lead ++ (v' ++ post))) new := by
        intro back hbetween hrest
        have hrun : IsRun isValueChar gone (back ++ c :: (lead ++ (v' ++ post))) := by
          refine ⟨takes.2.inside, ?_⟩
          have hafter := takes.2.after
          rw [hrest] at hafter
          cases back <;> exact hafter
        refine .put ?_ newEq guard lead_mem ⟨takes.1, hrun⟩ (ih hrest)
        rw [hbetween]
        simp only [List.append_assoc]
      rcases List.append_eq_append_iff.1 hgone with ⟨back, hbetween, hrest⟩ | ⟨inner, hinner, hrest⟩
      · exact hshort back hbetween hrest
      · cases inner with
        | nil =>
            rw [List.append_nil] at hinner
            exact hshort [] (by rw [hinner, List.append_nil]) hrest.symm
        | cons d tail =>
            obtain ⟨rfl, htail⟩ := List.cons.inj hrest
            obtain ⟨beyond, rfl, hrun⟩ :=
              exists_beyond hlead hvalue hvalue' (hinner ▸ takes.2) htail
            have htext : lead₁ ++ between ++ c :: (lead ++ (v' ++ (beyond ++ rest))) =
                lead₁ ++ (between ++ c :: (lead ++ (v' ++ beyond)) ++ rest) := by
              simp only [List.append_assoc, List.cons_append]
            exact .put htext newEq guard lead_mem ⟨by simp, hrun⟩ (more.of_before takes.2.after _)

/-- **A text is redacted alike, whichever value a credential has in it.** -/
theorem redactChars_swap {c : Char} (hc : c = '&' ∨ c = '?') (hlead : lead ∈ queryPattern.leads) (hv : v ≠ [])
    (hvalue : ∀ c ∈ v, isValueChar c = true) (hv' : v' ≠ []) (hvalue' : ∀ c ∈ v', isValueChar c = true)
    (front post : List Char) :
    redactChars (front ++ c :: (lead ++ (v ++ post))) =
      redactChars (front ++ c :: (lead ++ (v' ++ post))) := by
  have hpassed := passed_replaceAll proper_query follows_query (front ++ c :: (lead ++ (v ++ post)))
  have hpassed' := passed_replaceAll proper_query follows_query (front ++ c :: (lead ++ (v' ++ post)))
  have hsame := (hpassed.swap hc hlead hv hvalue hv' hvalue' rfl).unique hpassed'
  unfold redactChars
  rw [hsame]

end

end GatewayAuth.Redaction
