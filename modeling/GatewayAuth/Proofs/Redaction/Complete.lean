import GatewayAuth.Proofs.Redaction.Pattern

/-!
# `GatewayAuth.Proofs.Redaction.Complete` — nothing is left to redact after redaction

The three patterns are replaced one after the other. A replacement leaves nothing of its own pattern but placeholders,
and it neither makes nor damages a match of another one: no name of a credential can overlap with a replaced stretch, and
the placeholder is a value as a whole. So all that matches in the end are placeholders, and to redact once more changes
nothing.

## Contents
- `Pattern.Settled`: every match is a placeholder; `settled_of_passed`, `settled_of_passed_other` for names.
- `unmatched_of_passed_bearer`: no bearer token is left.
- `Redacts`, `redacts`: what redaction makes of every message.
-/

namespace GatewayAuth.Redaction

open GatewayAuth.Text

/-- Everything that is recognised has been replaced. -/
def Pattern.Settled (p : Pattern) (text : List Char) : Prop :=
  ∀ front lead gone rest, p.Match text front lead gone rest → gone = p.stand

/-- Nothing is recognised. -/
def Pattern.Unmatched (p : Pattern) (text : List Char) : Prop :=
  ∀ front lead gone rest, ¬p.Match text front lead gone rest

section
variable {p : Pattern} {rule : Rule} {text cs out : List Char}

theorem replaceAll_of_settled (hproper : p.Proper) (hfollows : Follows rule p) (h : p.Settled text) :
    replaceAll rule text = text := by
  have hpassed := passed_replaceAll hproper hfollows text
  refine hpassed.eq_of_settled hproper fun front lead gone rest heq hguard hlead htakes => ?_
  rw [Option.or_none] at hguard
  exact h front lead gone rest ⟨heq, hguard, hlead, htakes⟩

theorem Pattern.Unmatched.settled (h : p.Unmatched text) : p.Settled text :=
  fun front lead gone rest hmatch => absurd hmatch (h front lead gone rest)

/-- Whether something is recognised in a text is settled by trying all its places. -/
theorem unmatched_of_rule (hfollows : Follows rule p)
    (h : ∀ i ≤ text.length, rule (text.take i).getLast? (text.drop i) = none) : p.Unmatched text := by
  intro front lead gone rest hmatch
  have hlength : front.length ≤ text.length := by
    rw [hmatch.eq, List.length_append]
    omega
  have hnone := hfollows.of_none (h front.length hlength)
  rw [hmatch.eq, List.take_left, List.drop_left] at hnone
  exact hnone ⟨hmatch.guard, lead, hmatch.lead, gone, rest, rfl, hmatch.takes⟩

/-! ## Names with values -/

variable {guard : Option Char → Bool} {names : List String}

theorem isRun_placeholder {rest : List Char} (h : ∀ c ∈ rest.head?, isValueChar c = false) :
    IsRun isValueChar placeholder rest := by
  have hall : placeholder.all isValueChar = true := by decide
  exact ⟨List.all_eq_true.1 hall, h⟩

/-- There is a value in front of a text if it starts with a character of values. -/
theorem takes_takeWhile {c : Char} (hhead : c ∈ cs.head?) (hc : isValueChar c = true) :
    (named guard names).takes (cs.takeWhile isValueChar) (cs.dropWhile isValueChar) := by
  refine ⟨?_, isRun_takeWhile isValueChar cs⟩
  cases cs with
  | nil => cases hhead
  | cons d rest =>
      rw [List.head?_cons, Option.mem_def, Option.some.injEq] at hhead
      subst hhead
      rw [List.takeWhile_cons_of_pos hc]
      nofun

/-- A value starts with a character of values. -/
theorem exists_head_of_takes {gone rest : List Char} (h : (named guard names).takes gone rest) :
    ∃ c ∈ (gone ++ rest).head?, isValueChar c = true := by
  obtain ⟨c, tail, rfl⟩ := List.exists_cons_of_ne_nil h.1
  exact ⟨c, rfl, h.2.inside c List.mem_cons_self⟩

/-- What may stand in front of a name may stand in front of it where the name comes from, unless that is all one or
a name cannot come right after what is replaced. -/
theorem guard_of_same {lead front front' : List Char} (hne : lead ≠ [])
    (hfree : (∀ b b', guard b = guard b') ∨ lead.head?.all p.goesOn = true)
    (hguard : guard front.getLast? = true)
    (same : front'.getLast?.or none = front.getLast?.or none ∨ ∀ c ∈ lead.head?, p.goesOn c = false) :
    guard (front'.getLast?.or none) = true := by
  rcases hfree with hconst | hgoesOn
  · rw [hconst _ front.getLast?]
    exact hguard
  · rcases same with same | hhead
    · rw [same, Option.or_none]
      exact hguard
    · obtain ⟨c, tail, rfl⟩ := List.exists_cons_of_ne_nil hne
      have hc : p.goesOn c = true := hgoesOn
      rw [hhead c rfl] at hc
      cases hc

/-- **Replacing the values of names leaves only placeholders**, if no name can overlap with a replaced stretch. -/
theorem settled_of_passed
    (hapart : ∀ w ∈ (named guard names).leads, ∀ lead ∈ (named guard names).leads,
      Apart w (lead ++ placeholder) ∧ (agree w (lead ++ placeholder) = true → w = lead))
    (hheads : ∀ w ∈ (named guard names).leads, w.head?.all isValueChar = true)
    (h : Passed (named guard names) none cs out) : (named guard names).Settled out := by
  intro front lead gone rest hmatch
  have hproper := proper_named guard names
  have hne := hproper.lead_ne lead hmatch.lead
  cases h.occurrence hproper hne (fun l hl => (hapart lead hmatch.lead l hl).1) hmatch.eq with
  | @stands lead' rest' lead_mem heq hends =>
      have hagree : agree lead (lead' ++ placeholder) = true :=
        agree_of_append_eq (heq.trans (List.append_assoc _ _ _).symm)
      have hlead := (hapart lead hmatch.lead lead' lead_mem).2 hagree
      subst hlead
      exact (hmatch.takes.2.unique (isRun_placeholder hends) (List.append_cancel_left heq)).1
  | @kept front' cs' last heq same unmatched more =>
      -- the value would have been recognised where the name comes from
      have hguard : guard (front'.getLast?.or none) = true :=
        guard_of_same (p := named guard names) hne (.inr (hheads lead hmatch.lead)) hmatch.guard same
      obtain ⟨c, hc, hvalue⟩ := exists_head_of_takes hmatch.takes
      rw [more.head?_eq hproper] at hc
      have htakes : (named guard names).takes _ _ := takes_takeWhile hc hvalue
      refine absurd ⟨hguard, lead, hmatch.lead, _, _, ?_, htakes⟩ unmatched
      rw [List.takeWhile_append_dropWhile]

/-- **Another replacement keeps it so**, if no name can overlap with what it replaces, and if it does not touch
placeholders. -/
theorem settled_of_passed_other (hproper : p.Proper)
    (hapart : ∀ w ∈ (named guard names).leads, ∀ lead ∈ p.leads,
      Apart w (lead ++ p.stand) ∧ agree w (lead ++ p.stand) = false)
    (hfree : ∀ w ∈ (named guard names).leads,
      (∀ b b', guard b = guard b') ∨ w.head?.all p.goesOn = true)
    (hkeeps : ∀ i < placeholder.length, ∀ lead ∈ p.leads, agree lead (placeholder.drop i) = false)
    (h : Passed p none cs out) (hcs : (named guard names).Settled cs) :
    (named guard names).Settled out := by
  intro front lead gone rest hmatch
  have hne := (proper_named guard names).lead_ne lead hmatch.lead
  cases h.occurrence hproper hne (fun l hl => (hapart lead hmatch.lead l hl).1) hmatch.eq with
  | @stands lead' rest' lead_mem heq _ =>
      have hagree := agree_of_append_eq (heq.trans (List.append_assoc _ _ _).symm)
      rw [(hapart lead hmatch.lead lead' lead_mem).2] at hagree
      cases hagree
  | @kept front' cs' last heq same unmatched more =>
      have hguard := guard_of_same hne (hfree lead hmatch.lead) hmatch.guard same
      rw [Option.or_none] at hguard
      obtain ⟨c, hc, hvalue⟩ := exists_head_of_takes hmatch.takes
      rw [more.head?_eq hproper] at hc
      have htakes : (named guard names).takes _ _ := takes_takeWhile hc hvalue
      -- so the value was a placeholder before, and it has been kept
      have hplaceholder : cs'.takeWhile isValueChar = placeholder := by
        refine hcs front' lead _ _ ⟨?_, hguard, hmatch.lead, htakes⟩
        rw [List.takeWhile_append_dropWhile]
        exact heq
      have hsplit : cs' = placeholder ++ cs'.dropWhile isValueChar := by
        rw [← hplaceholder, List.takeWhile_append_dropWhile]
      rw [hsplit] at more
      obtain ⟨rest', hrest, hpassed⟩ := more.of_append_left hkeeps
      have hends : ∀ c ∈ rest'.head?, isValueChar c = false := by
        rw [hpassed.head?_eq hproper]
        exact htakes.2.after
      exact (hmatch.takes.2.unique (isRun_placeholder hends) hrest).1

/-! ## Bearer tokens -/

theorem agree_eq_false {c d : Char} (h : c ≠ d) (cs ds : List Char) : agree (c :: cs) (d :: ds) = false := by
  have h' : d ≠ c := fun heq => h heq.symm
  simp [agree, List.isPrefixOf, h, h']

/-- Blanks are kept where bearer tokens are replaced. -/
theorem agree_bearer_of_isBlank {blanks : List Char} (h : ∀ c ∈ blanks, isBlank c = true) :
    ∀ i < blanks.length, ∀ lead ∈ bearerPattern.leads, agree lead (blanks.drop i) = false := by
  intro i hi lead hlead
  have hne : blanks.drop i ≠ [] := by simpa using hi
  obtain ⟨c, tail, hdrop⟩ := List.exists_cons_of_ne_nil hne
  have hc : isBlank c = true := by
    refine h c (List.mem_of_mem_drop (i := i) ?_)
    rw [hdrop]
    exact List.mem_cons_self
  have hother : 'B' ≠ c := by
    rintro rfl
    exact absurd hc (by decide)
  rw [List.mem_singleton.1 hlead, hdrop]
  exact agree_eq_false hother _ _

/-- **Replacing bearer tokens leaves none.** -/
theorem unmatched_of_passed_bearer (h : Passed bearerPattern none cs out) : bearerPattern.Unmatched out := by
  intro front lead gone rest hmatch
  have hlead := List.mem_singleton.1 hmatch.lead
  obtain ⟨blanks, token, hgone, hblanks, hblank, htoken, hrun⟩ := hmatch.takes
  obtain ⟨c, more, hcons⟩ := List.exists_cons_of_ne_nil htoken
  have hc : isTokenChar c = true := hrun.inside c (hcons ▸ List.mem_cons_self)
  have hout : out = front ++ (bearer ++ (blanks ++ (token ++ rest))) := by
    rw [hmatch.eq, hlead, hgone, List.append_assoc]
  cases h.occurrence proper_bearer (by decide) (by decide) hout with
  | @stands lead' rest' lead_mem heq hends =>
      rw [List.mem_singleton.1 lead_mem] at heq
      have hsuffix : blanks ++ (token ++ rest) = [' '] ++ (placeholder ++ rest') :=
        List.append_cancel_left heq
      have hspace : IsRun isBlank [' '] (placeholder ++ rest') := by
        constructor
        · intro d hd
          rw [List.mem_singleton.1 hd]
          decide
        · intro d hd
          have hd : d = '[' := (Option.some.inj hd).symm
          rw [hd]
          decide
      have hplaceholder := (hblank.unique hspace hsuffix).2
      rw [hcons] at hplaceholder
      have hbracket : c = '[' := (List.cons.inj hplaceholder).1
      rw [hbracket] at hc
      exact absurd hc (by decide)
  | @kept front' cs' last heq same unmatched hpassed =>
      -- the blanks have been kept, and so has the first character of the token
      have hrun' := isRun_takeWhile isBlank cs'
      have hsplit := List.takeWhile_append_dropWhile (p := isBlank) (l := cs')
      rw [← hsplit] at hpassed
      obtain ⟨rest', hrest, hafter⟩ := hpassed.of_append_left (agree_bearer_of_isBlank hrun'.inside)
      have hhead := hafter.head?_eq proper_bearer
      have hkept : IsRun isBlank (cs'.takeWhile isBlank) rest' :=
        ⟨hrun'.inside, by rw [hhead]; exact hrun'.after⟩
      obtain ⟨hsame, hnext⟩ := hblank.unique hkept hrest
      have hmore : ∃ tail, cs'.dropWhile isBlank = c :: tail := by
        rw [← hnext, hcons] at hhead
        cases hdrop : cs'.dropWhile isBlank with
        | nil =>
            rw [hdrop] at hhead
            cases hhead
        | cons d tail =>
            rw [hdrop] at hhead
            exact ⟨tail, by rw [Option.some.inj hhead]⟩
      obtain ⟨tail, hdrop⟩ := hmore
      have htoken' : (cs'.dropWhile isBlank).takeWhile isTokenChar ≠ [] := by
        rw [hdrop, List.takeWhile_cons_of_pos hc]
        nofun
      refine unmatched ⟨rfl, bearer, List.mem_singleton.2 rfl, _, _, ?_,
        cs'.takeWhile isBlank, _, rfl, hsame ▸ hblanks, ?_, htoken',
        isRun_takeWhile isTokenChar (cs'.dropWhile isBlank)⟩
      · rw [List.append_assoc, List.takeWhile_append_dropWhile, hsplit]
      · rw [List.takeWhile_append_dropWhile]
        exact hrun'

end

/-! ## The result -/

/-- What redaction makes of a message. -/
structure Redacts (message : String) : Prop where
  /-- Every credential in a query is a placeholder … -/
  query : queryPattern.Settled (redact message).toList
  /-- … and so is every one after a name in brackets. -/
  bracket : bracketPattern.Settled (redact message).toList
  /-- There are no bearer tokens. -/
  bearer : bearerPattern.Unmatched (redact message).toList
  /-- To redact once more changes nothing. -/
  stable : redact (redact message) = redact message
  /-- Nor is a message changed in which nothing is recognised. -/
  unchanged : queryPattern.Unmatched message.toList → bracketPattern.Unmatched message.toList →
    bearerPattern.Unmatched message.toList → redact message = message

/-- A text in which all is settled is redacted to itself. -/
theorem redactChars_of_settled {cs : List Char} (hquery : queryPattern.Settled cs)
    (hbracket : bracketPattern.Settled cs) (hbearer : bearerPattern.Settled cs) : redactChars cs = cs := by
  unfold redactChars
  rw [replaceAll_of_settled (proper_named _ _) follows_query hquery,
    replaceAll_of_settled (proper_named _ _) follows_bracket hbracket,
    replaceAll_of_settled proper_bearer follows_bearer hbearer]

/-- **Redaction is complete and stable**, whatever the message. -/
theorem redacts (message : String) : Redacts message := by
  let first := replaceAll queryRule message.toList
  let second := replaceAll bracketRule first
  let third := replaceAll bearerRule second
  have hfirst : Passed queryPattern none message.toList first :=
    passed_replaceAll (proper_named _ _) follows_query _
  have hsecond : Passed bracketPattern none first second :=
    passed_replaceAll (proper_named _ _) follows_bracket _
  have hthird : Passed bearerPattern none second third :=
    passed_replaceAll proper_bearer follows_bearer _
  have hquery : queryPattern.Settled third := by
    have hvalues : ∀ w ∈ queryPattern.leads, w.head?.all isValueChar = true := by decide
    have htokens : ∀ w ∈ queryPattern.leads, w.head?.all isTokenChar = true := by decide
    have hquery₁ : queryPattern.Settled first := settled_of_passed (by decide) hvalues hfirst
    have hquery₂ : queryPattern.Settled second :=
      settled_of_passed_other (proper_named _ _) (by decide) (fun w hw => .inr (hvalues w hw)) (by decide)
        hsecond hquery₁
    exact settled_of_passed_other proper_bearer (by decide) (fun w hw => .inr (htokens w hw)) (by decide)
      hthird hquery₂
  have hbracket : bracketPattern.Settled third := by
    have hbracket₂ : bracketPattern.Settled second :=
      settled_of_passed (by decide) (by decide) hsecond
    exact settled_of_passed_other proper_bearer (by decide) (fun _ _ => .inl fun _ _ => rfl) (by decide)
      hthird hbracket₂
  have hbearer : bearerPattern.Unmatched third := unmatched_of_passed_bearer hthird
  have hchars : (redact message).toList = third := String.toList_ofList
  constructor
  case query =>
    rw [hchars]
    exact hquery
  case bracket =>
    rw [hchars]
    exact hbracket
  case bearer =>
    rw [hchars]
    exact hbearer
  case stable =>
    show String.ofList (redactChars (redact message).toList) = String.ofList third
    rw [hchars, redactChars_of_settled hquery hbracket hbearer.settled]
  case unchanged =>
    intro hquery hbracket hbearer
    unfold redact
    rw [redactChars_of_settled hquery.settled hbracket.settled hbearer.settled, String.ofList_toList]

/-- A message with names and no values. -/
def harmless : String := "Bearer\t[user_key] app_key= &my_user_key=x [app_key]"

theorem redacts_harmless :
    queryPattern.Unmatched harmless.toList ∧ bracketPattern.Unmatched harmless.toList ∧
      bearerPattern.Unmatched harmless.toList ∧ redact harmless = harmless := by
  have hquery : queryPattern.Unmatched harmless.toList :=
    unmatched_of_rule follows_query (by decide +kernel)
  have hbracket : bracketPattern.Unmatched harmless.toList :=
    unmatched_of_rule follows_bracket (by decide +kernel)
  have hbearer : bearerPattern.Unmatched harmless.toList :=
    unmatched_of_rule follows_bearer (by decide +kernel)
  exact ⟨hquery, hbracket, hbearer, (redacts harmless).unchanged hquery hbracket hbearer⟩

end GatewayAuth.Redaction
