import GatewayAuth.Proofs.Http.Answers
import GatewayAuth.Proofs.Redaction.Pattern

/-!
# `GatewayAuth.Proofs.Http.Reason` — which words of a rejection are told as its reason

The body of a rejection is no document that is parsed. It is searched for an element of one of two shapes, and the one
that begins first decides: its text is told without the white space around it, and if nothing is left, there is no
reason, whatever stands further on. An element is found where its name begins, and only there, since what stands between
the name and the end of the tag, and the text up to the next tag, can be read in one way only.

## Contents
- `Trimmed`, `trimmed_trim`, `Trimmed.eq_trim`: a text without the white space around it.
- `Element`, `Occurs`, `First`: the two shapes, where they stand in a body, and the one that begins first.
- `reasonAt?_eq_some_iff`, `firstReason?_eq_some_iff`: what is found at a place, and in a body.
- `Reasoned`, `reasoned_reasonOf`, `reason_of_rejection`: the reason of every rejection with a body.
- `reason_of_blank_first`: an element without words hides a reason behind it.
-/

namespace GatewayAuth

open Redaction

/-! ## White space around a text -/

namespace Text

/-- What is left of a text without the white space at its ends. -/
structure Trimmed (text left : List Char) : Prop where
  ends : ∃ front back, text = front ++ left ++ back ∧ (∀ c ∈ front, isBlank c = true) ∧
    ∀ c ∈ back, isBlank c = true
  head : ∀ c ∈ left.head?, isBlank c = false
  last : ∀ c ∈ left.getLast?, isBlank c = false

variable {text left : List Char}

theorem trimmed_trim (text : List Char) : Trimmed text (trim text) := by
  have hfront := isRun_takeWhile isBlank text
  have hback := isRun_takeWhile isBlank (trimStart text).reverse
  have htext : text = text.takeWhile isBlank ++ trimStart text :=
    List.takeWhile_append_dropWhile.symm
  have hstart : trimStart text =
      trim text ++ ((trimStart text).reverse.takeWhile isBlank).reverse := by
    unfold trim trimEnd
    rw [← List.reverse_append, List.takeWhile_append_dropWhile, List.reverse_reverse]
  constructor
  case ends =>
    refine ⟨_, _, ?_, hfront.inside, fun c hc => hback.inside c (List.mem_reverse.1 hc)⟩
    rw [List.append_assoc, ← hstart]
    exact htext
  case head =>
    intro c hc
    apply hfront.after c
    show c ∈ (trimStart text).head?
    rw [hstart, List.head?_append, Option.mem_def, Option.mem_def.1 hc]
    rfl
  case last =>
    intro c hc
    apply hback.after c
    unfold trim trimEnd at hc
    rw [List.getLast?_reverse] at hc
    exact hc

/-- Nothing else is left of a text. -/
theorem Trimmed.eq_trim (h : Trimmed text left) : left = trim text := by
  obtain ⟨front, back, rfl, hfront, hback⟩ := h.ends
  unfold trim trimEnd trimStart
  by_cases hleft : left = []
  · subst hleft
    -- the whole text is white space
    have hrun : IsRun isBlank (front ++ back) [] := by
      refine ⟨fun c hc => ?_, nofun⟩
      rcases List.mem_append.1 hc with hc | hc
      · exact hfront c hc
      · exact hback c hc
    have hdrop := hrun.dropWhile_eq
    rw [List.append_nil] at hdrop
    rw [List.append_nil, hdrop]
    rfl
  · have hstart : IsRun isBlank front (left ++ back) := by
      refine ⟨hfront, fun c hc => h.head c ?_⟩
      cases left with
      | nil => exact absurd rfl hleft
      | cons d rest => exact hc
    have hend : IsRun isBlank back.reverse left.reverse := by
      refine ⟨fun c hc => hback c (List.mem_reverse.1 hc), fun c hc => h.last c ?_⟩
      rw [List.head?_reverse] at hc
      exact hc
    rw [List.append_assoc, hstart.dropWhile_eq, List.reverse_append, hend.dropWhile_eq,
      List.reverse_reverse]

/-- Nothing is left of white space, and of nothing else. -/
theorem trim_eq_nil_iff : trim text = [] ↔ ∀ c ∈ text, isBlank c = true := by
  constructor
  · intro hnil
    obtain ⟨front, back, htext, hfront, hback⟩ := (trimmed_trim text).ends
    rw [hnil, List.append_nil] at htext
    rw [htext]
    intro c hc
    rcases List.mem_append.1 hc with hc | hc
    · exact hfront c hc
    · exact hback c hc
  · intro hblank
    refine (Trimmed.eq_trim ⟨⟨text, [], by simp, hblank, ?_⟩, ?_, ?_⟩).symm
    · intro c hc
      cases hc
    · intro c hc
      cases hc
    · intro c hc
      cases hc

theorem mem_of_mem_trim {c : Char} (hc : c ∈ trim text) : c ∈ text := by
  obtain ⟨front, back, htext, -⟩ := (trimmed_trim text).ends
  rw [htext]
  exact List.mem_append_left _ (List.mem_append_right _ hc)

end Text

namespace Http

open Text

/-! ## Elements -/

/-- An element that gives a reason, and its text. What stands between the name `error` and the end of the tag is of no
account. -/
inductive Element : List Char → List Char → Prop where
  | reason {text : List Char} (plain : '<' ∉ text) :
      Element ("<reason>".toList ++ text ++ "</reason>".toList) text
  | error {attributes text : List Char} (within : '>' ∉ attributes) (plain : '<' ∉ text) :
      Element ("<error".toList ++ attributes ++ ">".toList ++ text ++ "</error>".toList) text

/-- An element with a text stands in a body, with `before` in front of it. -/
def Occurs (body before text : List Char) : Prop :=
  ∃ element after, body = before ++ element ++ after ∧ Element element text

/-- No element of a body begins in front of the one with this text. -/
def First (body text : List Char) : Prop :=
  ∃ before, Occurs body before text ∧
    ∀ before' text', Occurs body before' text' → before.length ≤ before'.length

variable {cs rest text text' name body before : List Char} {c : Char}

theorem dropWord_eq_some_iff {word : List Char} : dropWord word cs = some rest ↔ cs = word ++ rest := by
  induction word generalizing cs with
  | nil => exact ⟨fun h => Option.some.inj h, fun h => congrArg some h⟩
  | cons w word ih =>
      cases cs with
      | nil => exact ⟨nofun, nofun⟩
      | cons c cs =>
          rw [dropWord]
          by_cases hc : w = c
          · subst hc
            rw [if_pos rfl, ih, List.cons_append, List.cons.injEq]
            exact (and_iff_right rfl).symm
          · rw [if_neg hc, List.cons_append, List.cons.injEq]
            exact ⟨nofun, fun h => absurd h.1.symm hc⟩

/-- The characters up to one that is not among them. -/
theorem isRun_of_not_mem (hc : c ∉ text) (rest : List Char) : IsRun (· ≠ c) text (c :: rest) := by
  constructor
  case inside =>
    intro d hd
    apply decide_eq_true
    rintro rfl
    exact hc hd
  case after =>
    intro d hd
    cases hd
    exact decide_eq_false fun hne => hne rfl

/-- A text is closed by a tag if it goes up to that tag and has no other one in it. -/
theorem closedBy_eq_some_iff : closedBy name cs = some text ↔
    '<' ∉ text ∧ ∃ after, cs = text ++ ('<' :: '/' :: name ++ ['>']) ++ after := by
  unfold closedBy
  rw [Option.map_eq_some_iff]
  constructor
  · rintro ⟨after, hdrop, rfl⟩
    refine ⟨fun hmem => ?_, after, ?_⟩
    · exact of_decide_eq_true ((isRun_takeWhile (· ≠ '<') cs).inside '<' hmem) rfl
    · rw [List.append_assoc, ← dropWord_eq_some_iff.1 hdrop, List.takeWhile_append_dropWhile]
  · rintro ⟨hplain, after, rfl⟩
    have hrun := isRun_of_not_mem hplain ('/' :: name ++ ['>'] ++ after)
    refine ⟨after, ?_, ?_⟩
    · rw [List.append_assoc, dropWord_eq_some_iff]
      exact hrun.dropWhile_eq
    · rw [List.append_assoc]
      exact hrun.takeWhile_eq

/-- An element `reason` begins here if its tag does. -/
theorem plainReason?_eq_some_iff : plainReason? cs = some text ↔
    ∃ rest, cs = "<reason>".toList ++ rest ∧ closedBy reasonName rest = some text := by
  unfold plainReason?
  rw [Option.bind_eq_some_iff]
  exact exists_congr fun rest => and_congr_left' dropWord_eq_some_iff

/-- An element `error` begins here if its tag does, which goes up to the first character that can end it. -/
theorem errorText?_eq_some_iff : errorText? cs = some text ↔
    ∃ attributes rest, '>' ∉ attributes ∧ cs = "<error".toList ++ attributes ++ ">".toList ++ rest ∧
      closedBy errorName rest = some text := by
  unfold errorText?
  rw [Option.bind_eq_some_iff]
  constructor
  · rintro ⟨inside, hopen, hclosed⟩
    have hrun := isRun_takeWhile (· ≠ '>') inside
    have hinside : inside.takeWhile (· ≠ '>') ++ inside.dropWhile (· ≠ '>') = inside :=
      List.takeWhile_append_dropWhile
    split at hclosed
    · next c rest hdrop =>
      rw [hdrop] at hrun hinside
      have hend : c = '>' := by simpa using hrun.after c rfl
      subst hend
      refine ⟨inside.takeWhile (· ≠ '>'), rest, fun hmem => ?_, ?_, hclosed⟩
      · exact of_decide_eq_true (hrun.inside '>' hmem) rfl
      · rw [dropWord_eq_some_iff.1 hopen, List.append_assoc, List.append_assoc]
        exact congrArg ("<error".toList ++ ·) hinside.symm
    · cases hclosed
  · rintro ⟨attributes, rest, hwithin, rfl, hclosed⟩
    refine ⟨attributes ++ '>' :: rest, ?_, ?_⟩
    · rw [dropWord_eq_some_iff, List.append_assoc, List.append_assoc]
      rfl
    · rw [(isRun_of_not_mem hwithin rest).dropWhile_eq]
      exact hclosed

/-- **At a place there is found just the element that begins there.** -/
theorem reasonAt?_eq_some_iff : reasonAt? cs = some text ↔
    ∃ element after, cs = element ++ after ∧ Element element text := by
  unfold reasonAt?
  constructor
  · intro h
    rcases Option.or_eq_some_iff.1 h with hreason | ⟨-, herror⟩
    · obtain ⟨rest, rfl, hclosed⟩ := plainReason?_eq_some_iff.1 hreason
      obtain ⟨hplain, after, rfl⟩ := closedBy_eq_some_iff.1 hclosed
      refine ⟨_, after, ?_, .reason hplain⟩
      simp only [List.append_assoc]
      rfl
    · obtain ⟨attributes, rest, hwithin, rfl, hclosed⟩ := errorText?_eq_some_iff.1 herror
      obtain ⟨hplain, after, rfl⟩ := closedBy_eq_some_iff.1 hclosed
      refine ⟨_, after, ?_, .error hwithin hplain⟩
      simp only [List.append_assoc]
      rfl
  · rintro ⟨element, after, rfl, helement⟩
    cases helement with
    | reason plain =>
        have hclosed : closedBy reasonName (text ++ "</reason>".toList ++ after) = some text :=
          closedBy_eq_some_iff.2 ⟨plain, after, rfl⟩
        have hreason : plainReason? ("<reason>".toList ++ text ++ "</reason>".toList ++ after) = some text :=
          plainReason?_eq_some_iff.2 ⟨_, by simp only [List.append_assoc], hclosed⟩
        rw [hreason]
        rfl
    | @error attributes text within plain =>
        have hclosed : closedBy errorName (text ++ "</error>".toList ++ after) = some text :=
          closedBy_eq_some_iff.2 ⟨plain, after, rfl⟩
        have herror : errorText? ("<error".toList ++ attributes ++ ">".toList ++ text ++
            "</error>".toList ++ after) = some text :=
          errorText?_eq_some_iff.2 ⟨attributes, _, within, by simp only [List.append_assoc], hclosed⟩
        -- the two names begin with different letters
        rw [herror]
        rfl

/-! ## The first element -/

theorem occurs_iff : Occurs body before text ↔
    ∃ rest, body = before ++ rest ∧ reasonAt? rest = some text := by
  constructor
  · rintro ⟨element, after, rfl, helement⟩
    exact ⟨element ++ after, List.append_assoc .., reasonAt?_eq_some_iff.2 ⟨element, after, rfl, helement⟩⟩
  · rintro ⟨rest, rfl, hfound⟩
    obtain ⟨element, after, rfl, helement⟩ := reasonAt?_eq_some_iff.1 hfound
    exact ⟨element, after, (List.append_assoc ..).symm, helement⟩

/-- At one place there is one element at most. -/
theorem Occurs.unique {before' : List Char} (h : Occurs body before text) (h' : Occurs body before' text')
    (hlength : before.length = before'.length) : text = text' := by
  obtain ⟨rest, rfl, hfound⟩ := occurs_iff.1 h
  obtain ⟨rest', hbody, hfound'⟩ := occurs_iff.1 h'
  obtain ⟨-, rfl⟩ := List.append_inj hbody hlength
  exact Option.some.inj (hfound.symm.trans hfound')

theorem First.unique (h : First body text) (h' : First body text') : text = text' := by
  obtain ⟨before, hoccurs, hfirst⟩ := h
  obtain ⟨before', hoccurs', hfirst'⟩ := h'
  exact hoccurs.unique hoccurs'
    (Nat.le_antisymm (hfirst before' text' hoccurs') (hfirst' before text hoccurs))

/-- What is found in a body is its first element. -/
theorem first_of_firstReason? (h : firstReason? cs = some text) : First cs text := by
  induction cs with
  | nil => cases h
  | cons c rest ih =>
      rw [firstReason?] at h
      rcases Option.or_eq_some_iff.1 h with hhere | ⟨hnone, hlater⟩
      · exact ⟨[], occurs_iff.2 ⟨_, rfl, hhere⟩, fun _ _ _ => Nat.zero_le _⟩
      · obtain ⟨before, hoccurs, hfirst⟩ := ih hlater
        obtain ⟨tail, rfl, hfound⟩ := occurs_iff.1 hoccurs
        refine ⟨c :: before, occurs_iff.2 ⟨tail, rfl, hfound⟩, ?_⟩
        intro before' text' hoccurs'
        obtain ⟨tail', hbody, hfound'⟩ := occurs_iff.1 hoccurs'
        cases before' with
        | nil =>
            -- there is no element at the very front
            rw [List.nil_append] at hbody
            rw [hbody, hfound'] at hnone
            cases hnone
        | cons d before' =>
            rw [List.cons_append, List.cons.injEq] at hbody
            exact Nat.succ_le_succ (hfirst before' text' (occurs_iff.2 ⟨tail', hbody.2, hfound'⟩))

/-- Where nothing is found, there is no element. -/
theorem not_occurs_of_firstReason? (h : firstReason? cs = none) : ¬Occurs cs before text := by
  induction cs generalizing before with
  | nil =>
      intro hoccurs
      obtain ⟨rest, hbody, hfound⟩ := occurs_iff.1 hoccurs
      obtain ⟨-, rfl⟩ := List.append_eq_nil_iff.1 hbody.symm
      cases hfound
  | cons c rest ih =>
      intro hoccurs
      rw [firstReason?, Option.or_eq_none_iff] at h
      obtain ⟨tail, hbody, hfound⟩ := occurs_iff.1 hoccurs
      cases before with
      | nil =>
          rw [List.nil_append] at hbody
          rw [hbody, hfound] at h
          cases h.1
      | cons d before =>
          rw [List.cons_append, List.cons.injEq] at hbody
          exact ih h.2 (occurs_iff.2 ⟨tail, hbody.2, hfound⟩)

/-- **What is found in a body is the element that begins first.** -/
theorem firstReason?_eq_some_iff : firstReason? body = some text ↔ First body text := by
  refine ⟨first_of_firstReason?, fun h => ?_⟩
  cases hfound : firstReason? body with
  | none =>
      obtain ⟨before, hoccurs, -⟩ := h
      exact absurd hoccurs (not_occurs_of_firstReason? hfound)
  | some text' => exact congrArg some ((first_of_firstReason? hfound).unique h)

/-! ## The reason of a rejection -/

/-- Whatever stands in an element, no tag begins in its text. -/
theorem First.plain (h : First body text) : '<' ∉ text := by
  obtain ⟨_, ⟨_, _, _, helement⟩, -⟩ := h
  cases helement with
  | reason plain => exact plain
  | error _ plain => exact plain

/-- What is told as the reason of a rejection with a body: what is left of the text of its first element, if anything
is. -/
structure Reasoned (body : String) (reason? : Option String) : Prop where
  told : ∀ reason, reason? = some reason ↔
    ∃ text, First body.toList text ∧ Trimmed text reason.toList ∧ reason ≠ ""
  /-- There is no reason only if there is no element, or no word in the first one. -/
  absent : reason? = none ↔ ∀ text, First body.toList text → ∀ c ∈ text, isBlank c = true
  plain : ∀ reason, reason? = some reason → '<' ∉ reason.toList
  head : ∀ reason, reason? = some reason → ∀ c ∈ reason.toList.head?, isBlank c = false
  last : ∀ reason, reason? = some reason → ∀ c ∈ reason.toList.getLast?, isBlank c = false

theorem reasonOf_eq_some_iff {body reason : String} : reasonOf body = some reason ↔
    ∃ text, First body.toList text ∧ Trimmed text reason.toList ∧ reason ≠ "" := by
  unfold reasonOf
  constructor
  · intro h
    cases hfound : firstReason? body.toList with
    | none =>
        rw [hfound] at h
        cases h
    | some text =>
        rw [hfound, Option.map_some] at h
        split at h
        · cases h
        · cases h
        · next left hleft htrim =>
          cases h
          refine ⟨text, firstReason?_eq_some_iff.1 hfound, ?_, fun hempty => ?_⟩
          · rw [String.toList_ofList, ← Option.some.inj htrim]
            exact trimmed_trim text
          · apply hleft
            rw [← String.toList_ofList (l := left), hempty]
            rfl
  · rintro ⟨text, hfirst, htrimmed, hne⟩
    rw [firstReason?_eq_some_iff.2 hfirst, Option.map_some, ← htrimmed.eq_trim]
    split
    · next h => cases h
    · next h => exact absurd (String.toList_eq_nil_iff.1 (Option.some.inj h)) hne
    · next h => rw [← Option.some.inj h, String.ofList_toList]

theorem reasoned_reasonOf (body : String) : Reasoned body (reasonOf body) where
  told _ := reasonOf_eq_some_iff
  absent := by
    rw [Option.eq_none_iff_forall_ne_some]
    constructor
    · intro hnone text hfirst
      rw [← trim_eq_nil_iff]
      apply Classical.byContradiction
      intro hne
      refine hnone (String.ofList (trim text)) (reasonOf_eq_some_iff.2 ⟨text, hfirst, ?_, fun hempty => hne ?_⟩)
      · rw [String.toList_ofList]
        exact trimmed_trim text
      · rw [← String.toList_ofList (l := trim text), hempty]
        rfl
    · intro hblank reason hreason
      obtain ⟨text, hfirst, htrimmed, hne⟩ := reasonOf_eq_some_iff.1 hreason
      have hnil : reason.toList = [] := by rw [htrimmed.eq_trim, trim_eq_nil_iff.2 (hblank text hfirst)]
      exact hne (String.toList_eq_nil_iff.1 hnil)
  plain reason hreason hmem := by
    obtain ⟨text, hfirst, htrimmed, -⟩ := reasonOf_eq_some_iff.1 hreason
    rw [htrimmed.eq_trim] at hmem
    exact hfirst.plain (mem_of_mem_trim hmem)
  head reason hreason := by
    obtain ⟨_, -, htrimmed, -⟩ := reasonOf_eq_some_iff.1 hreason
    exact htrimmed.head
  last reason hreason := by
    obtain ⟨_, -, htrimmed, -⟩ := reasonOf_eq_some_iff.1 hreason
    exact htrimmed.last

/-- **The first element of the body decides what is told of a rejection.** A response that rejects is an answer,
whatever its body; the reason is what is left of the text of the first element without the white space around it, and
there is none if there is no element or only white space in the first one. -/
theorem reason_of_rejection {response : Response} {body : String} (rejected : response.status ∈ [403, 404, 409])
    (hbody : response.body = some body) :
    ∃ answer, answerOf (.answered response) = .ok answer ∧ answer.authorized = false ∧
      Reasoned body answer.rejectionReason := by
  refine ⟨_, answerOf_of_rejected rejected, rfl, ?_⟩
  -- an empty body counts as none, and has no element either
  have hcontent : response.content?.bind reasonOf = reasonOf body := by
    unfold Response.content?
    rw [hbody]
    by_cases hempty : body = ""
    · rw [hempty]
      rfl
    · rw [Option.filter_some_pos (by simpa using hempty)]
      rfl
  show Reasoned body (response.content?.bind reasonOf)
  rw [hcontent]
  exact reasoned_reasonOf body

/-- A body in which a tag is cut short and the first element begins behind it. -/
def cutTag : String := "<status><error <reason>\n over the limit</reason><error>denied</error></status>"

/-- What looks like the attributes of an element `error` ends in the tag of the element that counts. -/
theorem reason_of_rejection_cutTag : 409 ∈ [403, 404, 409] ∧
    ∃ answer, answerOf (.answered ⟨409, [], some cutTag⟩) = .ok answer ∧ answer.authorized = false ∧
      Reasoned cutTag answer.rejectionReason ∧ answer.rejectionReason = some "over the limit" := by
  obtain ⟨answer, hanswer, hdenied, hreasoned⟩ :=
    @reason_of_rejection ⟨409, [], some cutTag⟩ cutTag (by decide) rfl
  refine ⟨by decide, answer, hanswer, hdenied, hreasoned, ?_⟩
  cases hanswer
  decide +kernel

/-- A body in which an element without words stands in front of the one that tells what is wrong. -/
def hiddenReason : String :=
  "<status><reason> </reason><error code=\"limits_exceeded\">usage limits are exceeded</error></status>"

/-- **A first element without words hides what the next one tells.** No reason is told of a rejection whose body has an
element with a text that is not blank. -/
theorem reason_of_blank_first :
    (∃ answer, answerOf (.answered ⟨403, [], some hiddenReason⟩) = .ok answer ∧ answer.authorized = false ∧
      answer.rejectionReason = none) ∧
    Occurs hiddenReason.toList "<status><reason> </reason>".toList "usage limits are exceeded".toList ∧
      ∃ c ∈ "usage limits are exceeded".toList, isBlank c = false := by
  refine ⟨⟨_, answerOf_of_rejected (by decide), rfl, by decide +kernel⟩, ?_, 'u', by decide +kernel, by decide +kernel⟩
  refine ⟨_, "</status>".toList, ?_, @Element.error " code=\"limits_exceeded\"".toList _ ?_ ?_⟩
  · decide +kernel
  · decide +kernel
  · decide +kernel

end Http

end GatewayAuth
