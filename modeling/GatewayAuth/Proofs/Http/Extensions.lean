import GatewayAuth.Http.Backend
import GatewayAuth.Manager.Request
import GatewayAuth.Proofs.CommandLine.Metric
import GatewayAuth.Proofs.Table
import GatewayAuth.Proofs.Url.Form

/-!
# `GatewayAuth.Proofs.Http.Extensions` — what the header of extensions tells

The header lists extensions as flags: a name and a value with an equals sign in between, one flag after the other with
ampersands in between. Nothing is escaped. So the header is the same in whatever order the extensions came in, and it
tells plain ones, which have no equals sign in their names and no ampersand at all. But an ampersand in a value ends the
flag, what is behind it may look like a flag of another extension, and of several equals signs any one may be the one
behind the name.

## Contents
- `flagOf`, `flagsOf`, `flagsOf_congr`: the flags of a header; they do not show in which order extensions came in.
- `headerPieces_extensionsHeader`, `announced_extensionsHeader`: a header is read flag by flag.
- `Plain`, `all_announced_iff`, `perm_announced`, `only_announced_iff`: which extensions are read as they are.
- `extensionsHeader_eq_iff`, `HasOwnHeader`, `hasOwnHeader_iff`: which extensions have the same header, and which have
  one of their own.
- `hasOwnHeader_toWire`: those of the requests of a manager have.
- `HeaderTells`, `headerTells`: the result for all extensions.
- `value_read_as_flag`: extensions that differ and have the same header.
-/

namespace GatewayAuth

/-! ## Texts in order -/

namespace Sorted

theorem pairwise_sortTexts (l : List String) : (sortTexts l).Pairwise (· ≤ ·) :=
  pairwise_sort_key String.le_total String.le_trans id l

/-- The order in which texts come in does not show once they are sorted. -/
theorem sortTexts_congr {l l' : List String} (h : l.Perm l') : sortTexts l = sortTexts l' := by
  have hperm : (sortTexts l).Perm (sortTexts l') := (perm_sort _ l).trans (h.trans (perm_sort _ l').symm)
  refine List.Perm.eq_of_pairwise ?_ (pairwise_sortTexts l) (pairwise_sortTexts l') hperm
  intro a b _ _ hab hba
  exact String.le_antisymm hab hba

end Sorted

namespace Wire

open CommandLine (splitAtEquals splitAtEquals_eq_some_iff toList_word)
open Url (splitWhere splitWhere_ne_nil splitWhere_of_not splitWhere_append not_of_mem_splitWhere
  splitWhere_intercalate intercalate_splitWhere)

variable {extensions other : Table String String} {e : String × String} {text : String}

/-! ## Flags -/

/-- An extension as it stands in a header. -/
def flagOf (e : String × String) : String := e.1 ++ "=" ++ e.2

/-- The flags of a header. -/
def flagsOf (extensions : Table String String) : List String :=
  Sorted.sortTexts (extensions.toList.map flagOf)

theorem toList_flagOf (e : String × String) : (flagOf e).toList = e.1.toList ++ '=' :: e.2.toList :=
  toList_word e.1 e.2

theorem perm_flagsOf (extensions : Table String String) :
    (flagsOf extensions).Perm (extensions.toList.map flagOf) :=
  Sorted.perm_sort _ _

theorem flagOf_mem_flagsOf (h : e ∈ extensions.toList) : flagOf e ∈ flagsOf extensions :=
  (perm_flagsOf extensions).mem_iff.2 (List.mem_map_of_mem h)

theorem length_flagsOf (extensions : Table String String) :
    (flagsOf extensions).length = extensions.toList.length := by
  rw [(perm_flagsOf extensions).length_eq, List.length_map]

/-- **The flags do not show in which order the extensions came in.** -/
theorem flagsOf_congr (h : ∀ name, other.find? name = extensions.find? name) :
    flagsOf other = flagsOf extensions :=
  Sorted.sortTexts_congr ((Table.perm_toList_iff.2 h).map flagOf)

theorem flagsOf_eq_nil_iff : flagsOf extensions = [] ↔ extensions.toList = [] := by
  rw [← List.length_eq_zero_iff, length_flagsOf, List.length_eq_zero_iff]

/-- There is a header unless there are no flags. -/
theorem extensionsHeader_eq_ite (extensions : Table String String) :
    extensionsHeader extensions =
      if flagsOf extensions = [] then none else some ("&".intercalate (flagsOf extensions)) := by
  have hempty : flagsOf extensions = [] ↔ extensions.isEmpty = true :=
    flagsOf_eq_nil_iff.trans List.isEmpty_iff.symm
  rw [if_congr hempty rfl rfl]
  rfl

theorem extensionsHeader_eq_none_iff : extensionsHeader extensions = none ↔ extensions.toList = [] := by
  rw [extensionsHeader_eq_ite, ← flagsOf_eq_nil_iff]
  split <;> simp_all

theorem extensionsHeader_eq_some_iff :
    extensionsHeader extensions = some text ↔
      flagsOf extensions ≠ [] ∧ "&".intercalate (flagsOf extensions) = text := by
  rw [extensionsHeader_eq_ite]
  split <;> simp_all

/-! ## Reading a header -/

/-- What stands between the ampersands of a text. -/
def pieces (text : String) : List (List Char) := splitWhere (· == '&') text.toList

/-- The pieces of a header, if there is one. -/
def headerPieces : Option String → List (List Char)
  | none => []
  | some text => pieces text

/-- A piece as an extension: what is in front of its first equals sign is the name, what is behind it the value. -/
def readFlag? (piece : List Char) : Option (String × String) :=
  (splitAtEquals piece).map fun p => (String.ofList p.1, String.ofList p.2)

/-- The extensions that a text tells; a piece without an equals sign tells none. -/
def readFlags (text : String) : List (String × String) := (pieces text).filterMap readFlag?

/-- The extensions that a header announces. -/
def announced (header : Option String) : List (String × String) := (headerPieces header).filterMap readFlag?

theorem pieces_intercalate {flags : List String} (hsome : flags ≠ []) :
    pieces ("&".intercalate flags) = flags.flatMap pieces := by
  have hlists : flags.map String.toList ≠ [] := by simpa using hsome
  unfold pieces
  rw [String.toList_intercalate]
  show splitWhere _ (['&'].intercalate _) = _
  rw [splitWhere_intercalate (by rfl) hlists, List.flatMap_map]

/-- Headers with the same pieces are the same. -/
theorem headerPieces_inj {header header' : Option String} (h : headerPieces header = headerPieces header') :
    header = header' := by
  have hjoin : ∀ text : String, ['&'].intercalate (pieces text) = text.toList := fun text =>
    intercalate_splitWhere (fun _ => eq_of_beq) text.toList
  cases header with
  | none =>
      cases header' with
      | none => rfl
      | some text' => exact absurd h.symm (splitWhere_ne_nil _ _)
  | some text =>
      cases header' with
      | none => exact absurd h (splitWhere_ne_nil _ _)
      | some text' =>
          have hpieces : pieces text = pieces text' := h
          have hchars : text.toList = text'.toList := by rw [← hjoin text, ← hjoin text', hpieces]
          exact congrArg some (String.toList_inj.1 hchars)

/-- **The pieces of a header are those of its flags**, … -/
theorem headerPieces_extensionsHeader (extensions : Table String String) :
    headerPieces (extensionsHeader extensions) = (flagsOf extensions).flatMap pieces := by
  rw [extensionsHeader_eq_ite]
  split
  · next hnone =>
    rw [hnone]
    rfl
  · next hsome => exact pieces_intercalate hsome

/-- … so that each flag is read on its own. -/
theorem announced_extensionsHeader (extensions : Table String String) :
    announced (extensionsHeader extensions) = (flagsOf extensions).flatMap readFlags := by
  unfold announced
  rw [headerPieces_extensionsHeader, List.filterMap_flatMap]
  rfl

/-! ## Plain extensions -/

/-- Neither sign of a header occurs in a name. -/
def PlainName (name : String) : Prop := '=' ∉ name.toList ∧ '&' ∉ name.toList

/-- No sign of a header occurs in an extension where it would count. -/
def Plain (e : String × String) : Prop := PlainName e.1 ∧ '&' ∉ e.2.toList

instance (name : String) : Decidable (PlainName name) := inferInstanceAs (Decidable (_ ∧ _))

instance (e : String × String) : Decidable (Plain e) := inferInstanceAs (Decidable (_ ∧ _))

theorem readFlag?_eq_some_iff {piece : List Char} :
    readFlag? piece = some e ↔ '=' ∉ e.1.toList ∧ piece = e.1.toList ++ '=' :: e.2.toList := by
  unfold readFlag?
  rw [Option.map_eq_some_iff]
  constructor
  · rintro ⟨⟨name, value⟩, hsplit, rfl⟩
    rw [String.toList_ofList, String.toList_ofList]
    exact splitAtEquals_eq_some_iff.1 hsplit
  · intro h
    refine ⟨(e.1.toList, e.2.toList), splitAtEquals_eq_some_iff.2 h, ?_⟩
    rw [String.ofList_toList, String.ofList_toList]

/-- **Only plain extensions are ever read.** -/
theorem plain_of_mem_readFlags (h : e ∈ readFlags text) : Plain e := by
  obtain ⟨piece, hpiece, hread⟩ := List.mem_filterMap.1 h
  obtain ⟨hname, rfl⟩ := readFlag?_eq_some_iff.1 hread
  have hwhole : ∀ c ∈ e.1.toList ++ '=' :: e.2.toList, c ≠ '&' := by
    intro c hc
    simpa using not_of_mem_splitWhere hpiece hc
  refine ⟨⟨hname, fun hmem => ?_⟩, fun hmem => ?_⟩
  · exact hwhole _ (List.mem_append_left _ hmem) rfl
  · exact hwhole _ (List.mem_append_right _ (List.mem_cons_of_mem _ hmem)) rfl

/-- The flag of a plain extension is one piece. -/
theorem pieces_flagOf (h : Plain e) : pieces (flagOf e) = [(flagOf e).toList] := by
  refine splitWhere_of_not fun c hc => ?_
  rw [toList_flagOf] at hc
  rcases List.mem_append.1 hc with hname | hrest
  · exact beq_false_of_ne fun heq => h.1.2 (heq ▸ hname)
  · rcases List.mem_cons.1 hrest with rfl | hvalue
    · rfl
    · exact beq_false_of_ne fun heq => h.2 (heq ▸ hvalue)

theorem readFlag?_flagOf (h : '=' ∉ e.1.toList) : readFlag? (flagOf e).toList = some e :=
  readFlag?_eq_some_iff.2 ⟨h, toList_flagOf e⟩

theorem readFlags_flagOf (h : Plain e) : readFlags (flagOf e) = [e] := by
  unfold readFlags
  rw [pieces_flagOf h, List.filterMap_cons_some (readFlag?_flagOf h.1.1)]
  rfl

/-- **Plain extensions are announced**, each of them and nothing else. -/
theorem perm_announced (h : ∀ e ∈ extensions.toList, Plain e) :
    (announced (extensionsHeader extensions)).Perm extensions.toList := by
  have hread : (extensions.toList.map flagOf).flatMap readFlags = extensions.toList := by
    rw [List.flatMap_map, List.flatMap_congr fun e he => readFlags_flagOf (h e he)]
    exact List.flatMap_singleton' _
  rw [announced_extensionsHeader]
  exact hread ▸ (perm_flagsOf extensions).flatMap_right readFlags

/-- **Extensions are announced, each of them, just if all are plain.** -/
theorem all_announced_iff :
    (∀ e ∈ extensions.toList, e ∈ announced (extensionsHeader extensions)) ↔
      ∀ e ∈ extensions.toList, Plain e := by
  constructor
  · intro hall e he
    have hread := hall e he
    rw [announced_extensionsHeader] at hread
    obtain ⟨flag, -, hflag⟩ := List.mem_flatMap.1 hread
    exact plain_of_mem_readFlags hflag
  · intro hplain e he
    exact (perm_announced hplain).mem_iff.2 he

/-- An ampersand in a value ends it: what is in front of the first one is announced as the value. -/
theorem mem_announced_of_ampersand {name : String} {front back : List Char} (hname : PlainName name)
    (hfront : '&' ∉ front) (h : (name, String.ofList (front ++ '&' :: back)) ∈ extensions.toList) :
    (name, String.ofList front) ∈ announced (extensionsHeader extensions) := by
  have hplain : Plain (name, String.ofList front) := by
    refine ⟨hname, ?_⟩
    rw [String.toList_ofList]
    exact hfront
  have hflag : (flagOf (name, String.ofList (front ++ '&' :: back))).toList =
      (flagOf (name, String.ofList front)).toList ++ '&' :: back := by
    rw [toList_flagOf, toList_flagOf, String.toList_ofList, String.toList_ofList]
    simp
  have hread : readFlags (flagOf (name, String.ofList (front ++ '&' :: back))) =
      readFlags (flagOf (name, String.ofList front)) ++ readFlags (String.ofList back) := by
    unfold readFlags pieces
    rw [hflag, splitWhere_append (by rfl), List.filterMap_append, String.toList_ofList]
  rw [announced_extensionsHeader]
  refine List.mem_flatMap.2 ⟨_, flagOf_mem_flagsOf h, ?_⟩
  rw [hread, readFlags_flagOf hplain]
  exact List.mem_append_left _ List.mem_cons_self

/-- **Under plain names, nothing but the extensions is announced just if there is no ampersand in a value.** -/
theorem only_announced_iff (hnames : ∀ e ∈ extensions.toList, PlainName e.1) :
    (∀ e ∈ announced (extensionsHeader extensions), e ∈ extensions.toList) ↔
      ∀ e ∈ extensions.toList, '&' ∉ e.2.toList := by
  constructor
  · rintro hall ⟨name, value⟩ he hmem
    obtain ⟨front, back, hvalue, hfront⟩ := List.eq_append_cons_of_mem hmem
    rw [← String.ofList_toList (s := value), hvalue] at he
    have hcut := hall _ (mem_announced_of_ampersand (hnames _ he) hfront he)
    -- a name has one value, so the value up to the ampersand cannot be another one
    rw [← Table.find?_eq_some_iff] at he hcut
    rw [he] at hcut
    simpa using String.ofList_injective (Option.some.inj hcut)
  · intro hvalues e he
    exact (perm_announced fun e he => ⟨hnames e he, hvalues e he⟩).mem_iff.1 he

/-! ## Which extensions have the same header -/

/-- **Two headers are the same just if their flags have the same pieces.** -/
theorem extensionsHeader_eq_iff :
    extensionsHeader other = extensionsHeader extensions ↔
      (flagsOf other).flatMap pieces = (flagsOf extensions).flatMap pieces := by
  rw [← headerPieces_extensionsHeader, ← headerPieces_extensionsHeader]
  constructor
  · intro h
    rw [h]
  · exact headerPieces_inj

/-- Plain extensions with the same header are the same. -/
theorem find?_eq_of_plain (h : ∀ e ∈ extensions.toList, Plain e) (hother : ∀ e ∈ other.toList, Plain e)
    (heq : extensionsHeader other = extensionsHeader extensions) :
    ∀ name, other.find? name = extensions.find? name := by
  have hannounced := (perm_announced hother).symm
  rw [heq] at hannounced
  exact Table.perm_toList_iff.1 (hannounced.trans (perm_announced h))

/-- Each flag has an equals sign. -/
theorem length_le_count_intercalate {flags : List String} (h : ∀ flag ∈ flags, '=' ∈ flag.toList) :
    flags.length ≤ ("&".intercalate flags).toList.count '=' := by
  induction flags with
  | nil => exact Nat.zero_le _
  | cons flag rest ih =>
      have hflag : 0 < flag.toList.count '=' := List.count_pos_iff.2 (h flag List.mem_cons_self)
      have hrest := ih fun other hother => h other (List.mem_cons_of_mem _ hother)
      cases rest with
      | nil =>
          rw [String.intercalate_singleton]
          exact hflag
      | cons next more =>
          rw [String.intercalate_cons_cons, String.toList_append, String.toList_append, List.count_append,
            List.count_append, List.length_cons]
          omega

theorem length_le_count (h : extensionsHeader extensions = some text) :
    extensions.toList.length ≤ text.toList.count '=' := by
  obtain ⟨-, rfl⟩ := extensionsHeader_eq_some_iff.1 h
  rw [← length_flagsOf]
  refine length_le_count_intercalate fun flag hflag => ?_
  obtain ⟨e, -, rfl⟩ := List.mem_map.1 ((perm_flagsOf extensions).mem_iff.1 hflag)
  rw [toList_flagOf]
  simp

/-- No other extensions have the same header. -/
def HasOwnHeader (extensions : Table String String) : Prop :=
  ∀ other, extensionsHeader other = extensionsHeader extensions →
    ∀ name, other.find? name = extensions.find? name

theorem extensionsHeader_single (h : extensions.toList = [e]) :
    extensionsHeader extensions = some (flagOf e) := by
  have hflags : flagsOf extensions = [flagOf e] := by
    unfold flagsOf
    rw [h]
    rfl
  refine extensionsHeader_eq_some_iff.2 ⟨?_, ?_⟩
  · rw [hflags]
    exact List.cons_ne_nil _ _
  · rw [hflags, String.intercalate_singleton]

/-- Extensions with a header of their own are the single one that any equals sign in it makes of it. -/
theorem HasOwnHeader.find?_eq_ite (h : HasOwnHeader extensions) (hsome : extensionsHeader extensions = some text)
    {left right : List Char} (hsplit : text.toList = left ++ '=' :: right) (name : String) :
    extensions.find? name =
      if String.ofList left = name then some (String.ofList right) else none := by
  let single := Table.empty.insert (String.ofList left) (String.ofList right)
  have hflag : flagOf (String.ofList left, String.ofList right) = text := by
    rw [← String.toList_inj, toList_flagOf, String.toList_ofList, String.toList_ofList, hsplit]
  have hheader : extensionsHeader single = some text := hflag ▸ extensionsHeader_single rfl
  rw [← h single (hheader.trans hsome.symm), Table.find?_insert, Table.find?_empty]

/-- There is one such sign at most, since two of them make two different names. -/
theorem HasOwnHeader.count_le_one (h : HasOwnHeader extensions)
    (hsome : extensionsHeader extensions = some text) : text.toList.count '=' ≤ 1 := by
  refine Nat.le_of_not_lt fun hmore => ?_
  have hfirst : '=' ∈ text.toList := List.count_pos_iff.1 (by omega)
  obtain ⟨name, rest, htext, hname⟩ := List.eq_append_cons_of_mem hfirst
  have hsecond : '=' ∈ rest := by
    rw [htext, List.count_append, List.count_cons_self, List.count_eq_zero.2 hname] at hmore
    exact List.count_pos_iff.1 (by omega)
  obtain ⟨front, back, hrest⟩ := List.append_of_mem hsecond
  have hlonger : text.toList = (name ++ '=' :: front) ++ '=' :: back := by
    rw [htext, hrest, List.append_assoc, List.cons_append]
  have hshort := h.find?_eq_ite hsome htext (String.ofList name)
  have hlong := h.find?_eq_ite hsome hlonger (String.ofList name)
  have hne : String.ofList (name ++ '=' :: front) ≠ String.ofList name := by
    intro heq
    simpa using String.ofList_injective heq
  rw [if_pos rfl, hlong, if_neg hne] at hshort
  cases hshort

theorem count_flagOf_le_one_iff :
    (flagOf e).toList.count '=' ≤ 1 ↔ '=' ∉ e.1.toList ∧ '=' ∉ e.2.toList := by
  rw [toList_flagOf, List.count_append, List.count_cons_self, ← List.count_eq_zero, ← List.count_eq_zero]
  omega

theorem hasOwnHeader_of_single (hlist : extensions.toList = [e])
    (hone : (flagOf e).toList.count '=' ≤ 1) : HasOwnHeader extensions := by
  intro other hother name
  rw [extensionsHeader_single hlist] at hother
  -- the header has one equals sign, so the other extensions cannot be more than one either
  have hlength := length_le_count hother
  rcases hother' : other.toList with _ | ⟨e', _ | ⟨next, more⟩⟩
  case nil =>
    rw [extensionsHeader_eq_none_iff.2 hother'] at hother
    cases hother
  case cons.nil =>
    rw [extensionsHeader_single hother'] at hother
    have hflag : flagOf e' = flagOf e := Option.some.inj hother
    have hread := readFlag?_flagOf (count_flagOf_le_one_iff.1 hone).1
    rw [← hflag] at hone hread
    rw [readFlag?_flagOf (count_flagOf_le_one_iff.1 hone).1] at hread
    rw [Table.ext (hother'.trans (Option.some.inj hread ▸ hlist.symm))]
  case cons.cons =>
    rw [hother', List.length_cons, List.length_cons] at hlength
    omega

/-- **Extensions have a header of their own just if there is one at most, without an equals sign in it.** -/
theorem hasOwnHeader_iff :
    HasOwnHeader extensions ↔ extensions.toList.length ≤ 1 ∧
      ∀ e ∈ extensions.toList, '=' ∉ e.1.toList ∧ '=' ∉ e.2.toList := by
  rcases hlist : extensions.toList with _ | ⟨e, _ | ⟨next, more⟩⟩
  case nil =>
    refine iff_of_true ?_ (by simp)
    intro other hother name
    rw [extensionsHeader_eq_none_iff.2 hlist, extensionsHeader_eq_none_iff] at hother
    rw [Table.ext (hother.trans hlist.symm)]
  case cons.nil =>
    simp only [List.length_singleton, Nat.le_refl, true_and, List.mem_singleton, forall_eq]
    rw [← count_flagOf_le_one_iff]
    constructor
    · intro h
      exact h.count_le_one (extensionsHeader_single hlist)
    · exact hasOwnHeader_of_single hlist
  case cons.cons =>
    refine iff_of_false ?_ (by simp)
    intro h
    cases hheader : extensionsHeader extensions with
    | none =>
        rw [extensionsHeader_eq_none_iff, hlist] at hheader
        cases hheader
    | some text =>
        have hlength := length_le_count hheader
        have hone := h.count_le_one hheader
        rw [hlist, List.length_cons, List.length_cons] at hlength
        omega

/-- The one extension that a manager asks for has a header of its own. -/
theorem hasOwnHeader_toWire {r : AuthRequest} {wire : Request} (h : r.toWire = .ok wire) :
    extensionsHeader wire.extensions = some "rejection_reason_header=1" ∧ HasOwnHeader wire.extensions := by
  let asked := Table.empty.insert rejectionReasonExtension "1"
  have hasked : extensionsHeader asked = some "rejection_reason_header=1" ∧ HasOwnHeader asked :=
    ⟨by decide, hasOwnHeader_iff.2 (by decide)⟩
  unfold AuthRequest.toWire at h
  split at h
  · cases h
  · cases h
    exact hasked

/-! ## The result -/

/-- Two checks that differ in nothing but their extensions are the same request just if the headers are the same. -/
theorem query?_eq_iff (c : Http.BackendClient) (kind : Http.QueryKind) {request : Request}
    (hsome : request.transactions ≠ []) :
    c.query? kind { request with extensions := other } = c.query? kind { request with extensions } ↔
      extensionsHeader other = extensionsHeader extensions := by
  obtain ⟨first, more, htransactions⟩ := List.exists_cons_of_ne_nil hsome
  unfold Http.BackendClient.query?
  rw [htransactions]
  constructor
  · intro h
    have hheaders := congrArg Http.Request.headers (Except.ok.inj h)
    cases hother : extensionsHeader other <;> cases hheader : extensionsHeader extensions <;>
      simp_all
  · intro h
    rw [h]
    rfl

/-- What the header of extensions tells. -/
structure HeaderTells (extensions : Table String String) : Prop where
  /-- There is a header unless there are no extensions. -/
  absent : extensionsHeader extensions = none ↔ extensions.isEmpty = true
  /-- It does not show in which order they came in. -/
  order : ∀ other, (∀ name, other.find? name = extensions.find? name) →
    extensionsHeader other = extensionsHeader extensions
  /-- It announces each of them just if they are plain, … -/
  each : (∀ e ∈ extensions.toList, e ∈ announced (extensionsHeader extensions)) ↔
    ∀ e ∈ extensions.toList, Plain e
  /-- … and then each of them once, and nothing else. -/
  exactly : (∀ e ∈ extensions.toList, Plain e) →
    (announced (extensionsHeader extensions)).Perm extensions.toList
  /-- Under plain names, it announces another one just if there is an ampersand in a value. -/
  nothingElse : (∀ e ∈ extensions.toList, PlainName e.1) →
    ((∀ e ∈ announced (extensionsHeader extensions), e ∈ extensions.toList) ↔
      ∀ e ∈ extensions.toList, '&' ∉ e.2.toList)
  /-- It tells plain extensions from other plain extensions, … -/
  distinct : (∀ e ∈ extensions.toList, Plain e) → ∀ other, (∀ e ∈ other.toList, Plain e) →
    extensionsHeader other = extensionsHeader extensions →
    ∀ name, other.find? name = extensions.find? name
  /-- … but from all others only if there is one at most, and no equals sign in it. -/
  own : HasOwnHeader extensions ↔
    extensions.toList.length ≤ 1 ∧ ∀ e ∈ extensions.toList, '=' ∉ e.1.toList ∧ '=' ∉ e.2.toList
  /-- Others have the same header just if their flags, cut at ampersands, are the same. -/
  same : ∀ other, extensionsHeader other = extensionsHeader extensions ↔
    (flagsOf other).flatMap pieces = (flagsOf extensions).flatMap pieces
  /-- A backend that is asked with the same header is asked the same. -/
  asked : ∀ (c : Http.BackendClient) (kind : Http.QueryKind) (request : Request),
    request.transactions ≠ [] → ∀ other,
      (c.query? kind { request with extensions := other } = c.query? kind { request with extensions } ↔
        extensionsHeader other = extensionsHeader extensions)

/-- **What the header of extensions tells**, whatever the texts in them. -/
theorem headerTells (extensions : Table String String) : HeaderTells extensions where
  absent := extensionsHeader_eq_none_iff.trans List.isEmpty_iff.symm
  order other h := by
    rw [extensionsHeader_eq_ite, extensionsHeader_eq_ite, flagsOf_congr h]
  each := all_announced_iff
  exactly := perm_announced
  nothingElse := only_announced_iff
  distinct hplain _ hother heq := find?_eq_of_plain hplain hother heq
  own := hasOwnHeader_iff
  same _ := extensionsHeader_eq_iff
  asked c kind _ hsome _ := query?_eq_iff c kind hsome

/-- Two flags, one of them with equals signs in its value. -/
def sampleExtensions : Table String String :=
  (Table.empty.insert "rejection_reason_header" "1").insert "limit_headers" "a=b="

theorem headerTells_sample :
    (∀ e ∈ sampleExtensions.toList, Plain e) ∧
      extensionsHeader sampleExtensions = some "limit_headers=a=b=&rejection_reason_header=1" ∧
      (announced (extensionsHeader sampleExtensions)).Perm sampleExtensions.toList ∧
      ¬HasOwnHeader sampleExtensions := by
  have hplain : ∀ e ∈ sampleExtensions.toList, Plain e := by decide
  have htells := headerTells sampleExtensions
  exact ⟨hplain, by decide, htells.exactly hplain, fun h => absurd (htells.own.1 h).1 (by decide)⟩

/-- **An ampersand in a value makes a header that is read as one of other extensions**, and so does an equals sign in a
name. -/
theorem value_read_as_flag :
    let crafted := Table.empty.insert "a" "1&b=2"
    let honest := (Table.empty.insert "a" "1").insert "b" "2"
    extensionsHeader crafted = some "a=1&b=2" ∧ extensionsHeader honest = some "a=1&b=2" ∧
      ("b", "2") ∈ announced (extensionsHeader crafted) ∧
      crafted.find? "b" = none ∧ honest.find? "b" = some "2" ∧
      extensionsHeader (Table.empty.insert "a=b" "c") = extensionsHeader (Table.empty.insert "a" "b=c") := by
  intro crafted honest
  exact ⟨by decide, by decide, by decide, by decide, by decide, by decide⟩

end Wire

end GatewayAuth
