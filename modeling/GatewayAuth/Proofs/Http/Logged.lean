import GatewayAuth.Http.Backend
import GatewayAuth.Http.System
import GatewayAuth.Proofs.Except
import GatewayAuth.Proofs.Redaction.Values
import GatewayAuth.Proofs.Url.Form

/-!
# `GatewayAuth.Proofs.Http.Logged` — what the log shows of a URL does not depend on credentials

The URLs of checks and of configurations are logged after redaction. Their secrets are values of pairs in the query, and
every character that could end a value early is escaped there. So two URLs that differ in nothing but secrets are redacted
to the same text, whatever the secrets are and whatever else is in the URL.

## Contents
- `SameButValues`: pairs that differ in the values of credentials only; `redact_appendPairs` for one pair,
  `redact_of_sameButValues` for many.
- `SameSecret`, `SameButSecrets`: requests that differ in secrets only, `sameButValues_queryPairs`.
- `logged_alike`: the result for checks and for configurations.
-/

namespace GatewayAuth.Http

open Redaction

/-! ## Values in a query -/

/-- What a form makes of a text has no character that ends a value. -/
theorem isValueChar_of_mem_formEncode {s : String} {c : Char} (h : c ∈ Url.formEncode s) :
    isValueChar c = true :=
  Url.of_isFormChar (P := fun c => isValueChar c = true) (by decide) (Url.mem_formEncode h)

/-- The names of credentials stand for themselves in a form. -/
theorem formEncode_queryNames :
    ∀ name ∈ queryNames, Url.formEncode name = name.toList ∧
      name.toList ++ ['='] ∈ queryPattern.leads := by
  decide

/-- **A URL is redacted alike, whichever value a credential has in its query.** -/
theorem redact_appendPairs {name v v' : String} (hname : name ∈ queryNames) (hv : v ≠ "") (hv' : v' ≠ "")
    (u : Url) (before after : List (String × String)) :
    redact (u.appendPairs (before ++ (name, v) :: after)).render =
      redact (u.appendPairs (before ++ (name, v') :: after)).render := by
  obtain ⟨hself, hlead⟩ := formEncode_queryNames name hname
  obtain ⟨front, c, rest, hc, hchars⟩ := Url.exists_chars_appendPairs u before name after
  have hsplit : ∀ w : String, (u.appendPairs (before ++ (name, w) :: after)).chars =
      front ++ c :: (name.toList ++ ['='] ++ (Url.formEncode w ++ rest)) := by
    intro w
    rw [hchars, hself, List.append_assoc]
    rfl
  have hswap := redactChars_swap hc hlead
    (Url.formEncode_ne_nil hv) (fun _ => isValueChar_of_mem_formEncode)
    (Url.formEncode_ne_nil hv') (fun _ => isValueChar_of_mem_formEncode) front rest
  unfold redact Url.render
  rw [String.toList_ofList, String.toList_ofList, hsplit, hsplit, hswap]

/-- Pairs that differ in the values of credentials only. -/
inductive SameButValues : List (String × String) → List (String × String) → Prop where
  | nil : SameButValues [] []
  | same (pair : String × String) {l l' : List (String × String)} (more : SameButValues l l') :
    SameButValues (pair :: l) (pair :: l')
  | hidden {name v v' : String} {l l' : List (String × String)} (mem : name ∈ queryNames) (left : v ≠ "")
    (right : v' ≠ "") (more : SameButValues l l') : SameButValues ((name, v) :: l) ((name, v') :: l')

theorem SameButValues.refl (l : List (String × String)) : SameButValues l l := by
  induction l with
  | nil => exact .nil
  | cons pair rest ih => exact .same pair ih

theorem SameButValues.append_left (front : List (String × String)) {l l' : List (String × String)}
    (h : SameButValues l l') : SameButValues (front ++ l) (front ++ l') := by
  induction front with
  | nil => exact h
  | cons pair rest ih => exact .same pair ih

/-- **URLs whose pairs differ in the values of credentials only are redacted alike.** -/
theorem redact_of_sameButValues {l l' : List (String × String)} (h : SameButValues l l') (u : Url) :
    redact (u.appendPairs l).render = redact (u.appendPairs l').render := by
  have hbehind : ∀ before, redact (u.appendPairs (before ++ l)).render =
      redact (u.appendPairs (before ++ l')).render := by
    induction h with
    | nil => exact fun _ => rfl
    | @same pair l l' _ ih =>
        intro before
        have hnext := ih (before ++ [pair])
        rw [List.append_assoc, List.append_assoc] at hnext
        exact hnext
    | @hidden name v v' l l' mem left right _ ih =>
        intro before
        have hnext := ih (before ++ [(name, v')])
        rw [List.append_assoc, List.append_assoc] at hnext
        exact (redact_appendPairs mem left right u before l).trans hnext
  exact hbehind []

/-! ## Requests -/

/-- Secrets that are equal, or that are both present. -/
def SameSecret (v v' : String) : Prop := v = v' ∨ (v ≠ "" ∧ v' ≠ "")

/-- Transactions that differ in the keys of the application only. -/
structure SameButKeys (t t' : Transaction) : Prop where
  usage : t.usage = t'.usage
  appId : t.params.appId = t'.params.appId
  userId : t.params.userId = t'.params.userId
  appKey : SameSecret t.params.appKey t'.params.appKey
  userKey : SameSecret t.params.userKey t'.params.userKey

/-- Requests with credentials of a documented kind that differ in secrets only: in the value of the credential, and
in the keys of the application in the first transaction. -/
structure SameButSecrets (r r' : Wire.Request) : Prop where
  documented : r.credential.kind = Credential.serviceToken ∨ r.credential.kind = Credential.providerKey
  kind : r'.credential.kind = r.credential.kind
  value : SameSecret r.credential.value r'.credential.value
  service : r.service = r'.service
  transactions : ∃ t t' more, r.transactions = t :: more ∧ r'.transactions = t' :: more ∧ SameButKeys t t'
  extensions : r.extensions = r'.extensions

/-- A parameter that is left out in both or present in both. -/
theorem sameButValues_filter {name v v' : String} (hname : name ∈ queryNames) (h : SameSecret v v')
    {l l' : List (String × String)} (more : SameButValues l l') :
    SameButValues ([(name, v)].filter (fun e => e.2 ≠ "") ++ l)
      ([(name, v')].filter (fun e => e.2 ≠ "") ++ l') := by
  rcases h with rfl | ⟨hv, hv'⟩
  · exact more.append_left _
  · rw [List.filter_cons_of_pos (by simpa using hv), List.filter_cons_of_pos (by simpa using hv')]
    exact .hidden hname hv hv' more

theorem sameButValues_queryPairs {r r' : Wire.Request} (h : SameButSecrets r r') {t t' : Transaction}
    (ht : SameButKeys t t') : SameButValues (queryPairs r t) (queryPairs r' t') := by
  let metrics := (sortedUsage t.usage).map fun u => ("usage[" ++ u.1 ++ "]", deltaText u.2)
  -- the parameters one by one, so that each is left out or present on its own
  have hpairs : ∀ p : Params, p.pairs =
      [("app_id", p.appId)].filter (fun e => e.2 ≠ "") ++
        ([("app_key", p.appKey)].filter (fun e => e.2 ≠ "") ++
          ([("user_id", p.userId)].filter (fun e => e.2 ≠ "") ++
            [("user_key", p.userKey)].filter (fun e => e.2 ≠ ""))) := by
    intro p
    rw [← List.filter_append, ← List.filter_append, ← List.filter_append]
    rfl
  have hparams : SameButValues (t.params.pairs ++ metrics) (t'.params.pairs ++ metrics) := by
    rw [hpairs, hpairs, ← ht.appId, ← ht.userId]
    simp only [List.append_assoc]
    refine .append_left _ (sameButValues_filter (by decide) ht.appKey ?_)
    exact .append_left _ (sameButValues_filter (by decide) ht.userKey (.refl metrics))
  have hservice : SameButValues (("service_id", r.service) :: (t.params.pairs ++ metrics))
      (("service_id", r'.service) :: (t'.params.pairs ++ metrics)) := by
    rw [← h.service]
    exact .same _ hparams
  have hname : r.credential.kind ∈ queryNames := by
    rcases h.documented with hkind | hkind
    · rw [hkind]
      decide
    · rw [hkind]
      decide
  have hright : queryPairs r' t' = (r.credential.kind, r'.credential.value) ::
      ("service_id", r'.service) :: (t'.params.pairs ++ metrics) := by
    unfold queryPairs
    rw [h.kind, ← ht.usage]
    rfl
  rw [hright]
  show SameButValues ((r.credential.kind, r.credential.value) :: ("service_id", r.service) ::
    (t.params.pairs ++ metrics)) _
  rcases h.value with hvalue | ⟨hleft, hright⟩
  · rw [← hvalue]
    exact .same _ hservice
  · exact .hidden hname hleft hright hservice

/-! ## The result -/

/-- **What is logged of a URL does not depend on credentials**: neither of a check, at whatever destination, nor of a
configuration, at whatever location. -/
theorem logged_alike :
    (∀ (c : BackendClient) (kind : QueryKind) {r r' : Wire.Request}, SameButSecrets r r' →
      ∃ request request', c.query? kind r = .ok request ∧ c.query? kind r' = .ok request' ∧
        redact request.url.render = redact request'.url.render) ∧
      ∀ {location token token' : String} {c c' : SystemClient},
        SystemClient.ofLocation location token = .ok c → SystemClient.ofLocation location token' = .ok c' →
        token ≠ "" → token' ≠ "" → ∀ service environment,
          redact (c.latestUrl service environment).render =
            redact (c'.latestUrl service environment).render := by
  constructor
  · intro c kind r r' h
    obtain ⟨t, t', more, hr, hr', ht⟩ := h.transactions
    have hpairs := sameButValues_queryPairs h ht
    unfold BackendClient.query?
    rw [hr, hr']
    exact ⟨_, _, rfl, rfl, redact_of_sameButValues hpairs (c.base.popIfEmpty.extend kind.path)⟩
  · intro location token token' c c' hc hc' htoken htoken' service environment
    unfold SystemClient.ofLocation at hc hc'
    cases hparse : parseEndpoint location with
    | error fault =>
        rw [hparse] at hc
        cases hc
    | ok base =>
        rw [hparse] at hc hc'
        cases hc
        cases hc'
        have hpairs : SameButValues [("access_token", token)] [("access_token", token')] :=
          .hidden (by decide) htoken htoken' .nil
        exact redact_of_sameButValues hpairs
          (base.popIfEmpty.extend (SystemClient.latestPath service environment))

/-- A request with these secrets. -/
def requestWith (value appKey userKey : String) : Wire.Request :=
  ⟨⟨Credential.serviceToken, value⟩, "42",
    [⟨Table.empty.insert "hits" 1, ⟨"app", appKey, "", userKey⟩⟩], Table.empty⟩

/-- A URL with a credential of its own in the path and in the query. -/
def ownCredentials : Url :=
  ⟨"http", [], [], "a".toList, none, ["user_key=own".toList], some "app_key=own".toList, some "f".toList⟩

/-- Secrets that look like the ends of values, like other pairs and like what stands in their place. -/
theorem logged_alike_hostile :
    let r := requestWith "a&user_key=b c" "%[REDACTED]" "\"\n"
    let r' := requestWith "s3cret" "k" "ü"
    let c (token : String) : SystemClient := ⟨ownCredentials, token⟩
    let location := "http://a/user_key=own?app_key=own#f"
    SameButSecrets r r' ∧ SystemClient.ofLocation location "t&u v" = .ok (c "t&u v") ∧
      SystemClient.ofLocation location "[" = .ok (c "[") ∧
      (∃ request request', BackendClient.query? ⟨ownCredentials⟩ .authrep r = .ok request ∧
        BackendClient.query? ⟨ownCredentials⟩ .authrep r' = .ok request' ∧
        redact request.url.render = redact request'.url.render) ∧
      redact ((c "t&u v").latestUrl "42" "production").render =
        redact ((c "[").latestUrl "42" "production").render := by
  intro r r' c location
  have hsame : SameButSecrets r r' :=
    ⟨.inl rfl, rfl, .inr (by decide), rfl,
      ⟨_, _, [], rfl, rfl, ⟨rfl, rfl, rfl, .inr (by decide), .inr (by decide)⟩⟩, rfl⟩
  have hleft : SystemClient.ofLocation location "t&u v" = .ok (c "t&u v") :=
    eq_ok_of_toOption (by decide +kernel)
  have hright : SystemClient.ofLocation location "[" = .ok (c "[") :=
    eq_ok_of_toOption (by decide +kernel)
  exact ⟨hsame, hleft, hright, logged_alike.1 ⟨ownCredentials⟩ .authrep hsame,
    logged_alike.2 hleft hright (by decide) (by decide) "42" "production"⟩

end GatewayAuth.Http
