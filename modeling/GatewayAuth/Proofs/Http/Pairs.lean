import GatewayAuth.Http.Backend
import GatewayAuth.Manager.Request
import GatewayAuth.Proofs.Table
import GatewayAuth.Proofs.Url.Form
import GatewayAuth.Proofs.Usage.Lone

/-!
# `GatewayAuth.Proofs.Http.Pairs` — what the pairs of a check and of a report say

A check and a report tell a backend the same things in two layouts that differ only in how they name the parameters of
the application and the metrics. Each layout can be read back: the credential and the service by their places, the
parameters by their names, the metrics by what stands around theirs. The names may hold anything, since nothing is looked
for inside them. So a backend learns the whole request, whatever the order in which usage came together, and learns the
same from the report of it.

## Contents
- `Naming`, `Naming.layout`: the two layouts as one, `queryPairs_eq` and `reportPairs_eq`.
- `sortedUsage_congr`: the order in which metrics came in does not show.
- `Naming.read?`, `Naming.read?_layout`: the reader, and that it loses nothing.
- `plainName`, `map_plainPair_fields`: the name in a check for a name in a report.
- `CheckForm`, `ReportForm`, `forms_faithful`: what this comes to for requests and batches.
-/

namespace GatewayAuth.Http

/-! ## The order of metrics -/

theorem perm_sortedUsage (usage : Usage) : (sortedUsage usage).Perm usage.toList :=
  Sorted.perm_sort _ usage.toList

theorem nodup_sortedUsage (usage : Usage) : ((sortedUsage usage).map Prod.fst).Nodup :=
  ((perm_sortedUsage usage).map Prod.fst).nodup_iff.2 usage.nodup

theorem pairwise_sortedUsage (usage : Usage) : (sortedUsage usage).Pairwise (·.1 ≤ ·.1) :=
  Sorted.pairwise_sort_key String.le_total String.le_trans Prod.fst usage.toList

/-- **Usage is listed in one order, however it came together.** -/
theorem sortedUsage_congr {usage usage' : Usage} (h : ∀ m, usage.find? m = usage'.find? m) :
    sortedUsage usage = sortedUsage usage' := by
  have hpairs : usage.toList.Perm usage'.toList := Table.perm_toList_iff.2 h
  have hperm : (sortedUsage usage).Perm (sortedUsage usage') :=
    (perm_sortedUsage usage).trans (hpairs.trans (perm_sortedUsage usage').symm)
  refine List.Perm.eq_of_pairwise ?_ (pairwise_sortedUsage usage) (pairwise_sortedUsage usage') hperm
  intro a b ha hb hab hba
  have hkey : a.1 = b.1 := String.le_antisymm hab hba
  have hfinda : usage.find? a.1 = some a.2 :=
    Table.find?_eq_some_iff.2 ((perm_sortedUsage usage).mem_iff.1 ha)
  have hfindb : usage.find? b.1 = some b.2 :=
    (h b.1).trans (Table.find?_eq_some_iff.2 ((perm_sortedUsage usage').mem_iff.1 hb))
  have hdelta : a.2 = b.2 := by
    rw [hkey, hfindb] at hfinda
    exact (Option.some.inj hfinda).symm
  exact Prod.ext hkey hdelta

/-- The sorted pairs are those of a table with the same usage. -/
theorem find?_ofList_sortedUsage (usage : Usage) (m : String) :
    (Table.ofList (sortedUsage usage)).find? m = usage.find? m := by
  have hlist := Table.toList_ofList (nodup_sortedUsage usage)
  cases hfind : usage.find? m with
  | some delta =>
      refine Table.find?_eq_some_iff.2 ?_
      rw [hlist]
      exact (perm_sortedUsage usage).mem_iff.2 (Table.find?_eq_some_iff.1 hfind)
  | none =>
      refine Table.find?_eq_none_iff.2 ?_
      unfold Table.keys
      rw [hlist, ((perm_sortedUsage usage).map Prod.fst).mem_iff]
      exact Table.find?_eq_none_iff.1 hfind

/-! ## Amounts -/

/-- The amount that a text of digits stands for, with a minus sign in front of them or without. -/
def readDelta (text : String) : Int64 :=
  match text.toList with
  | '-' :: ds => Int64.ofInt (-(Decimal.value ds : Int))
  | ds => Int64.ofInt (Decimal.value ds)

theorem readDelta_deltaText (delta : Int64) : readDelta (deltaText delta) = delta := by
  have hback : Int64.ofInt delta.toInt = delta := Int64.ofInt_toInt delta
  have htext : (deltaText delta).toList = Decimal.intChars delta.toInt := String.toList_ofList
  unfold readDelta
  rw [htext]
  cases hint : delta.toInt with
  | ofNat n =>
      rw [hint] at hback
      show (match Decimal.digits n with
        | '-' :: ds => Int64.ofInt (-(Decimal.value ds : Int))
        | ds => Int64.ofInt (Decimal.value ds)) = delta
      split
      · next ds hdigits =>
        have hminus : ('-' : Char) ∈ Decimal.digits n := by
          rw [hdigits]
          exact List.mem_cons_self
        exact absurd (Decimal.isDigit_of_mem_digits hminus) (by decide)
      · rw [Decimal.value_digits]
        exact hback
  | negSucc n =>
      rw [hint] at hback
      show Int64.ofInt (-(Decimal.value (Decimal.digits (n + 1)) : Int)) = delta
      rw [Decimal.value_digits]
      exact hback

/-! ## Names -/

/-- What stands between a front and a closing bracket. -/
def between? (front name : String) : Option String :=
  let rest := name.toList.drop front.toList.length
  if front.toList.isPrefixOf name.toList ∧ rest.getLast? = some ']' then
    some (String.ofList rest.dropLast)
  else none

@[simp] theorem between?_append (front x : String) : between? front (front ++ x ++ "]") = some x := by
  have hchars : (front ++ x ++ "]").toList = front.toList ++ (x.toList ++ [']']) := by
    rw [String.toList_append, String.toList_append, List.append_assoc]
    rfl
  have hdrop : (front ++ x ++ "]").toList.drop front.toList.length = x.toList ++ [']'] := by
    rw [hchars, List.drop_left]
  have hfront : front.toList.isPrefixOf (front ++ x ++ "]").toList = true := by
    rw [hchars]
    exact List.isPrefixOf_iff_prefix.2 (List.prefix_append _ _)
  unfold between?
  rw [hdrop, if_pos ⟨hfront, by simp⟩]
  simp

/-- How a layout names what it carries besides the credential and the service. -/
structure Naming where
  /-- The name of a parameter of the application. -/
  param : String → String
  /-- What stands in front of a metric. -/
  usage : String

/-- The names in a check. -/
def queryNaming : Naming := ⟨id, "usage["⟩

/-- The names in a report. -/
def reportNaming : Naming := ⟨fun p => "transactions[0][" ++ p ++ "]", "transactions[0][usage]["⟩

/-- The parameters of an application, absent ones included. -/
def paramFields (p : Params) : List (String × String) :=
  [("app_id", p.appId), ("app_key", p.appKey), ("user_id", p.userId), ("user_key", p.userKey)]

/-- The names of the parameters. -/
def paramNames : List String := ["app_id", "app_key", "user_id", "user_key"]

theorem mem_paramNames {params : Params} {e : String × String} (h : e ∈ paramFields params) :
    e.1 ∈ paramNames := List.mem_map_of_mem (f := Prod.fst) h

theorem pairs_eq (p : Params) : p.pairs = (paramFields p).filter fun e => e.2 ≠ "" := rfl

namespace Naming

/-- The name of a metric. -/
def metric (n : Naming) (m : String) : String := n.usage ++ m ++ "]"

/-- The parameters that are present and the metrics of a batch. -/
def fields (n : Naming) (batch : Wire.Batch) : List (String × String) :=
  (batch.params.pairs.map fun p => (n.param p.1, p.2)) ++
    (sortedUsage batch.usage).map fun u => (n.metric u.1, deltaText u.2)

/-- A batch in a layout. -/
def layout (n : Naming) (batch : Wire.Batch) : List (String × String) :=
  (batch.credential.kind, batch.credential.value) :: ("service_id", batch.service) :: n.fields batch

/-- Names tell apart what they stand for: the parameters have different names, none of them that of a metric. -/
structure Clear (n : Naming) : Prop where
  distinct : (paramNames.map n.param).Nodup
  plain : ∀ p ∈ paramNames, between? n.usage (n.param p) = none

end Naming

theorem clear_queryNaming : queryNaming.Clear := ⟨by decide, by decide⟩

theorem clear_reportNaming : reportNaming.Clear := ⟨by decide, by decide⟩

/-- The pairs of a check are a layout of the batch that its first transaction is recorded as. -/
theorem queryPairs_eq (request : Wire.Request) (t : Transaction) :
    queryPairs request t = queryNaming.layout ((request.keyOf t).batch t.usage) := by
  show _ = (_, _) :: (_, _) :: ((t.params.pairs.map fun p => (p.1, p.2)) ++ _)
  rw [List.map_id']
  rfl

theorem reportPairs_eq (batch : Wire.Batch) : reportPairs batch = reportNaming.layout batch := rfl

/-! ## Reading a layout -/

/-- Two batches with the same content: their usage may have come together in different orders. -/
structure Alike (batch other : Wire.Batch) : Prop where
  credential : batch.credential = other.credential
  service : batch.service = other.service
  params : batch.params = other.params
  usage : ∀ m, batch.usage.find? m = other.usage.find? m

namespace Naming

variable {n : Naming}

/-- A parameter, empty if there is no pair for it. -/
def readParam (n : Naming) (pairs : List (String × String)) (p : String) : String :=
  (Assoc.find? (n.param p) pairs).getD ""

/-- A metric with its amount. -/
def readMetric? (n : Naming) (pair : String × String) : Option (String × Int64) :=
  (between? n.usage pair.1).map fun m => (m, readDelta pair.2)

/-- Read a batch. -/
def read? (n : Naming) : List (String × String) → Option Wire.Batch
  | (kind, value) :: (_, service) :: rest =>
    some ⟨⟨kind, value⟩, service,
      ⟨n.readParam rest "app_id", n.readParam rest "app_key", n.readParam rest "user_id",
        n.readParam rest "user_key"⟩,
      Table.ofList (rest.filterMap n.readMetric?)⟩
  | _ => none

/-- Among pairs with different names, an empty value is found in place of one that was left out. -/
theorem getD_find?_filter {name value : String} {all more : List (String × String)}
    (hmem : (name, value) ∈ all) (hall : (all.map Prod.fst).Nodup) (hmore : name ∉ more.map Prod.fst) :
    (Assoc.find? name (all.filter (fun e => e.2 ≠ "") ++ more)).getD "" = value := by
  have hfind : Assoc.find? name all = some value := Assoc.find?_of_mem hall hmem
  have hnodup : ((all.filter fun e => e.2 ≠ "").map Prod.fst).Nodup :=
    hall.sublist (List.filter_sublist.map Prod.fst)
  rw [Assoc.find?_append, Assoc.find?_eq_none_iff.2 hmore, Option.or_none]
  by_cases hempty : value = ""
  · have hgone : name ∉ (all.filter fun e => e.2 ≠ "").map Prod.fst := by
      intro hin
      obtain ⟨e, he, hname⟩ := List.mem_map.1 hin
      obtain ⟨heall, hvalue⟩ := List.mem_filter.1 he
      have hother : Assoc.find? name all = some e.2 := Assoc.find?_of_mem hall (hname ▸ heall)
      rw [hfind, hempty] at hother
      rw [← Option.some.inj hother] at hvalue
      exact absurd hvalue (by decide)
    rw [Assoc.find?_eq_none_iff.2 hgone, hempty]
    rfl
  · have hkept : (name, value) ∈ all.filter fun e => e.2 ≠ "" :=
      List.mem_filter.2 ⟨hmem, by simpa using hempty⟩
    rw [Assoc.find?_of_mem hnodup hkept]
    rfl

theorem mem_map_fst_metrics {name : String} {l : List (String × Int64)}
    (h : name ∈ (l.map fun u => (n.metric u.1, deltaText u.2)).map Prod.fst) :
    ∃ m, name = n.metric m := by
  obtain ⟨pair, hpair, rfl⟩ := List.mem_map.1 h
  obtain ⟨u, -, rfl⟩ := List.mem_map.1 hpair
  exact ⟨u.1, rfl⟩

/-- The parameters that are present are those with a value, renamed. -/
theorem map_param_pairs (p : Params) :
    (p.pairs.map fun e => (n.param e.1, e.2)) =
      ((paramFields p).map fun e => (n.param e.1, e.2)).filter fun e => e.2 ≠ "" := by
  rw [pairs_eq, List.filter_map]
  rfl

/-- A parameter is read as it was. -/
theorem readParam_fields (hn : n.Clear) (batch : Wire.Batch) {p v : String}
    (hmem : (p, v) ∈ paramFields batch.params) : n.readParam (n.fields batch) p = v := by
  have hp : p ∈ paramNames := mem_paramNames hmem
  unfold readParam fields
  rw [map_param_pairs]
  apply getD_find?_filter
  · exact List.mem_map.2 ⟨(p, v), hmem, rfl⟩
  · rw [List.map_map]
    exact hn.distinct
  · intro hin
    obtain ⟨m, hm⟩ := mem_map_fst_metrics hin
    have hnone := hn.plain p hp
    rw [hm] at hnone
    unfold metric at hnone
    rw [between?_append] at hnone
    cases hnone

/-- The metrics are read as they were, and nothing else is read as one. -/
theorem filterMap_readMetric? (hn : n.Clear) (batch : Wire.Batch) :
    (n.fields batch).filterMap n.readMetric? = sortedUsage batch.usage := by
  have hparams : (batch.params.pairs.map fun p => (n.param p.1, p.2)).filterMap n.readMetric? = [] := by
    refine List.filterMap_eq_nil_iff.2 fun pair hpair => ?_
    obtain ⟨e, he, rfl⟩ := List.mem_map.1 hpair
    have hp : e.1 ∈ paramNames := mem_paramNames (List.mem_filter.1 he).1
    show (between? n.usage (n.param e.1)).map _ = none
    rw [hn.plain e.1 hp]
    rfl
  have hmetrics : (n.readMetric? ∘ fun u => (n.metric u.1, deltaText u.2)) = some := by
    funext u
    show (between? n.usage (n.usage ++ u.1 ++ "]")).map _ = some u
    rw [between?_append, Option.map_some, readDelta_deltaText]
  unfold fields
  rw [List.filterMap_append, hparams, List.nil_append, List.filterMap_map, hmetrics]
  exact List.filterMap_some

/-- **A layout loses nothing**: reading it gives the batch back. -/
theorem read?_layout (hn : n.Clear) (batch : Wire.Batch) :
    ∃ read, n.read? (n.layout batch) = some read ∧ Alike read batch := by
  refine ⟨_, rfl, rfl, rfl, ?_, ?_⟩
  · show Params.mk _ _ _ _ = batch.params
    congr 1 <;> exact readParam_fields hn batch (by simp [paramFields])
  · intro m
    show (Table.ofList ((n.fields batch).filterMap n.readMetric?)).find? m = _
    rw [filterMap_readMetric? hn, find?_ofList_sortedUsage]

/-- **A layout does not show in which order usage came together.** -/
theorem layout_congr {batch other : Wire.Batch} (h : Alike batch other) :
    n.layout batch = n.layout other := by
  unfold layout fields
  rw [h.credential, h.service, h.params, sortedUsage_congr h.usage]

end Naming

/-! ## Names in a check for names in a report -/

/-- The name without the brackets of a transaction around it; other names are left as they are. -/
def plainName (name : String) : String :=
  match between? "transactions[0][usage][" name with
  | some m => "usage[" ++ m ++ "]"
  | none => (between? "transactions[0][" name).getD name

/-- A pair with its name made plain. -/
def plainPair (pair : String × String) : String × String := (plainName pair.1, pair.2)

theorem plainName_metric (m : String) : plainName (reportNaming.metric m) = queryNaming.metric m := by
  unfold plainName Naming.metric
  show (match between? "transactions[0][usage][" ("transactions[0][usage][" ++ m ++ "]") with
    | some m => "usage[" ++ m ++ "]"
    | none => _) = _
  rw [between?_append]
  rfl

theorem plainName_param {p : String} (hp : p ∈ paramNames) :
    plainName (reportNaming.param p) = queryNaming.param p := by
  revert hp
  revert p
  decide

/-- **The parameters and metrics of a report are those of a check under plain names.** -/
theorem map_plainPair_fields (batch : Wire.Batch) :
    (reportNaming.fields batch).map plainPair = queryNaming.fields batch := by
  unfold Naming.fields
  rw [List.map_append, List.map_map, List.map_map]
  congr 1
  · refine List.map_congr_left fun e he => ?_
    have hp : e.1 ∈ paramNames := mem_paramNames (List.mem_filter.1 he).1
    exact Prod.ext (plainName_param hp) rfl
  · exact List.map_congr_left fun u _ => Prod.ext (plainName_metric u.1) rfl

/-! ## Checks and reports -/

/-- The batch that a request with this first transaction is recorded as. -/
def batchOf (r : AuthRequest) (first : Transaction) : Wire.Batch :=
  ⟨r.credential, r.service, first.params, first.usage⟩

/-- What a check of a request tells its backend. -/
structure CheckForm (r : AuthRequest) (first : Transaction) (wire : Wire.Request) : Prop where
  /-- It is about the first transaction. -/
  transactions : wire.transactions = [first]
  /-- The pairs can be read back. -/
  read : ∃ read, queryNaming.read? (queryPairs wire first) = some read ∧ Alike read (batchOf r first)
  /-- They do not show in which order usage came together. -/
  order : ∀ usage : Usage, (∀ m, usage.find? m = first.usage.find? m) →
    queryPairs wire { first with usage } = queryPairs wire first
  /-- They arrive in the query, after the pairs that the destination has there. -/
  sent : ∀ (c : BackendClient) (kind : QueryKind), ∃ request query,
    c.query? kind wire = .ok request ∧ request.url.query = some query ∧
      Url.readForm query = Url.readForm (c.base.query.getD []) ++ (queryPairs wire first).map some
  /-- Usage that is recorded in an empty buffer comes out as one batch. -/
  drained : first.usage.isEmpty = false →
    (UsageBuffer.empty.record wire).drain.1 = [batchOf r first]
  /-- The report of that batch has the same credential and service in front … -/
  front : (reportPairs (batchOf r first)).take 2 = (queryPairs wire first).take 2
  /-- … and after them the same pairs under plain names. -/
  agrees : ((reportPairs (batchOf r first)).drop 2).map plainPair = (queryPairs wire first).drop 2
  /-- So the whole report is the check under plain names, if the kind of the credential is plain. -/
  agreesWholly : plainName r.credential.kind = r.credential.kind →
    (reportPairs (batchOf r first)).map plainPair = queryPairs wire first

/-- What the report of a batch tells its backend. -/
structure ReportForm (batch : Wire.Batch) : Prop where
  /-- The pairs can be read back. -/
  read : ∃ read, reportNaming.read? (reportPairs batch) = some read ∧ Alike read batch
  /-- They do not show in which order usage came together. -/
  order : ∀ other : Wire.Batch, Alike other batch → reportPairs other = reportPairs batch
  /-- They are the form of the report … -/
  sent : ∀ c : BackendClient, (c.report batch).form = reportPairs batch
  /-- … which arrives as it is sent. -/
  arrives : Url.readForm (Url.formChars (reportPairs batch)) = (reportPairs batch).map some
  /-- In a query they would arrive after the pairs that are there. -/
  appended : ∀ u : Url, ∃ query, (u.appendPairs (reportPairs batch)).query = some query ∧
    Url.readForm query = Url.readForm (u.query.getD []) ++ (reportPairs batch).map some

theorem reportForm (batch : Wire.Batch) : ReportForm batch where
  read := by
    rw [reportPairs_eq]
    exact Naming.read?_layout clear_reportNaming batch
  order other h := by
    rw [reportPairs_eq, reportPairs_eq]
    exact Naming.layout_congr h
  sent _ := rfl
  arrives := Url.readForm_formChars _
  appended u := Url.readForm_appendPairs u _

theorem checkForm (r : AuthRequest) (first : Transaction) (extensions : Table String String) :
    CheckForm r first ⟨r.credential, r.service, [first], extensions⟩ := by
  have hpairs : queryPairs ⟨r.credential, r.service, [first], extensions⟩ first =
      queryNaming.layout (batchOf r first) := queryPairs_eq _ first
  have hagrees := map_plainPair_fields (batchOf r first)
  constructor
  case transactions => rfl
  case read =>
    rw [hpairs]
    exact Naming.read?_layout clear_queryNaming _
  case order =>
    intro usage husage
    rw [queryPairs_eq, queryPairs_eq]
    exact Naming.layout_congr ⟨rfl, rfl, rfl, husage⟩
  case sent =>
    intro c kind
    let url := c.base.popIfEmpty.extend kind.path
    have hquery : url.query = c.base.query := by
      show (c.base.popIfEmpty.extend kind.path).query = _
      rw [Url.query_extend, Url.query_popIfEmpty]
    obtain ⟨query, hsome, hread⟩ := Url.readForm_appendPairs url
      (queryPairs ⟨r.credential, r.service, [first], extensions⟩ first)
    rw [hquery] at hread
    exact ⟨_, query, rfl, hsome, hread⟩
  case drained =>
    intro husage
    have hsome : ¬ (batchOf r first).usage.isEmpty = true := by simpa [batchOf] using husage
    show (UsageBuffer.empty.record _).batches = _
    rw [UsageBuffer.record_empty rfl, UsageBuffer.batches_merge_empty]
    exact if_neg hsome
  case front => rfl
  case agrees =>
    rw [hpairs]
    exact hagrees
  case agreesWholly =>
    intro hkind
    rw [hpairs]
    show plainPair (_, _) :: plainPair (_, _) :: (reportNaming.fields _).map plainPair = _
    rw [hagrees]
    show (plainName r.credential.kind, _) :: (plainName "service_id", _) :: _ = _
    rw [hkind]
    rfl

/-- **Checks and reports lose nothing and say the same**, whatever the texts in them. -/
theorem forms_faithful :
    (∀ (credential : Credential) (service : String) (first : Transaction) (more : List Transaction),
      ∃ wire, AuthRequest.toWire ⟨credential, service, first :: more⟩ = .ok wire ∧
        CheckForm ⟨credential, service, first :: more⟩ first wire) ∧
      ∀ batch : Wire.Batch, ReportForm batch :=
  ⟨fun _ _ first _ => ⟨_, rfl, checkForm _ first _⟩, reportForm⟩

/-- Names and values that look like other pairs. -/
def lookalike : Transaction :=
  ⟨(Table.empty.insert "hits][x" (-3)).insert "usage[hits]=1&service_id" 5,
    ⟨"", "k", "", "u&user_id=v"⟩⟩

theorem forms_faithful_lookalike :
    let r : AuthRequest := ⟨⟨Credential.serviceToken, "a&b=c"⟩, "42", [lookalike]⟩
    lookalike.usage.isEmpty = false ∧ plainName r.credential.kind = r.credential.kind ∧
      ∃ wire, r.toWire = .ok wire ∧
        (UsageBuffer.empty.record wire).drain.1 = [batchOf r lookalike] ∧
        (reportPairs (batchOf r lookalike)).map plainPair = queryPairs wire lookalike := by
  intro r
  have hsome : lookalike.usage.isEmpty = false := by decide
  have hkind : plainName r.credential.kind = r.credential.kind := by decide
  obtain ⟨wire, hwire, hform⟩ := forms_faithful.1 ⟨Credential.serviceToken, "a&b=c"⟩ "42" lookalike []
  exact ⟨hsome, hkind, wire, hwire, hform.drained hsome, hform.agreesWholly hkind⟩

/-- **A credential may itself be of a kind that is not plain**: under plain names its pair is that of a user key. -/
theorem wrapped_kind_renamed :
    let first : Transaction := ⟨Table.empty.insert "hits" 1, default⟩
    let r : AuthRequest := ⟨⟨"transactions[0][user_key]", "tok"⟩, "42", [first]⟩
    ∃ wire, r.toWire = .ok wire ∧ (UsageBuffer.empty.record wire).drain.1 = [batchOf r first] ∧
      queryPairs wire first =
        [("transactions[0][user_key]", "tok"), ("service_id", "42"), ("usage[hits]", "1")] ∧
      (reportPairs (batchOf r first)).map plainPair =
        [("user_key", "tok"), ("service_id", "42"), ("usage[hits]", "1")] ∧
      (reportPairs (batchOf r first)).map plainPair ≠ queryPairs wire first := by
  intro first r
  exact ⟨_, rfl, by decide, by decide, by decide, by decide⟩

end GatewayAuth.Http
