import GatewayAuth.Http.System
import GatewayAuth.Proofs.Url.Path

/-!
# `GatewayAuth.Proofs.Http.Latest` — which resource a configuration is fetched from

The URL of the latest configuration is eight parts below the location of the control plane, two of them made of the
service and the environment. Whatever the texts, neither of the two reaches beyond its part and both can be read back,
with two exceptions: tabs and line ends are dropped, so that texts which differ in nothing else have one URL, and texts
that stand for directories, perhaps after the dropping, do not become parts. Requests are not checked for either.

## Contents
- `Addresses`: what the URLs of a client address.
- `path_latestUrl`, `path_latestUrl_of_isName`, `map_escapedPart_latestPath`: the parts of the path.
- `render_latestUrl_iff`: which services and environments have the same URL.
- `addresses_of_ofLocation`: the result for every location.
- `latestUrl_of_dropped`: a tab is lost, and dots leave a part out or climb out of it.
-/

namespace GatewayAuth.Http

/-- The parts of the path of an endpoint can be told from each other. -/
theorem isPart_of_parseEndpoint {text : String} {u : Url} (h : parseEndpoint text = .ok u) :
    ∀ part ∈ u.path, Url.IsPart part := by
  unfold parseEndpoint at h
  split at h
  · cases h
  · cases h
  · next url hparse =>
    split at h
    · cases h
    · cases h
      exact fun part hpart => Url.isPart_of_parse hparse hpart

namespace SystemClient

open Url

variable {c : SystemClient} {location token service environment service' environment' : String}

theorem parseEndpoint_of_ofLocation (h : ofLocation location token = .ok c) :
    parseEndpoint location = .ok c.base := by
  unfold ofLocation at h
  cases hparse : parseEndpoint location with
  | error fault =>
      rw [hparse] at h
      cases h
  | ok base =>
      rw [hparse] at h
      cases h
      rfl

/-! ## The path -/

/-- **The parts are put below the location one after the other.** -/
theorem path_latestUrl (c : SystemClient) (service environment : String) :
    (c.latestUrl service environment).path =
      (latestPath service environment).foldl placed (stem c.base.path) := by
  -- the first two parts are names, so that the path has more than one part from there on
  let first := c.base.popIfEmpty.push "admin".toList
  let second := first.push "api".toList
  have hfirst : first.path = stem c.base.path ++ ["admin".toList] := by
    show (c.base.popIfEmpty.push "admin".toList).path = _
    rw [path_push _ _ (.inl (by decide)), ground_popIfEmpty, placed_of_isName (by decide)]
    rfl
  have hground : ground first.path = first.path := by
    refine if_neg fun hsingle => ?_
    have hlast := congrArg List.getLast? (hfirst.symm.trans hsingle)
    rw [List.getLast?_concat] at hlast
    exact absurd hlast (by decide)
  have hsecond : second.path = stem c.base.path ++ ["admin".toList, "api".toList] := by
    show (first.push "api".toList).path = _
    rw [path_push _ _ (.inl (by decide)), hground, placed_of_isName (by decide), hfirst, List.append_assoc]
    rfl
  have hlength : 2 ≤ second.path.length := by
    rw [hsecond]
    simp
  have hrest := path_extend second hlength ((latestPath service environment).drop 2)
  have hplaced : placed (placed (stem c.base.path) "admin".toList) "api".toList = second.path := by
    rw [hsecond, placed_of_isName (by decide), placed_of_isName (by decide), List.append_assoc]
    rfl
  show (second.extend ((latestPath service environment).drop 2)).path = _
  rw [hrest, ← hplaced]
  rfl

theorem isName_latestPath (hservice : IsName service.toList) (henvironment : IsName environment.toList) :
    ∀ part ∈ latestPath service environment, IsName part := by
  have hconst : ∀ s ∈ ["admin", "api", "services", "proxy", "configs", "latest.json"],
      IsName s.toList := by decide
  intro part hpart
  unfold latestPath at hpart
  simp only [List.mem_cons, List.not_mem_nil, or_false] at hpart
  rcases hpart with rfl | rfl | rfl | rfl | rfl | rfl | rfl | rfl
  · exact hconst "admin" (by simp)
  · exact hconst "api" (by simp)
  · exact hconst "services" (by simp)
  · exact hservice
  · exact hconst "proxy" (by simp)
  · exact hconst "configs" (by simp)
  · exact henvironment
  · exact hconst "latest.json" (by simp)

/-- **Names give exactly the eight parts**, … -/
theorem path_latestUrl_of_isName (hservice : IsName service.toList)
    (henvironment : IsName environment.toList) :
    (c.latestUrl service environment).path =
      stem c.base.path ++ (latestPath service environment).map escapedPart := by
  rw [path_latestUrl, foldl_placed_of_isName (isName_latestPath hservice henvironment)]

/-- … six of which stand for themselves. -/
theorem map_escapedPart_latestPath (service environment : String) :
    (latestPath service environment).map escapedPart =
      ["admin".toList, "api".toList, "services".toList, escapedPart service.toList, "proxy".toList,
        "configs".toList, escapedPart environment.toList, "latest.json".toList] := by
  have hconst : ∀ s ∈ ["admin", "api", "services", "proxy", "configs", "latest.json"],
      escapedPart s.toList = s.toList := by decide
  unfold latestPath
  simp only [List.map_cons, List.map_nil]
  rw [hconst "admin" (by simp), hconst "api" (by simp), hconst "services" (by simp),
    hconst "proxy" (by simp), hconst "configs" (by simp), hconst "latest.json" (by simp)]

/-! ## Which URLs are the same -/

/-- Two URLs of a client differ in their paths only. -/
theorem render_latestUrl_congr (c : SystemClient) (service environment service' environment' : String) :
    (c.latestUrl service environment).render = (c.latestUrl service' environment').render ↔
      (c.latestUrl service environment).pathChars = (c.latestUrl service' environment').pathChars := by
  have hurl : ∀ service environment, c.latestUrl service environment =
      { c.base with
        path := (c.latestUrl service environment).path
        query := (c.latestUrl "" "").query } := by
    intro service environment
    have hquery : ∀ s e, (c.base.popIfEmpty.extend (latestPath s e)).query = c.base.query := by
      intro s e
      rw [query_extend, query_popIfEmpty]
    unfold latestUrl appendPairs
    rw [hquery, hquery, extend_eq, popIfEmpty_eq]
  rw [hurl service environment, hurl service' environment']
  constructor
  · intro hrender
    have hchars := congrArg String.toList hrender
    unfold render at hchars
    rw [String.toList_ofList, String.toList_ofList] at hchars
    unfold chars at hchars
    have hfragment := List.append_cancel_right hchars
    have hquery := List.append_cancel_right hfragment
    exact List.append_cancel_left hquery
  · intro hpath
    unfold render chars
    rw [hpath]
    rfl

/-- **Two services in two environments have the same URL just if nothing is kept that tells them apart.** -/
theorem render_latestUrl_iff (hlocation : ofLocation location token = .ok c)
    (hservice : IsName service.toList) (henvironment : IsName environment.toList)
    (hservice' : IsName service'.toList) (henvironment' : IsName environment'.toList) :
    (c.latestUrl service environment).render = (c.latestUrl service' environment').render ↔
      kept service.toList = kept service'.toList ∧ kept environment.toList = kept environment'.toList := by
  have hstem : ∀ part ∈ stem c.base.path, IsPart part :=
    isPart_stem (isPart_of_parseEndpoint (parseEndpoint_of_ofLocation hlocation))
  have hparts : ∀ {s e : String}, IsName s.toList → IsName e.toList →
      ∀ part ∈ (c.latestUrl s e).path, IsPart part := by
    intro s e hs he part hpart
    rw [path_latestUrl_of_isName hs he, List.mem_append] at hpart
    rcases hpart with hpart | hpart
    · exact hstem part hpart
    · obtain ⟨text, -, rfl⟩ := List.mem_map.1 hpart
      exact isPart_escapedPart text
  rw [render_latestUrl_congr]
  constructor
  · intro hchars
    have hpath := path_eq_of_pathChars (hparts hservice henvironment) (hparts hservice' henvironment') hchars
    rw [path_latestUrl_of_isName hservice henvironment,
      path_latestUrl_of_isName hservice' henvironment'] at hpath
    have hsuffix := List.append_cancel_left hpath
    rw [map_escapedPart_latestPath, map_escapedPart_latestPath] at hsuffix
    simp only [List.cons.injEq, true_and, and_true] at hsuffix
    exact ⟨escapedPart_inj hsuffix.1, escapedPart_inj hsuffix.2⟩
  · rintro ⟨hs, he⟩
    have hpath : (c.latestUrl service environment).path = (c.latestUrl service' environment').path := by
      rw [path_latestUrl_of_isName hservice henvironment, path_latestUrl_of_isName hservice' henvironment',
        map_escapedPart_latestPath, map_escapedPart_latestPath]
      unfold escapedPart
      rw [hs, he]
    unfold pathChars
    rw [hpath]

/-! ## The result -/

/-- What the URLs of a client address. -/
structure Addresses (c : SystemClient) : Prop where
  /-- Whatever the texts, they are put below the location one after the other. -/
  placed : ∀ service environment, (c.latestUrl service environment).path =
    (latestPath service environment).foldl Url.placed (stem c.base.path)
  /-- If service and environment are names, this makes eight parts. Those of the two can be told from the
  others, and they tell all but tabs and line ends. -/
  exactly : ∀ service environment, IsName service.toList → IsName environment.toList →
    ∃ servicePart environmentPart,
      (c.latestUrl service environment).path =
        stem c.base.path ++ ["admin".toList, "api".toList, "services".toList, servicePart, "proxy".toList,
          "configs".toList, environmentPart, "latest.json".toList] ∧
      IsPart servicePart ∧ Percent.decode? servicePart = some (kept service.toList) ∧
      IsPart environmentPart ∧ Percent.decode? environmentPart = some (kept environment.toList)
  /-- Names that differ in more than tabs and line ends have different URLs. -/
  distinct : ∀ service environment service' environment', IsName service.toList →
    IsName environment.toList → IsName service'.toList → IsName environment'.toList →
    ((c.latestUrl service environment).render = (c.latestUrl service' environment').render ↔
      kept service.toList = kept service'.toList ∧ kept environment.toList = kept environment'.toList)
  /-- Names without tabs and line ends have a URL of their own. -/
  faithful : ∀ service environment service' environment',
    (∀ text ∈ [service, environment, service', environment'],
      IsName text.toList ∧ ∀ d ∈ text.toList, isDropped d = false) →
    (c.latestUrl service environment).render = (c.latestUrl service' environment').render →
    service = service' ∧ environment = environment'

/-- **What the URLs of a control plane address**, for every location. -/
theorem addresses_of_ofLocation (h : ofLocation location token = .ok c) : Addresses c := by
  constructor
  case placed => exact path_latestUrl c
  case exactly =>
    intro service environment hservice henvironment
    have hpath := path_latestUrl_of_isName (c := c) hservice henvironment
    rw [map_escapedPart_latestPath] at hpath
    exact ⟨escapedPart service.toList, escapedPart environment.toList, hpath, isPart_escapedPart _,
      decode?_escapedPart _, isPart_escapedPart _, decode?_escapedPart _⟩
  case distinct =>
    intro service environment service' environment' hservice henvironment hservice' henvironment'
    exact render_latestUrl_iff h hservice henvironment hservice' henvironment'
  case faithful =>
    intro service environment service' environment' hwhole hrender
    obtain ⟨hservice, hskept⟩ := hwhole service (by simp)
    obtain ⟨henvironment, hekept⟩ := hwhole environment (by simp)
    obtain ⟨hservice', hskept'⟩ := hwhole service' (by simp)
    obtain ⟨henvironment', hekept'⟩ := hwhole environment' (by simp)
    obtain ⟨hs, he⟩ :=
      (render_latestUrl_iff h hservice henvironment hservice' henvironment').1 hrender
    rw [kept_eq_self hskept, kept_eq_self hskept'] at hs
    rw [kept_eq_self hekept, kept_eq_self hekept'] at he
    exact ⟨String.toList_inj.1 hs, String.toList_inj.1 he⟩

/-- A client of a control plane below a path. -/
def tenantClient : SystemClient :=
  ⟨⟨"http", [], [], "cp.example".toList, none, ["tenant".toList, []], none, none⟩, "t"⟩

theorem addresses_tenantClient :
    ofLocation "http://cp.example/tenant/" "t" = .ok tenantClient ∧ IsName "a/b".toList ∧
      IsName "%2e%2e".toList ∧ ∃ servicePart environmentPart,
        (tenantClient.latestUrl "a/b" "%2e%2e").path =
          ["tenant".toList, "admin".toList, "api".toList, "services".toList, servicePart, "proxy".toList,
            "configs".toList, environmentPart, "latest.json".toList] ∧
        Percent.decode? servicePart = some "a/b".toList ∧
        Percent.decode? environmentPart = some "%2e%2e".toList := by
  have hlocation : ofLocation "http://cp.example/tenant/" "t" = .ok tenantClient :=
    eq_ok_of_toOption (by decide +kernel)
  have hservice : IsName "a/b".toList := by decide
  have henvironment : IsName "%2e%2e".toList := by decide
  obtain ⟨servicePart, environmentPart, hpath, -, hs, -, he⟩ :=
    (addresses_of_ofLocation hlocation).exactly "a/b" "%2e%2e" hservice henvironment
  exact ⟨hlocation, hservice, henvironment, servicePart, environmentPart, hpath, hs, he⟩

/-- **A tab in a service is lost, and dots leave its part out or climb out of it**: other resources are addressed
than those that were asked for. -/
theorem latestUrl_of_dropped :
    let c : SystemClient := { tenantClient with base := { tenantClient.base with path := [[]] } }
    ofLocation "http://cp.example" "t" = .ok c ∧
      (c.latestUrl "a\tb" "production").render =
        "http://cp.example/admin/api/services/ab/proxy/configs/production/latest.json?access_token=t" ∧
      (c.latestUrl "ab" "production").render =
        "http://cp.example/admin/api/services/ab/proxy/configs/production/latest.json?access_token=t" ∧
      (c.latestUrl "." "production").render =
        "http://cp.example/admin/api/services/proxy/configs/production/latest.json?access_token=t" ∧
      (c.latestUrl ".\t." "production").render =
        "http://cp.example/admin/api//proxy/configs/production/latest.json?access_token=t" := by
  intro c
  exact ⟨eq_ok_of_toOption (by decide +kernel), by decide +kernel, by decide +kernel, by decide +kernel,
    by decide +kernel⟩

end SystemClient

end GatewayAuth.Http
