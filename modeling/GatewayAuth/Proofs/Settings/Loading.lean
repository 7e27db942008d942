import GatewayAuth.Proofs.Settings.Precedence
import GatewayAuth.Proofs.Settings.Reading

/-!
# `GatewayAuth.Proofs.Settings.Loading` — the settings that a machine gives

Every setting has a path of two keys, its section and its name. What is read there is what the highest of the sources
says that settles the path, and settings are returned only if all of them can be read and lie in their ranges.

## Contents
- `cacheParts` and the other lists, `describes_cache` and the others: the parts of every section.
- `Leaf`, `leaves`: all settings by their paths; `Tree.Gives`: what settings a tree gives.
- `ofTree_eq_ok_iff`, `Settings.problems_eq_nil_iff`, `check_eq_ok_iff`: settings with their types and ranges.
- `Tree.Decided`: what layers say about a path, the highest first.
- `prioritised_of_layers`: the settings of a machine, whatever its files, variables and options are.
-/

namespace GatewayAuth

/-! ## Ranges and patterns -/

/-- Settings within their ranges, and with a known format. -/
structure Settings.InRange (s : Settings) : Prop where
  maxSize : s.cache.maxSize ≤ 100000
  retries : s.cache.retries.toNat ≤ 10
  refreshSeconds : s.cache.refreshSeconds ≤ 86400
  ttlSeconds : s.cache.ttlSeconds ≤ 86400
  flushSeconds : s.backend.flushSeconds ≤ 3600
  requestTimeout : 1 ≤ s.http.requestTimeout ∧ s.http.requestTimeout ≤ 120000
  connectTimeout : 1 ≤ s.http.connectTimeout ∧ s.http.connectTimeout ≤ 60000
  level : s.logging.level ≠ ""
  format : s.logging.format = "json" ∨ s.logging.format = "pretty"
  port : 1024 ≤ s.metrics.port ∧ s.metrics.port ≤ 65535

theorem Settings.problems_eq_nil_iff (s : Settings) : s.problems = [] ↔ s.InRange := by
  have hlevel : s.logging.level.isEmpty = true ↔ s.logging.level = "" := String.isEmpty_iff
  simp only [Settings.problems, List.append_eq_nil_iff, rangeProblem_eq_nil_iff, Nat.zero_le, true_and,
    ite_eq_left_iff, ite_eq_right_iff, List.cons_ne_nil, imp_false, not_not, hlevel, LoggingSettings.formats,
    List.mem_cons, List.not_mem_nil, or_false]
  constructor
  · rintro ⟨⟨⟨⟨⟨⟨⟨⟨⟨hflush, hconnect⟩, hrequest⟩, hformat⟩, hlevel⟩, hport⟩, hsize⟩, hretries⟩, hrefresh⟩, httl⟩
    exact ⟨hsize, hretries, hrefresh, httl, hflush, hrequest, hconnect, hlevel, hformat, hport⟩
  · rintro ⟨hsize, hretries, hrefresh, httl, hflush, hrequest, hconnect, hlevel, hformat, hport⟩
    exact ⟨⟨⟨⟨⟨⟨⟨⟨⟨hflush, hconnect⟩, hrequest⟩, hformat⟩, hlevel⟩, hport⟩, hsize⟩, hretries⟩, hrefresh⟩, httl⟩

namespace Settings

/-! ## The parts of every section -/

/-- The settings of the cache. -/
def cacheParts : List (Part CacheSettings) :=
  [⟨"enabled", 0, Bool, readFlag, (·.enabled), fun s b => { s with enabled := b }⟩,
   ⟨"max_size", 1, Nat, readWhole max64, (·.maxSize), fun s n => { s with maxSize := n }⟩,
   ⟨"num_retry_failed_refresh", 2, Nat, readWhole max32, (·.retries.toNat),
     fun s n => { s with retries := .ofNat n }⟩,
   ⟨"refresh_interval_seconds", 3, Nat, readWhole max64, (·.refreshSeconds),
     fun s n => { s with refreshSeconds := n }⟩,
   ⟨"ttl_seconds", 4, Nat, readWhole max64, (·.ttlSeconds), fun s n => { s with ttlSeconds := n }⟩]

/-- The settings of the dispatch. -/
def backendParts : List (Part BackendSettings) :=
  [⟨"enable_caching", 0, Bool, readFlag, (·.buffered), fun s b => { s with buffered := b }⟩,
   ⟨"cache_flush_interval_seconds", 1, Nat, readWhole max64, (·.flushSeconds),
     fun s n => { s with flushSeconds := n }⟩,
   ⟨"failure_policy", 2, FailurePolicy, readPolicy, (·.policy), fun s p => { s with policy := p }⟩]

/-- The settings of connections. -/
def httpParts : List (Part HttpSettings) :=
  [⟨"request_timeout_ms", 0, Nat, readWhole max64, (·.requestTimeout),
     fun s n => { s with requestTimeout := n }⟩,
   ⟨"connect_timeout_ms", 1, Nat, readWhole max64, (·.connectTimeout),
     fun s n => { s with connectTimeout := n }⟩]

/-- The settings of the log. -/
def loggingParts : List (Part LoggingSettings) :=
  [⟨"level", 0, String, readText, (·.level), fun s t => { s with level := t }⟩,
   ⟨"format", 1, String, readText, (·.format), fun s t => { s with format := t }⟩]

/-- The settings of the metrics. -/
def metricsParts : List (Part MetricsSettings) :=
  [⟨"enabled", 0, Bool, readFlag, (·.enabled), fun s b => { s with enabled := b }⟩,
   ⟨"port", 1, Nat, readWhole max16, (·.port), fun s n => { s with port := n }⟩]

/-- The sections as the parts of all settings. -/
def sectionParts : List (Part Settings) :=
  [⟨"system_cache", 0, CacheSettings, readSection .ignored cacheFields {}, (·.cache),
     fun s c => { s with cache := c }⟩,
   ⟨"backend", 1, BackendSettings, readSection .ignored backendFields {}, (·.backend),
     fun s b => { s with backend := b }⟩,
   ⟨"http", 2, HttpSettings, readSection .ignored httpFields {}, (·.http), fun s h => { s with http := h }⟩,
   ⟨"logging", 3, LoggingSettings, readSection .ignored loggingFields {}, (·.logging),
     fun s l => { s with logging := l }⟩,
   ⟨"metrics", 4, MetricsSettings, readSection .ignored metricsFields {}, (·.metrics),
     fun s m => { s with metrics := m }⟩]

/-- A number of 32 bits is stored as it is read. -/
theorem toNat_ofNat_of_readWhole {t : Tree} {n : Nat} (h : readWhole max32 t = .ok n) :
    (UInt32.ofNat n).toNat = n := by
  cases t with
  | whole i =>
      rw [readWhole] at h
      split at h
      · next hrange =>
        cases h
        have hmax : (max32 : Int) = 4294967295 := rfl
        refine UInt32.toNat_ofNat_of_lt' ?_
        rw [UInt32.size]
        omega
      · cases h
  | _ => cases h

theorem describes_cache : Describes cacheParts cacheFields where
  map_field := rfl
  keys := by decide
  places := rfl
  get_set := by
    simp only [cacheParts, List.forall_mem_cons]
    refine ⟨?_, ?_, fun t n h s => toNat_ofNat_of_readWhole h, ?_, ?_, ?_⟩
    all_goals simp
  get_set_other := by simp [cacheParts]
  ext := by
    rintro ⟨⟩ ⟨⟩ h
    simpa [cacheParts, UInt32.toNat_inj] using h

theorem describes_backend : Describes backendParts backendFields where
  map_field := rfl
  keys := by decide
  places := rfl
  get_set := by simp [backendParts]
  get_set_other := by simp [backendParts]
  ext := by
    rintro ⟨⟩ ⟨⟩ h
    simpa [backendParts] using h

theorem describes_http : Describes httpParts httpFields where
  map_field := rfl
  keys := by decide
  places := rfl
  get_set := by simp [httpParts]
  get_set_other := by simp [httpParts]
  ext := by
    rintro ⟨⟩ ⟨⟩ h
    simpa [httpParts] using h

theorem describes_logging : Describes loggingParts loggingFields where
  map_field := rfl
  keys := by decide
  places := rfl
  get_set := by simp [loggingParts]
  get_set_other := by simp [loggingParts]
  ext := by
    rintro ⟨⟩ ⟨⟩ h
    simpa [loggingParts] using h

theorem describes_metrics : Describes metricsParts metricsFields where
  map_field := rfl
  keys := by decide
  places := rfl
  get_set := by simp [metricsParts]
  get_set_other := by simp [metricsParts]
  ext := by
    rintro ⟨⟩ ⟨⟩ h
    simpa [metricsParts] using h

theorem describes_sections : Describes sectionParts (sections .ignored) where
  map_field := rfl
  keys := by decide
  places := rfl
  get_set := by simp [sectionParts]
  get_set_other := by simp [sectionParts]
  ext := by
    rintro ⟨⟩ ⟨⟩ h
    simpa [sectionParts] using h

/-! ## Settings by their paths -/

/-- A single setting. -/
structure Leaf where
  /-- The key of its section. -/
  group : String
  key : String
  /-- The place in its section. -/
  place : Nat
  Value : Type
  read : Tree → Read Value
  get : Settings → Value

/-- The path of a setting. -/
def Leaf.path (leaf : Leaf) : List String := [leaf.group, leaf.key]

/-- The value from which a setting is read: the one at its path or, where the section is given as a list, the item at its
place. -/
def Leaf.value? (leaf : Leaf) (t : Tree) : Option Tree :=
  match Tree.at? [leaf.group] t with
  | some (.list items) => items[leaf.place]?
  | _ => Tree.at? leaf.path t

/-- A part of a section as a setting. -/
def Part.leaf {σ : Type} (group : String) (get : Settings → σ) (p : Part σ) : Leaf :=
  ⟨group, p.key, p.place, p.Value, p.read, fun s => p.get (get s)⟩

/-- All settings. -/
def leaves : List Leaf :=
  cacheParts.map (Part.leaf "system_cache" (·.cache)) ++
  backendParts.map (Part.leaf "backend" (·.backend)) ++
  httpParts.map (Part.leaf "http" (·.http)) ++
  loggingParts.map (Part.leaf "logging" (·.logging)) ++
  metricsParts.map (Part.leaf "metrics" (·.metrics))

/-- The settings that a tree gives: every section that it has is a table or a list, and every setting is what its value is
read as, or the default if there is no value for it. -/
structure Tree.Gives (t : Tree) (s : Settings) : Prop where
  sections : ∀ p ∈ sectionParts, ∀ v, Tree.at? [p.key] t = some v → v.isSection = true
  leaves : ∀ leaf ∈ leaves, Stands leaf.read (leaf.value? t) (leaf.get {}) (leaf.get s)

section Sections

variable {σ : Type} {parts : List (Part σ)} {fields : List (Field σ)} {t : Tree}

theorem Tree.at?_singleton (key : String) (place : Nat) (ht : t.isTable = true) :
    t.part? key place = Tree.at? [key] t := by
  cases t with
  | table entries =>
      show Assoc.find? key entries = (Assoc.find? key entries).bind some
      cases Assoc.find? key entries <;> rfl
  | _ => cases ht

theorem Part.value?_leaf (group : String) (get : Settings → σ) (p : Part σ) (t : Tree) :
    (p.leaf group get).value? t = (Tree.at? [group] t).bind (Tree.part? p.key p.place) := by
  have hpath : Tree.at? (p.leaf group get).path t = (Tree.at? [group] t).bind (Tree.at? [p.key]) :=
    Tree.at?_append [group] [p.key] t
  show (match Tree.at? [group] t with
    | some (.list items) => items[p.place]?
    | _ => Tree.at? (p.leaf group get).path t) = _
  rw [hpath]
  cases Tree.at? [group] t with
  | none => rfl
  | some v =>
      cases v with
      | table entries => exact (Tree.at?_singleton p.key p.place rfl).symm
      | _ => rfl

theorem Part.stands_leaf_iff (group : String) (get : Settings → σ) (p : Part σ) (t : Tree) (s s' : Settings) :
    Stands (p.leaf group get).read ((p.leaf group get).value? t) ((p.leaf group get).get s')
        ((p.leaf group get).get s) ↔
      Stands p.read ((Tree.at? [group] t).bind (Tree.part? p.key p.place)) (p.get (get s')) (p.get (get s)) := by
  rw [Part.value?_leaf]
  rfl

/-- A section and its parts: it can be read if it is a table or a list and each of its parts can be. -/
theorem stands_section_iff (h : Describes parts fields) {value? : Option Tree} {unset s : σ} :
    Stands (readSection .ignored fields unset) value? unset s ↔
      (∀ v, value? = some v → v.isSection = true) ∧
        ∀ p ∈ parts, Stands p.read (value?.bind (Tree.part? p.key p.place)) (p.get unset) (p.get s) := by
  cases value? with
  | none =>
      constructor
      · rintro rfl
        exact ⟨nofun, fun p hp => rfl⟩
      · rintro ⟨-, hparts⟩
        exact h.ext s unset hparts
  | some v =>
      show readSection .ignored fields unset v = .ok s ↔ _
      rw [readSection_eq_ok_iff h]
      simp [Option.bind_some]

end Sections

/-- **Settings by their paths.** Settings can be read from a table exactly if it gives them. -/
theorem ofTree_eq_ok_iff {t : Tree} (ht : t.isTable = true) {s : Settings} :
    ofTree .ignored t = .ok s ↔ t.Gives s := by
  have hsection : t.isSection = true := by
    cases t with
    | table entries => rfl
    | _ => cases ht
  have hparts : ofTree .ignored t = .ok s ↔
      ∀ p ∈ sectionParts, Stands p.read (Tree.at? [p.key] t) (p.get {}) (p.get s) := by
    rw [ofTree, readSection_eq_ok_iff describes_sections]
    simp only [hsection, true_and, Tree.at?_singleton _ _ ht]
  have hgives : t.Gives s ↔
      (∀ p ∈ sectionParts, ∀ v, Tree.at? [p.key] t = some v → v.isSection = true) ∧
        ∀ leaf ∈ leaves, Stands leaf.read (leaf.value? t) (leaf.get {}) (leaf.get s) :=
    ⟨fun h => ⟨h.sections, h.leaves⟩, fun h => ⟨h.1, h.2⟩⟩
  rw [hparts, hgives]
  simp only [leaves, List.forall_mem_append, List.forall_mem_map, sectionParts, List.forall_mem_cons,
    Part.stands_leaf_iff, stands_section_iff describes_cache, stands_section_iff describes_backend,
    stands_section_iff describes_http, stands_section_iff describes_logging,
    stands_section_iff describes_metrics]
  constructor
  · rintro ⟨⟨cache, caches⟩, ⟨backend, backends⟩, ⟨http, https⟩, ⟨logging, loggings⟩, ⟨metrics, metricss⟩, -⟩
    exact ⟨⟨cache, backend, http, logging, metrics, nofun⟩, ⟨⟨⟨caches, backends⟩, https⟩, loggings⟩, metricss⟩
  · rintro ⟨⟨cache, backend, http, logging, metrics, -⟩, ⟨⟨⟨caches, backends⟩, https⟩, loggings⟩, metricss⟩
    exact ⟨⟨cache, caches⟩, ⟨backend, backends⟩, ⟨http, https⟩, ⟨logging, loggings⟩, ⟨metrics, metricss⟩, nofun⟩

theorem check_eq_ok_iff {t : Tree} (ht : t.isTable = true) {s : Settings} :
    check t = .ok s ↔ t.Gives s ∧ s.InRange := by
  rw [← ofTree_eq_ok_iff ht, ← Settings.problems_eq_nil_iff, check]
  cases ofTree .ignored t with
  | error m => simp
  | ok s' =>
      show (if s'.problems = [] then Except.ok s' else _) = _ ↔ _
      split
      · next h =>
        constructor
        · intro hs
          cases hs
          exact ⟨rfl, h⟩
        · rintro ⟨hs, -⟩
          cases hs
          rfl
      · next h =>
        constructor
        · intro hs
          cases hs
        · rintro ⟨hs, hproblems⟩
          cases hs
          exact absurd hproblems h

/-! ## What layers say about a path -/

/-- The value at a path in layers, the last of which is the highest: the highest layer that settles the path has its way.
If it has a value there, this is laid over the one from the layers below, which changes nothing but tables. -/
inductive Tree.Decided (path : List String) : List Tree → Option Tree → Prop where
  /-- No layer has anything to say about the path. -/
  | open {layers : List Tree} (h : ∀ layer ∈ layers, ¬ layer.Settles path) : Decided path layers none
  /-- The layer `layer` decides. -/
  | settled {lows : List Tree} {low? : Option Tree} (below : Decided path lows low?) {layer : Tree}
      (highs : List Tree) (h : layer.Settles path) (hhighs : ∀ high ∈ highs, ¬ high.Settles path) :
      Decided path (lows ++ layer :: highs) ((layer.at? path).map (Tree.laidOver low?))

namespace Tree

variable {path : List String} {ls : List Tree} {v? : Option Tree} {t high low : Tree}

/-- What no layer settles is not there. -/
theorem at?_stack_of_open (hpath : path ≠ []) (h : ∀ layer ∈ ls, ¬ layer.Settles path) :
    at? path (stack ls) = none := by
  induction ls using List.reverseRecOn with
  | nil =>
      cases path with
      | nil => exact absurd rfl hpath
      | cons key path => rfl
  | append_singleton ls last ih =>
      rw [stack_append_singleton, at?_upon_of_not_settles (h last (List.mem_append_right _ List.mem_cons_self))]
      exact ih fun layer hmem => h layer (List.mem_append_left _ hmem)

theorem Decided.at?_stack (hpath : path ≠ []) (h : Decided path ls v?) : at? path (stack ls) = v? := by
  induction h with
  | «open» h => exact at?_stack_of_open hpath h
  | settled below highs h hhighs ih => rw [Tree.at?_stack _ highs h hhighs, ih]

theorem exists_decided (path : List String) (ls : List Tree) : ∃ v?, Decided path ls v? := by
  -- by the number of layers, since what decides leaves those below it
  induction hn : ls.length using Nat.strongRecOn generalizing ls with
  | ind n ih =>
      by_cases h : ∃ layer ∈ ls, layer.Settles path
      · obtain ⟨lows, layer, highs, rfl, hsettles, hhighs⟩ := exists_highest h
        have hlt : lows.length < n := by
          rw [← hn, List.length_append, List.length_cons]
          omega
        obtain ⟨low?, below⟩ := ih lows.length hlt lows rfl
        exact ⟨_, .settled below highs hsettles hhighs⟩
      · exact ⟨none, .open fun layer hmem hs => h ⟨layer, hmem, hs⟩⟩

/-- **The law of layers**: what stands at a path is what the layers decide. -/
theorem at?_stack_eq_iff (hpath : path ≠ []) : at? path (stack ls) = v? ↔ Decided path ls v? := by
  constructor
  · rintro rfl
    obtain ⟨v?, h⟩ := exists_decided path ls
    rw [h.at?_stack hpath]
    exact h
  · exact Decided.at?_stack hpath

theorem isTable_upon (h : high.isTable = true) : (upon high low).isTable = true := by
  cases high with
  | table highs => cases low <;> rfl
  | _ => cases h

theorem isTable_stack (h : ∀ layer ∈ ls, layer.isTable = true) : (stack ls).isTable = true := by
  induction ls using List.reverseRecOn with
  | nil => rfl
  | append_singleton ls last ih =>
      rw [stack_append_singleton]
      exact isTable_upon (h last (List.mem_append_right _ List.mem_cons_self))

theorem isTable_placed (hpath : path ≠ []) : (placed path t).isTable = true := by
  cases path with
  | nil => exact absurd rfl hpath
  | cons key path => rfl

theorem fixes_placed (h : t.isTable = false) : Fixes path (placed path t) :=
  ⟨path, [], t, List.append_nil path, at?_placed path t, h⟩

/-- A setting is read from the value at its path if there is one. -/
theorem value?_of_at? {leaf : Leaf} {v : Tree} (h : at? leaf.path t = some v) : leaf.value? t = some v := by
  have hgroup : (at? [leaf.group] t).bind (at? [leaf.key]) = some v := by
    rw [← at?_append]
    exact h
  rw [Leaf.value?]
  split
  · next items hitems =>
    rw [hitems] at hgroup
    cases hgroup
  · exact h

end Tree

/-! ## The layers of a machine -/

theorem isTable_of_ofText {text : String} {t : Tree} (h : Toml.ofText text = some t) : t.isTable = true := by
  obtain ⟨entries, -, rfl⟩ := Option.map_eq_some_iff.1 h
  rfl

theorem isTable_of_fileLayer {files : Files} {path : String} {found : List Tree}
    (h : fileLayer files path = .ok found) : ∀ t ∈ found, t.isTable = true := by
  intro t ht
  rw [fileLayer] at h
  split at h
  · cases h
    cases ht
  · split at h
    · next t' htext =>
      cases h
      rw [List.mem_singleton.1 ht]
      exact isTable_of_ofText htext
    · cases h

theorem Variable.splitPoints_ne_nil (cs : List Char) : Variable.splitPoints cs ≠ [] := by
  cases cs with
  | nil => exact List.cons_ne_nil _ _
  | cons c rest =>
      rw [Variable.splitPoints]
      split
      · exact List.cons_ne_nil _ _
      · split <;> exact List.cons_ne_nil _ _

theorem Variable.pathOf?_ne_nil {name : String} {path : List String}
    (h : Variable.pathOf? name = some path) : path ≠ [] := by
  unfold Variable.pathOf? at h
  simp only at h
  split at h
  · split at h
    · cases h
    · cases h
      simp only [ne_eq, List.map_eq_nil_iff]
      exact Variable.splitPoints_ne_nil _
  · cases h

theorem Variable.isTable_treeOf (vars : List (String × String)) : (Variable.treeOf vars).isTable = true := by
  refine Tree.isTable_stack fun layer hmem => ?_
  obtain ⟨v, -, hv⟩ := List.mem_filterMap.1 hmem
  obtain ⟨path, hpath, rfl⟩ := Option.map_eq_some_iff.1 hv
  exact Tree.isTable_placed (Variable.pathOf?_ne_nil hpath)

variable {machine : Machine} {options : Options} {ls : List Tree}

/-- The sources in their order. -/
theorem exists_of_layers (h : layers machine options = .ok ls) :
    ∃ common own named,
      fileLayer machine.files "config/default.toml" = .ok common ∧
      fileLayer machine.files ("config/" ++ options.environment ++ ".toml") = .ok own ∧
      options.file.elim (named = []) (fun file => fileLayer machine.files file = .ok named) ∧
      ls = defaultLayer :: common ++ own ++ named ++ [Variable.treeOf machine.vars] ++
        (if options.debug then [levelLayer "debug"] else []) ++ options.logLevel.toList.map levelLayer := by
  obtain ⟨files, hfiles, hls⟩ := exists_of_bind h
  rw [paths, List.mapM_cons, List.mapM_cons] at hfiles
  obtain ⟨common, hcommon, hfiles⟩ := exists_of_bind hfiles
  obtain ⟨rest, hrest, hfiles⟩ := exists_of_bind hfiles
  obtain ⟨own, hown, hrest⟩ := exists_of_bind hrest
  obtain ⟨others, hothers, hrest⟩ := exists_of_bind hrest
  cases hfiles
  cases hrest
  cases hls
  refine ⟨common, own, others.flatten, hcommon, hown, ?_, by simp⟩
  cases hfile : options.file with
  | none =>
      rw [hfile] at hothers
      cases hothers
      rfl
  | some file =>
      rw [hfile] at hothers
      show fileLayer machine.files file = .ok others.flatten
      rw [Option.toList_some, List.mapM_cons] at hothers
      obtain ⟨named, hnamed, hothers⟩ := exists_of_bind hothers
      cases hothers
      simpa using hnamed

theorem isTable_of_layers (h : layers machine options = .ok ls) : ∀ layer ∈ ls, layer.isTable = true := by
  obtain ⟨common, own, named, hcommon, hown, hnamed, rfl⟩ := exists_of_layers h
  have hnamed : ∀ t ∈ named, t.isTable = true := by
    cases hfile : options.file with
    | none =>
        rw [hfile] at hnamed
        subst hnamed
        exact nofun
    | some file =>
        rw [hfile] at hnamed
        exact isTable_of_fileLayer hnamed
  have hdebug : ∀ t ∈ (if options.debug then [levelLayer "debug"] else []), t.isTable = true := by
    cases options.debug <;> simp [levelLayer, Tree.isTable_placed]
  have hlevel : ∀ t ∈ options.logLevel.toList.map levelLayer, t.isTable = true := by
    rw [List.forall_mem_map]
    exact fun level _ => Tree.isTable_placed (List.cons_ne_nil _ _)
  simp only [List.forall_mem_append, List.cons_append, List.forall_mem_cons]
  exact ⟨rfl, ⟨⟨⟨⟨isTable_of_fileLayer hcommon, isTable_of_fileLayer hown⟩, hnamed⟩,
    Variable.isTable_treeOf machine.vars, nofun⟩, hdebug⟩, hlevel⟩

/-- The defaults have a value for every setting. -/
theorem settles_defaultLayer : ∀ leaf ∈ leaves, defaultLayer.Settles leaf.path := by
  have hvalues : ∀ leaf ∈ leaves, (Tree.at? leaf.path defaultLayer).isSome = true := by decide +kernel
  intro leaf hmem
  exact .inl (Option.isSome_iff_exists.1 (hvalues leaf hmem))

/-- The setting of the log level. -/
def levelLeaf : Leaf := ⟨"logging", "level", 0, String, readText, (·.logging.level)⟩

theorem levelLeaf_mem : levelLeaf ∈ leaves := by
  have hpart : levelLeaf ∈ loggingParts.map (Part.leaf "logging" (·.logging)) := .head _
  simp only [leaves, List.mem_append, hpart, true_or, or_true]

/-- A level that the topmost layer sets. -/
theorem level_of_stack (lows : List Tree) (text : String) :
    Tree.at? ["logging", "level"] (Tree.stack (lows ++ [levelLayer text])) = some (.text text) := by
  rw [Tree.stack_append_singleton]
  exact (Tree.at?_upon_of_fixes (Tree.fixes_placed rfl)).trans (Tree.at?_placed _ _)

theorem Tree.Gives.level {t : Tree} {s : Settings} (h : t.Gives s) {text : String}
    (ht : Tree.at? ["logging", "level"] t = some (.text text)) : s.logging.level = text := by
  have hleaf := h.leaves levelLeaf levelLeaf_mem
  have hvalue : levelLeaf.value? t = some (.text text) := Tree.value?_of_at? ht
  rw [hvalue] at hleaf
  exact (Except.ok.inj hleaf).symm

/-! ## Priority -/

/-- **The settings of a machine by the priority of their sources**, which give the layers `ls`. -/
structure Prioritised (machine : Machine) (options : Options) (ls : List Tree) : Prop where
  /-- The sources, lowest first. -/
  order : ∃ common own named,
    fileLayer machine.files "config/default.toml" = .ok common ∧
    fileLayer machine.files ("config/" ++ options.environment ++ ".toml") = .ok own ∧
    options.file.elim (named = []) (fun file => fileLayer machine.files file = .ok named) ∧
    ls = defaultLayer :: common ++ own ++ named ++ [Variable.treeOf machine.vars] ++
      (if options.debug then [levelLayer "debug"] else []) ++ options.logLevel.toList.map levelLayer
  /-- At every path stands what the highest layer says that settles it. -/
  decided : ∀ path ≠ [], ∀ v?, Tree.at? path (Tree.stack ls) = v? ↔ Tree.Decided path ls v?
  /-- Some layer settles every setting. -/
  settled : ∀ leaf ∈ leaves, ∃ layer ∈ ls, layer.Settles leaf.path
  /-- Nothing in lower layers alters what a higher one fixes. -/
  kept : ∀ lows highs, ls = lows ++ highs → ∀ path, (∃ high ∈ highs, high.Fixes path) →
    ∀ lows', Tree.at? path (Tree.stack (lows' ++ highs)) = Tree.at? path (Tree.stack ls)
  /-- These are the values that are read, and the settings lie in their ranges. -/
  loaded : ∀ s, load machine options = .ok s ↔ (Tree.stack ls).Gives s ∧ s.InRange
  /-- The log level of the command line wins over everything else. -/
  level : ∀ text, options.logLevel = some text →
    Tree.at? ["logging", "level"] (Tree.stack ls) = some (.text text) ∧
      ∀ s, load machine options = .ok s → s.logging.level = text
  /-- The switch for debugging wins over all files and variables. -/
  debug : options.debug = true → options.logLevel = none →
    Tree.at? ["logging", "level"] (Tree.stack ls) = some (.text "debug") ∧
      ∀ s, load machine options = .ok s → s.logging.level = "debug"

theorem prioritised_of_layers (h : layers machine options = .ok ls) : Prioritised machine options ls := by
  have horder := exists_of_layers h
  have hload : load machine options = check (Tree.stack ls) := by
    rw [load, h]
    rfl
  have hloaded : ∀ s, load machine options = .ok s ↔ (Tree.stack ls).Gives s ∧ s.InRange := by
    intro s
    rw [hload]
    exact check_eq_ok_iff (Tree.isTable_stack (isTable_of_layers h))
  have hlevel : ∀ text, (∃ lows, ls = lows ++ [levelLayer text]) →
      Tree.at? ["logging", "level"] (Tree.stack ls) = some (.text text) ∧
        ∀ s, load machine options = .ok s → s.logging.level = text := by
    rintro text ⟨lows, rfl⟩
    have hvalue := level_of_stack lows text
    exact ⟨hvalue, fun s hs => ((hloaded s).1 hs).1.level hvalue⟩
  refine ⟨horder, fun path hpath v? => Tree.at?_stack_eq_iff hpath, ?_, ?_, hloaded, ?_, ?_⟩
  · intro leaf hleaf
    obtain ⟨common, own, named, -, -, -, rfl⟩ := horder
    exact ⟨defaultLayer, by simp, settles_defaultLayer leaf hleaf⟩
  · rintro lows highs rfl path hfixes lows'
    exact Tree.at?_stack_of_fixes lows' lows hfixes
  · intro text htext
    obtain ⟨common, own, named, -, -, -, hls⟩ := horder
    rw [htext] at hls
    exact hlevel text ⟨_, hls⟩
  · intro hdebug hnone
    obtain ⟨common, own, named, -, -, -, hls⟩ := horder
    rw [hdebug, hnone] at hls
    exact hlevel "debug" ⟨_, hls.trans (List.append_nil _)⟩

/-- On this machine the file of the environment has a number in place of the section on metrics, and a variable restores
the section. -/
def restoringMachine : Machine where
  files := ⟨[(["config", "default.toml"], "[metrics]\nenabled = true\n[http]\nrequest_timeout_ms = 7\n"),
    (["config", "test.toml"], "metrics = 1\n")], []⟩
  vars := [("AUTHORIZER_METRICS__PORT", "9000")]

theorem prioritised_restoringMachine :
    load restoringMachine ⟨none, "test", some "warn", true⟩ =
        .ok { http := { requestTimeout := 7 }, logging := { level := "warn" }, metrics := { port := 9000 } } ∧
      ∃ ls, layers restoringMachine ⟨none, "test", some "warn", true⟩ = .ok ls ∧
        Prioritised restoringMachine ⟨none, "test", some "warn", true⟩ ls := by
  have hload : load restoringMachine ⟨none, "test", some "warn", true⟩ =
      .ok { http := { requestTimeout := 7 }, logging := { level := "warn" }, metrics := { port := 9000 } } :=
    eq_ok_of_toOption (by decide +kernel)
  obtain ⟨ls, hls, -⟩ := exists_of_bind hload
  exact ⟨hload, ls, hls, prioritised_of_layers hls⟩

end Settings

end GatewayAuth
