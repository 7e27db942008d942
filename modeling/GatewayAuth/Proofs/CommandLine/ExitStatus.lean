import GatewayAuth.CommandLine.Run
import GatewayAuth.Proofs.Dispatch.Booked
import GatewayAuth.Proofs.Except
import GatewayAuth.Proofs.Simulation.Follows

/-!
# `GatewayAuth.Proofs.CommandLine.ExitStatus` — what exit status 0 of an authorization stands for

The program makes one call and shuts its manager down, so that the usage of its order is the only usage there is. Exit
status 0 tells that the call has come back authorized and that the shutdown has returned. The usage has then been charged
for, or it has been reported, exactly as it was ordered. It does not tell that the report has been accepted: what the call
has come to is settled before the final flush, and the flush does not change it.

## Contents
- `AuthOrder.wire`, `AuthOrder.batch`: an order as it goes out, and its usage as it is reported.
- `metrics_ne_nil_of_parse`: every order has usage.
- `Executed`, `executed_of_results`: the run that the execution of a command takes.
- `Accepted`, `Confirmed`, `confirmed_of_success`: what success stands for.
- `lossyWorld`, `lost_lossyWorld`: a backend that authorizes an order and does not accept its usage.
-/

namespace GatewayAuth

namespace CommandLine

open Simulation Manager

/-! ## Orders -/

namespace AuthOrder

variable {o : AuthOrder}

/-- The transaction of an order. -/
def transaction (o : AuthOrder) : Transaction := ⟨total o.metrics, o.params⟩

/-- An order as it goes out. -/
def wire (o : AuthOrder) : Wire.Request :=
  ⟨o.credential, o.service, [o.transaction], Table.empty.insert Wire.rejectionReasonExtension "1"⟩

/-- The usage of an order as it is reported. -/
def batch (o : AuthOrder) : Wire.Batch := ⟨o.credential, o.service, o.params, total o.metrics⟩

theorem toWire_toRequest (o : AuthOrder) : o.toRequest.toWire = .ok o.wire := rfl

theorem batch_eq (o : AuthOrder) :
    (o.wire.keyOf o.transaction).batch o.transaction.usage = o.batch := rfl

/-- The wish to be told the code of a rejection can stand in a header field. -/
theorem sendableExtensions_wire (o : AuthOrder) : Http.sendableExtensions o.wire = true := by
  have hconst : Http.sendableExtensions o.wire =
      (Wire.extensionsHeader (Table.empty.insert Wire.rejectionReasonExtension "1")).all
        fun text => text.toList.all Http.isFieldChar := rfl
  rw [hconst]
  decide +kernel

end AuthOrder

/-- Usage that has been named is there. -/
theorem exists_contains_total {metrics : List (String × Int64)} (hsome : metrics ≠ []) :
    ∃ metric, (total metrics).contains metric = true := by
  obtain ⟨rest, last, rfl⟩ : ∃ rest last, metrics = rest ++ [last] :=
    ⟨_, _, (List.dropLast_concat_getLast hsome).symm⟩
  have htotal : total (rest ++ [last]) = addMetric (total rest) last := List.foldl_append
  refine ⟨last.1, ?_⟩
  rw [htotal]
  unfold addMetric Table.contains
  rw [Table.find?_alter, if_pos rfl]
  rfl

/-- A command line is read as far as the command; the command is made of what has been found. -/
theorem exists_commandOf_of_parse {vars : List (String × String)} {words : List String}
    {invocation : Invocation} (hparse : parse vars words = .ok invocation) :
    ∃ f name, invocation.command = commandOf f name := by
  unfold parse at hparse
  obtain ⟨⟨r, next⟩, -, hparse⟩ := exists_of_bind hparse
  cases next with
  | none =>
      obtain ⟨f, -, hfault⟩ := exists_of_bind hparse
      cases hfault
  | some next =>
      obtain ⟨⟨own, more⟩, -, hparse⟩ := exists_of_bind hparse
      obtain ⟨level, -, hparse⟩ := exists_of_bind hparse
      obtain ⟨inner, -, hparse⟩ := exists_of_bind hparse
      obtain ⟨outer, -, hparse⟩ := exists_of_bind hparse
      cases hparse
      exact ⟨_, _, rfl⟩

/-- Every order that a command line gives has usage. -/
theorem metrics_ne_nil_of_parse {vars : List (String × String)} {words : List String}
    {options : Settings.Options} {order : AuthOrder}
    (hparse : parse vars words = .ok ⟨options, .authRep order⟩) : order.metrics ≠ [] := by
  obtain ⟨f, name, horder⟩ := exists_commandOf_of_parse hparse
  cases name with
  | fetchConfig => cases horder
  | authRep =>
      cases horder
      show metricsOf f ≠ []
      unfold metricsOf
      split
      · nofun
      · next hsome => simpa using hsome

/-! ## Execution -/

/-- A manager is given its calls as tasks. -/
theorem tasked_new (start : Nat) (limits : Option CacheLimits) (settings : DispatchSettings) :
    Tasked system (.new start limits settings) := by
  intro h m now id input p run hstep
  have step : Stepped m now (.call id) input p := stepped_of_step hstep
  cases step with
  | called step =>
      obtain ⟨job, hjob⟩ := Option.ne_none_iff_exists'.1 step.has_job
      obtain ⟨task, htask, -⟩ := (coherent_of_run run).fits id job hjob
      exact ⟨task, htask⟩

/-- A call that is made goes on with the run that a schedule has taken, and gives at most its own task. -/
theorem follows_call {s₀ : Manager} {server : Http.Server} {s : ServedRun} {h : Past}
    (hf : Follows system s₀ server s h) (htasked : Tasked system s₀) (id : Nat) (task : Task) :
    ∃ h', (h'.begun = h.begun ∨ h'.begun = (.call id, task) :: h.begun) ∧
      Follows system s₀ server (call s id task) h' := by
  unfold call
  split
  · next state hbegin =>
    have hbegins : Follows system s₀ server { s with state } (.began (.call id) task :: h) :=
      hf.begins hbegin
    obtain ⟨h', hbegun, hf'⟩ := hbegins.await htasked (m := managerMachine) rfl rfl id
    exact ⟨h', .inr hbegun, hf'⟩
  · exact ⟨h, .inl rfl, hf⟩

/-- What the execution of a command comes to, and the run that it takes: the call of the command is made and comes back,
then a shutdown is made and returns, and the server answers what is asked on the way. -/
structure Executed (settings : Settings) (server : Http.Server) (command : Command)
    (result : Result) (h : Past) : Prop where
  run : ∃ m, Run system (.ofSettings 0 settings) h m
  told : system.Told (Http.through (Http.network system server)) h
  begun : h.begun = [(.call shutdownCall, .shutdown), (.call commandCall, command.task)]
  exchanges : (execute settings server command).outside.exchanges = Http.exchanged system server h
  outcome : (command.task, result) ∈ h.outcomes
  stopped : (.shutdown, .stopped) ∈ h.outcomes

/-- **The execution of a command takes a run**, if both calls have been completed. -/
theorem executed_of_results {settings : Settings} {server : Http.Server} {command : Command}
    {result : Result}
    (hcommand : (execute settings server command).results.find? commandCall = some result)
    (hshutdown : (execute settings server command).results.find? shutdownCall = some .stopped) :
    ∃ h, Executed settings server command result h := by
  have htasked : Tasked system (.ofSettings 0 settings) := tasked_new _ _ _
  have hnew := Follows.new system (.ofSettings 0 settings) server
  obtain ⟨h₁, hbegun₁, hf₁⟩ := follows_call hnew htasked commandCall command.task
  obtain ⟨h₂, hbegun₂, hf₂⟩ := follows_call hf₁ htasked shutdownCall .shutdown
  have hf : Follows system (.ofSettings 0 settings) server (execute settings server command) h₂ := hf₂
  obtain ⟨task, hmem, houtcome⟩ := hf.results commandCall result hcommand
  obtain ⟨task', hmem', houtcome'⟩ := hf.results shutdownCall .stopped hshutdown
  -- both calls have begun, since both have been completed
  have hbegun : h₂.begun = [(.call shutdownCall, .shutdown), (.call commandCall, command.task)] := by
    rcases hbegun₂ with hsame | hshut
    · rw [hsame] at hmem'
      rcases hbegun₁ with hnone | hcalled
      · rw [hnone] at hmem'
        cases hmem'
      · rw [hcalled] at hmem'
        simp [History.begun, commandCall, shutdownCall] at hmem'
    · rw [hshut] at hmem ⊢
      rcases hbegun₁ with hnone | hcalled
      · rw [hnone] at hmem
        simp [History.begun, commandCall, shutdownCall] at hmem
      · rw [hcalled]
        rfl
  have htask : task = command.task := by
    rw [hbegun] at hmem
    simpa [commandCall, shutdownCall] using hmem
  have htask' : task' = .shutdown := by
    rw [hbegun] at hmem'
    simpa [commandCall, shutdownCall] using hmem'
  subst htask htask'
  exact ⟨h₂, ⟨_, hf.run⟩, hf.told, hbegun, hf.exchanges, houtcome, houtcome'⟩

/-- A program that ends with status 0 has loaded its settings and executed its command. -/
theorem exists_executed_of_status {w : World} {words : List String} {invocation : Invocation}
    (hparse : parse w.machine.vars words = .ok invocation) (hstatus : (run w words).status = 0) :
    ∃ settings result h, Settings.load w.machine invocation.options = .ok settings ∧
      Executed settings w.server invocation.command result h ∧ (endingOf result).status = 0 := by
  unfold run at hstatus
  rw [hparse] at hstatus
  dsimp only at hstatus
  split at hstatus
  · cases hstatus
  · next settings hload =>
    unfold runWith at hstatus
    split at hstatus
    · cases hstatus
    · split at hstatus
      · cases hstatus
      · dsimp only at hstatus
        split at hstatus
        · next result hcommand hshutdown =>
          obtain ⟨h, hexecuted⟩ := executed_of_results hcommand hshutdown
          exact ⟨settings, result, h, hload, hexecuted, hstatus⟩
        · cases hstatus

/-! ## Success -/

/-- What a task asks to authorize. -/
def authorization? : Task → Option (String × AuthRequest)
  | .authorize d request => some (d, request)
  | _ => none

/-- The authorizations that were asked for are among the tasks that were given. -/
theorem requested_eq_filterMap_begun (h : Past) :
    requested h = h.begun.filterMap fun e => authorization? e.2 := by
  induction h with
  | nil => rfl
  | cons moment h ih =>
      cases moment with
      | stepped m now actor input p => exact ih
      | began actor task =>
          cases task with
          | authorize d request => exact congrArg (List.cons (d, request)) ih
          | fetch location request => exact ih
          | shutdown => exact ih

/-- An authorization that ends with status 0 has come back authorized. -/
theorem isAuthorized_of_status {a : Authorization}
    (hstatus : (endingOf (.answered a.result)).status = 0) : a.isAuthorized = true := by
  unfold Authorization.isAuthorized
  cases hresult : a.result with
  | error e =>
      rw [hresult] at hstatus
      cases hstatus
  | ok response =>
      rw [hresult] at hstatus
      cases hauthorized : response.authorized with
      | true => exact hauthorized
      | false =>
          unfold endingOf at hstatus
          dsimp only at hstatus
          rw [hauthorized] at hstatus
          cases hstatus

/-- The usage of an order is booked where its execution ends with status 0. -/
theorem booked_of_executed {settings : Settings} {server : Http.Server} {order : AuthOrder}
    {result : Result} {h : Past} (hexecuted : Executed settings server (.authRep order) result h)
    (hstatus : (endingOf result).status = 0) (hsome : order.metrics ≠ []) :
    Booked settings.backend.dispatch (execute settings server (.authRep order)).outside.exchanges
      order.destination order.wire order.batch := by
  obtain ⟨m, hrun⟩ := hexecuted.run
  obtain ⟨metric, hmetric⟩ := exists_contains_total hsome
  have hone : requested h = [(order.destination, order.toRequest)] := by
    rw [requested_eq_filterMap_begun, hexecuted.begun]
    rfl
  have ht : order.wire.transactions = [order.transaction] := rfl
  obtain ⟨a, ha, rfl⟩ := exists_authorization_of_outcome hrun hexecuted.outcome
  rw [hexecuted.exchanges, ← order.batch_eq]
  exact booked_of_run hrun hexecuted.told hone order.toWire_toRequest ht
    order.sendableExtensions_wire hmetric ha (isAuthorized_of_status hstatus) hexecuted.stopped

/-- The backend has accepted the usage of an order, with a check that charges for it or with a report of it. -/
def Accepted (exchanges : List Http.Exchange) (order : AuthOrder) : Prop :=
  ∃ outcome, outcome.succeeds = true ∧
    (Http.Exchanged exchanges (.authrep order.destination order.wire) outcome ∨
      Http.Exchanged exchanges (.report order.destination order.batch) outcome)

/-- What exit status 0 stands for. -/
structure Confirmed (settings : Settings) (exchanges : List Http.Exchange) (order : AuthOrder) :
    Prop where
  /-- The usage of the order has been charged for or reported, and nothing else has been reported. -/
  booked : Booked settings.backend.dispatch exchanges order.destination order.wire order.batch
  /-- Without buffered backends it has been accepted. -/
  accepted : settings.backend.dispatch.buffered = false → Accepted exchanges order

/-- **Exit status 0 of an authorization** tells that its usage has been charged for or reported. -/
theorem confirmed_of_success {w : World} {words : List String} {options : Settings.Options}
    {order : AuthOrder} (hparse : parse w.machine.vars words = .ok ⟨options, .authRep order⟩)
    (hstatus : (run w words).status = 0) :
    ∃ settings, Settings.load w.machine options = .ok settings ∧
      Confirmed settings (execute settings w.server (.authRep order)).outside.exchanges order := by
  obtain ⟨settings, result, h, hload, hexecuted, hresult⟩ := exists_executed_of_status hparse hstatus
  have hbooked := booked_of_executed hexecuted hresult (metrics_ne_nil_of_parse hparse)
  refine ⟨settings, hload, hbooked, fun hdirect => ?_⟩
  cases hbooked.usage with
  | charged exchanged success => exact ⟨_, success, .inl exchanged⟩
  | reported buffered =>
      rw [hdirect] at buffered
      cases buffered

/-! ## Usage that is lost -/

/-- One hit is ordered. -/
def oneHit : AuthOrder := ⟨"http://a", "s", some "t", none, default, [("hits", 1)]⟩

/-- The words of the order. -/
def oneHitWords : List String :=
  ["auth-rep", "--destination", "http://a", "--service", "s", "--service-token", "t"]

/-- On this machine backends are buffered, and the policy is the closed one. The backend authorizes everything, and accepts
no report. -/
def lossyWorld : World where
  machine := ⟨⟨[], []⟩, [("AUTHORIZER_BACKEND__ENABLE_CACHING", "true")]⟩
  server := fun _ request =>
    match request.method with
    | .get => .answered ⟨200, [], none⟩
    | .post => .answered ⟨500, [], none⟩
  takenPorts := []

/-- The settings of this machine. -/
def lossySettings : Settings := { backend := { buffered := true } }

theorem parse_oneHitWords : parse lossyWorld.machine.vars oneHitWords =
    .ok ⟨⟨none, "production", none, false⟩, .authRep oneHit⟩ :=
  eq_ok_of_toOption (by decide +kernel)

theorem confirmed_lossyWorld :
    parse lossyWorld.machine.vars oneHitWords =
        .ok ⟨⟨none, "production", none, false⟩, .authRep oneHit⟩ ∧
      (run lossyWorld oneHitWords).status = 0 ∧
      ∃ settings, Settings.load lossyWorld.machine ⟨none, "production", none, false⟩ = .ok settings ∧
        Confirmed settings (execute settings lossyWorld.server (.authRep oneHit)).outside.exchanges
          oneHit := by
  have hstatus : (run lossyWorld oneHitWords).status = 0 := by decide +kernel
  exact ⟨parse_oneHitWords, hstatus, confirmed_of_success parse_oneHitWords hstatus⟩

/-- The last part of the path that a call goes to. -/
def lastPart? (call : RemoteCall) : Option (List Char) :=
  (Http.messageOf call).toOption.bind fun message => message.url.path.getLast?

/-- The usage of an order has not been accepted where all successes are those of other paths. -/
theorem not_accepted_of_paths {exchanges : List Http.Exchange} {order : AuthOrder}
    (hpaths : ∀ e ∈ exchanges, e.outcome.succeeds = true →
      e.request.url.path.getLast? ≠ lastPart? (.authrep order.destination order.wire) ∧
        e.request.url.path.getLast? ≠ lastPart? (.report order.destination order.batch)) :
    ¬ Accepted exchanges order := by
  have hlast : ∀ {call : RemoteCall} {message : Http.Request}, Http.messageOf call = .ok message →
      lastPart? call = message.url.path.getLast? := by
    intro call message hmessage
    unfold lastPart?
    rw [hmessage]
    rfl
  rintro ⟨outcome, hsucceeds, ⟨message, hmessage, hmem⟩ | ⟨message, hmessage, hmem⟩⟩
  · exact (hpaths _ hmem hsucceeds).1 (hlast hmessage).symm
  · exact (hpaths _ hmem hsucceeds).2 (hlast hmessage).symm

/-- **Success does not tell that the usage has been accepted**: with the lossy backend, the check of limits succeeds and the
report fails, and the program ends with status 0. -/
theorem lost_lossyWorld :
    parse lossyWorld.machine.vars oneHitWords =
        .ok ⟨⟨none, "production", none, false⟩, .authRep oneHit⟩ ∧
      Settings.load lossyWorld.machine ⟨none, "production", none, false⟩ = .ok lossySettings ∧
      (run lossyWorld oneHitWords).status = 0 ∧
      (execute lossySettings lossyWorld.server (.authRep oneHit)).outside.exchanges.map
          (fun e => (e.request.url.path.getLast?, e.outcome.succeeds)) =
        [(some "authorize.xml".toList, true), (some "transactions.xml".toList, false)] ∧
      ¬ Accepted (execute lossySettings lossyWorld.server (.authRep oneHit)).outside.exchanges oneHit :=
  ⟨parse_oneHitWords, eq_ok_of_toOption (by decide +kernel), by decide +kernel, by decide +kernel,
    not_accepted_of_paths (by decide +kernel)⟩

end CommandLine

end GatewayAuth
