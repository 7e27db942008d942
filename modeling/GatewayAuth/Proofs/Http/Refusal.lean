import GatewayAuth.Proofs.Except
import GatewayAuth.Proofs.Http.Answers
import GatewayAuth.Proofs.Registry.Made
import GatewayAuth.Proofs.Usage.Conservation
import GatewayAuth.Proofs.Usage.Whereabouts

/-!
# `GatewayAuth.Proofs.Http.Refusal` — checks of limits that are not sent

Nothing is sent for a check of limits without transactions, and nothing for one whose extensions hold a control
character. The first fails as a request that could not be expressed. That is no outage, so no policy lets it through and
no usage is recorded. The second fails as one that gets no response does, and the open policy takes it for an outage.

## Contents
- `sendableExtensions`, `Query`, `query_of_perform`: the ways in which a check of limits can go.
- `Recordable`, `recordable_of_run`: the requests whose usage a buffered backend over HTTP records.
- `Refuses`, `refuses_of_run`: what becomes of the requests that are not sent.
- `unsendable_let_through`: a request that is let through, and its usage recorded, though nothing was sent.
-/

namespace GatewayAuth

namespace Http

/-! ## How a check of limits can go -/

/-- The call that makes a check of limits. -/
def QueryKind.call (d : String) (request : Wire.Request) : QueryKind → RemoteCall
  | authorize => .authorize d request
  | authrep => .authrep d request

/-- Whether the extensions of a request can stand in a header field. -/
def sendableExtensions (request : Wire.Request) : Bool :=
  (Wire.extensionsHeader request.extensions).all fun text => text.toList.all isFieldChar

/-- How a check of limits can go: it has no transactions, it is not sent for its extensions, or it goes out through the
connection, which answers or fails. -/
inductive Query (connection : Connection) (call : RemoteCall) (request : Wire.Request) :
    Performed → Prop where
  | empty (hnone : request.transactions = []) :
      Query connection call request
        ⟨.answered (.error (.invalidRequest "request carries no transactions")), [], []⟩
  | unsendable (hsome : request.transactions ≠ []) (hextensions : sendableExtensions request = false) :
      Query connection call request
        ⟨.answered (.error (.transport "builder error: failed to parse header value")), [], []⟩
  | sent {message : Request} (hsome : request.transactions ≠ [])
      (hextensions : sendableExtensions request = true) (hmessage : messageOf call = .ok message) :
      Query connection call request
        ⟨.answered (answerOf (connection message)), [⟨message, connection message⟩],
          observationsOf call (connection message)⟩

/-- The extensions decide whether a check of limits can be sent. -/
theorem isSendable_of_query? {client : BackendClient} {kind : QueryKind} {request : Wire.Request}
    {message : Request} (h : client.query? kind request = .ok message) :
    request.transactions ≠ [] ∧ message.isSendable = sendableExtensions request := by
  unfold BackendClient.query? at h
  split at h
  · cases h
  · next hsome =>
    cases h
    refine ⟨fun hnone => ?_, ?_⟩
    · rw [hsome] at hnone
      cases hnone
    · unfold Request.isSendable sendableExtensions
      cases Wire.extensionsHeader request.extensions with
      | none => rfl
      | some text => exact Bool.and_true _

variable {d : String} {request : Wire.Request}

/-- **A check of limits goes in one of these ways.** -/
theorem query_of_perform (hbuilt : build (.direct d) = .ok ()) (connection : Connection)
    (kind : QueryKind) (request : Wire.Request) :
    Query connection (kind.call d request) request (perform connection (kind.call d request)) := by
  cases hclient : BackendClient.ofDestination d with
  | error e =>
      unfold build at hbuilt
      dsimp only at hbuilt
      rw [hclient] at hbuilt
      cases hbuilt
  | ok client =>
      have hmessage : messageOf (kind.call d request) =
          (client.query? kind request).mapError fun e => .answered (.error e) := by
        cases kind <;> exact (by simp only [QueryKind.call, messageOf, queryAt, hclient])
      have hinput : ∀ outcome, inputOf (kind.call d request) outcome = .answered (answerOf outcome) := by
        cases kind <;> exact fun _ => rfl
      unfold perform
      cases hquery : client.query? kind request with
      | error e =>
          rw [hmessage, hquery]
          unfold BackendClient.query? at hquery
          split at hquery
          · next hnone =>
            cases hquery
            exact .empty hnone
          · cases hquery
      | ok message =>
          obtain ⟨hsome, hsendable⟩ := isSendable_of_query? hquery
          have hmessage : messageOf (kind.call d request) = .ok message := by rw [hmessage, hquery]; rfl
          rw [hmessage]
          dsimp only
          rw [hinput]
          unfold send
          cases hextensions : sendableExtensions request with
          | false =>
              rw [hsendable, hextensions]
              have hnone : observationsOf (kind.call d request)
                  (.failed "builder error: failed to parse header value") = [] := by
                cases kind <;> rfl
              show Query _ _ _ ⟨_, [], observationsOf (kind.call d request) (.failed _)⟩
              rw [hnone]
              exact .unsendable hsome hextensions
          | true =>
              rw [hsendable, hextensions]
              exact .sent hsome hextensions hmessage

/-- Nothing is sent for a request without transactions. -/
theorem perform_of_empty (hbuilt : build (.direct d) = .ok ()) (connection : Connection)
    (kind : QueryKind) (hnone : request.transactions = []) :
    perform connection (kind.call d request) =
      ⟨.answered (.error (.invalidRequest "request carries no transactions")), [], []⟩ := by
  have hquery := query_of_perform hbuilt connection kind request
  generalize perform connection (kind.call d request) = performed at hquery
  cases hquery with
  | empty _ => rfl
  | unsendable hsome _ => exact absurd hnone hsome
  | sent hsome _ _ => exact absurd hnone hsome

/-- Nothing is sent for a request with a control character in its extensions. -/
theorem perform_of_unsendable (hbuilt : build (.direct d) = .ok ()) (connection : Connection)
    (kind : QueryKind) (hsome : request.transactions ≠ [])
    (hextensions : sendableExtensions request = false) :
    perform connection (kind.call d request) =
      ⟨.answered (.error (.transport "builder error: failed to parse header value")), [], []⟩ := by
  have hquery := query_of_perform hbuilt connection kind request
  generalize perform connection (kind.call d request) = performed at hquery
  cases hquery with
  | empty hnone => exact absurd hnone hsome
  | unsendable _ _ => rfl
  | sent _ hsendable _ =>
      rw [hextensions] at hsendable
      cases hsendable

/-- Any other request goes out through the connection. -/
theorem exists_of_sendable (hbuilt : build (.direct d) = .ok ()) (connection : Connection)
    (kind : QueryKind) (hsome : request.transactions ≠ [])
    (hextensions : sendableExtensions request = true) :
    ∃ message, messageOf (kind.call d request) = .ok message ∧
      perform connection (kind.call d request) = ⟨.answered (answerOf (connection message)),
        [⟨message, connection message⟩],
        observationsOf (kind.call d request) (connection message)⟩ := by
  have hquery := query_of_perform hbuilt connection kind request
  generalize perform connection (kind.call d request) = performed at hquery
  cases hquery with
  | empty hnone => exact absurd hnone hsome
  | unsendable _ hnot =>
      rw [hextensions] at hnot
      cases hnot
  | @sent message _ _ hmessage => exact ⟨message, hmessage, rfl⟩

/-- Only a request that gets no response fails as one of the transport. -/
theorem answerOf_eq_transport_iff {outcome : Outcome} {text : String} :
    answerOf outcome = .error (.transport text) ↔ outcome = .failed text := by
  constructor
  · intro h
    cases outcome with
    | failed text' => cases h; rfl
    | answered response => cases eq_unexpectedStatus h
  · rintro rfl
    rfl

/-- No response means that the request could not be expressed. -/
theorem answerOf_ne_invalidRequest {outcome : Outcome} {text : String} :
    answerOf outcome ≠ .error (.invalidRequest text) := by
  intro h
  cases outcome with
  | failed text' => cases h
  | answered response => cases eq_unexpectedStatus h

end Http

namespace BufferedBackend

open Http (sendableExtensions)

/-! ## Usage that is recorded over HTTP -/

/-- A request whose usage can come to be recorded: it has transactions, and either its check of limits has been sent or
the open policy has taken its failure for an outage. -/
structure Recordable (policy : FailurePolicy) (request : Wire.Request) : Prop where
  transactions : request.transactions ≠ []
  sent : sendableExtensions request = true ∨ policy = .opened

/-- What is recorded, and what is about to be, is recordable. -/
structure OnlyRecordable (d : String) (policy : FailurePolicy) (h : Past) (b : BufferedBackend) :
    Prop where
  destination : b.destination = d
  alike : b.policy = policy
  jobs : ∀ actor request response, b.jobs.find? actor = some (.recording request response) →
    Recordable policy request
  events : ∀ request, Event.recorded request ∈ h.events → Recordable policy request

variable {network : Past → Http.Connection} {d : String} {policy : FailurePolicy} {h : Past}
  {b : BufferedBackend} {now : Nat} {actor : Actor} {input : Input}
  {p : Progress BufferedBackend Result Event}

theorem want_of_authorizing {request : Wire.Request}
    (hjob : b.jobs.find? actor = some (.authorizing request)) :
    b.want actor = .reply (.authorize b.destination request) := by
  unfold want
  rw [hjob]

/-- A request that a policy or an answer lets through is recordable. -/
theorem recordable_of_told (hbuilt : Http.build (.direct d) = .ok ())
    {connection : Http.Connection} {request : Wire.Request}
    {told : Except BackendError Wire.Response}
    (htold : .answered told = (Http.perform connection (.authorize d request)).input)
    (hlet : (∃ response, told = .ok response) ∨
      ∃ e, told = .error e ∧ policy.allows e = true) : Recordable policy request := by
  have hquery := Http.query_of_perform hbuilt connection .authorize request
  generalize hp : Http.perform connection (Http.QueryKind.authorize.call d request) = performed at hquery
  rw [show Http.perform connection (.authorize d request) = performed from hp] at htold
  cases hquery with
  | empty hnone =>
      cases htold
      obtain ⟨response, heq⟩ | ⟨e, heq, hallows⟩ := hlet
      · cases heq
      · cases heq
        cases (FailurePolicy.allows_eq_true_iff.1 hallows).2
  | unsendable hsome hextensions =>
      cases htold
      obtain ⟨response, heq⟩ | ⟨e, heq, hallows⟩ := hlet
      · cases heq
      · exact ⟨hsome, .inr (FailurePolicy.allows_eq_true_iff.1 hallows).1⟩
  | sent hsome hextensions => exact ⟨hsome, .inl hextensions⟩

/-- **What is recordable stays so**, and nothing else comes to be recorded. -/
theorem OnlyRecordable.stepped (ho : OnlyRecordable d policy h b)
    (hbuilt : Http.build (.direct d) = .ok ())
    (hrule : Http.through network h actor (b.want actor) input) (step : Stepped b actor input p) :
    OnlyRecordable d policy (.stepped b now actor input p :: h) p.state := by
  constructor
  case destination => rw [step.destination, ho.destination]
  case alike => rw [step.policy, ho.alike]
  case jobs =>
    intro other request response hjob
    by_cases hne : other = actor
    · subst hne
      -- it has just been told what lets it through
      have hlet : ∀ {request : Wire.Request} {told : Except BackendError Wire.Response},
          b.jobs.find? other = some (.authorizing request) → input = .answered told →
          ((∃ response, told = .ok response) ∨ ∃ e, told = .error e ∧ policy.allows e = true) →
          Recordable policy request := by
        intro request told hauthorizing hinput hlet
        have htold := hrule.2 _ (want_of_authorizing hauthorizing)
        rw [hinput, ho.destination] at htold
        exact recordable_of_told hbuilt htold hlet
      cases step with
      | denied | failed | recorded =>
          have hjob : (b.jobs.erase other).find? other = some (.recording request response) := hjob
          rw [Table.find?_erase_self] at hjob
          cases hjob
      | granted job yes =>
          have hjob : (Table.insert b.jobs other _).find? other = some (.recording request response) :=
            hjob
          rw [Table.find?_insert_self] at hjob
          cases hjob
          exact hlet job rfl (.inl ⟨_, rfl⟩)
      | overridden job yes =>
          have hjob : (Table.insert b.jobs other _).find? other = some (.recording request response) :=
            hjob
          rw [Table.find?_insert_self] at hjob
          cases hjob
          exact hlet job rfl (.inr ⟨_, rfl, ho.alike ▸ yes⟩)
      | refused job =>
          have hjob : (Table.insert b.jobs other _).find? other = some (.recording request response) :=
            hjob
          rw [Table.find?_insert_self] at hjob
          cases hjob
      | drained job =>
          rw [find?_next] at hjob
          split at hjob <;> cases hjob
      | @accepted batch rest summary job | @requeued batch rest summary job =>
          rw [find?_next] at hjob
          cases rest <;> cases hjob
    · rw [step.others hne] at hjob
      exact ho.jobs other request response hjob
  case events =>
    intro request hmem
    rw [History.events_stepped] at hmem
    rcases List.mem_append.1 hmem with hnew | hold
    · obtain ⟨⟨response, hjob⟩, -⟩ := step.recording_of_recorded hnew
      exact ho.jobs actor request response hjob
    · exact ho.events request hold

/-- **A buffered backend over HTTP records the usage of recordable requests only.** -/
theorem onlyRecordable_of_run (hbuilt : Http.build (.direct d) = .ok ())
    (run : Run system (.new d policy) h b) (http : system.Told (Http.through network) h) :
    OnlyRecordable d policy h b := by
  induction run with
  | start => exact ⟨rfl, rfl, fun _ _ _ hjob => (by cases hjob), fun _ hmem => (by cases hmem)⟩
  | @begins h b b' actor task run hbegin ih =>
      obtain ⟨-, rfl⟩ := eq_resume_of_begin? hbegin
      have ho := ih http.of_began
      refine ⟨ho.destination, ho.alike, fun other request response hjob => ?_, ho.events⟩
      rw [jobs_resume, Table.find?_insert] at hjob
      split at hjob
      · cases task <;> cases hjob
      · exact ho.jobs other request response hjob
  | steps run hstep ih =>
      obtain ⟨hrule, earlier⟩ := http.of_stepped
      exact (ih earlier).stepped hbuilt hrule (stepped_of_step hstep)

/-! ## What becomes of the requests that are not sent -/

/-- What becomes of requests at the client of a buffered backend over HTTP, and at the backend. -/
structure Refuses (network : Past → Http.Connection) (d : String) (policy : FailurePolicy)
    (h : Past) (b : BufferedBackend) : Prop where
  /-- Nothing is sent for a request without transactions. It fails as one that could not be expressed. -/
  empty : ∀ (connection : Http.Connection) (kind : Http.QueryKind) (request : Wire.Request),
    request.transactions = [] → Http.perform connection (kind.call d request) =
      ⟨.answered (.error (.invalidRequest "request carries no transactions")), [], []⟩
  /-- Nothing is sent for a request the extensions of which hold a control character. It fails as one of the transport. -/
  unsendable : ∀ (connection : Http.Connection) (kind : Http.QueryKind) (request : Wire.Request),
    request.transactions ≠ [] → sendableExtensions request = false →
    Http.perform connection (kind.call d request) =
      ⟨.answered (.error (.transport "builder error: failed to parse header value")), [], []⟩
  /-- Any other request goes out through the connection. It fails as one of the transport if no response comes back, and
  never as one that could not be expressed. -/
  sent : ∀ (connection : Http.Connection) (kind : Http.QueryKind) (request : Wire.Request),
    request.transactions ≠ [] → sendableExtensions request = true →
    ∃ message told, Http.messageOf (kind.call d request) = .ok message ∧
      Http.perform connection (kind.call d request) = ⟨.answered told,
        [⟨message, connection message⟩],
        Http.observationsOf (kind.call d request) (connection message)⟩ ∧
      ∀ text, (told = .error (.transport text) ↔ connection message = .failed text) ∧
        told ≠ .error (.invalidRequest text)
  /-- What could not be expressed is no outage: it is denied whatever the policy, and nothing is recorded. -/
  denied : ∀ now actor request, b.jobs.find? actor = some (.authorizing request) →
    request.transactions = [] → ∃ e, e.isUnavailable = false ∧
      (Http.perform (network h) (.authorize d request)).input = .answered (.error e) ∧
      system.step b now actor (.answered (.error e)) =
        some (.done (b.release actor) (.response (.error e)))
  /-- What was not sent for its extensions is taken for an outage: the open policy lets it through, and its usage is
  recorded next. -/
  letThrough : policy = .opened → ∀ now actor request,
    b.jobs.find? actor = some (.authorizing request) → request.transactions ≠ [] →
    sendableExtensions request = false → ∃ e b', e.isUnavailable = true ∧
      (Http.perform (network h) (.authorize d request)).input = .answered (.error e) ∧
      system.step b now actor (.answered (.error e)) = some (.quiet b') ∧
      (system.step b' now actor .turn).map (fun p => (p.state.buffer, p.result?, p.events)) =
        some (b.buffer.record request, some (.response (.ok (openResponse e))), [.recorded request])
  /-- The usage of a request is recorded only if it has transactions, and if either it was sent or the policy is open. -/
  recorded : ∀ request, Event.recorded request ∈ h.events → Recordable policy request

theorem step_of_not_allowed {request : Wire.Request} {e : BackendError}
    (hjob : b.jobs.find? actor = some (.authorizing request)) (no : b.policy.allows e = false) :
    b.step actor (.answered (.error e)) = some (.done (b.release actor) (.response (.error e))) := by
  simp only [step, hjob, no, Bool.false_eq_true, if_false]

theorem step_of_allowed {request : Wire.Request} {e : BackendError}
    (hjob : b.jobs.find? actor = some (.authorizing request)) (yes : b.policy.allows e = true) :
    b.step actor (.answered (.error e)) =
      some (.quiet (b.resume actor (.recording request (openResponse e)))) := by
  simp only [step, hjob, yes, if_true]

/-- **What becomes of the requests that are not sent**, in every run over HTTP. -/
theorem refuses_of_run (hbuilt : Http.build (.direct d) = .ok ())
    (run : Run system (.new d policy) h b) (http : system.Told (Http.through network) h) :
    Refuses network d policy h b := by
  have ho := onlyRecordable_of_run hbuilt run http
  constructor
  case empty => exact fun connection kind request => Http.perform_of_empty hbuilt connection kind
  case unsendable => exact fun connection kind request =>
    Http.perform_of_unsendable hbuilt connection kind
  case sent =>
    intro connection kind request hsome hextensions
    obtain ⟨message, hmessage, hperform⟩ :=
      Http.exists_of_sendable hbuilt connection kind hsome hextensions
    exact ⟨message, _, hmessage, hperform, fun text =>
      ⟨Http.answerOf_eq_transport_iff, Http.answerOf_ne_invalidRequest⟩⟩
  case denied =>
    intro now actor request hjob hnone
    have hperform := Http.perform_of_empty hbuilt (network h) .authorize hnone
    refine ⟨_, rfl, congrArg Http.Performed.input hperform, step_of_not_allowed hjob ?_⟩
    cases b.policy <;> rfl
  case letThrough =>
    intro hopened now actor request hjob hsome hextensions
    have hperform := Http.perform_of_unsendable hbuilt (network h) .authorize hsome hextensions
    have hallows : b.policy.allows (.transport "builder error: failed to parse header value") = true := by
      rw [ho.alike, hopened]
      rfl
    refine ⟨_, _, rfl, congrArg Http.Performed.input hperform, step_of_allowed hjob hallows, ?_⟩
    simp only [system, step, jobs_resume, Table.find?_insert_self]
    rfl
  case recorded => exact ho.events

/-! ## A request that is not sent -/

/-- One hit of a user, with a line break in the extensions. -/
def brokenRequest : Wire.Request :=
  ⟨⟨Credential.serviceToken, "t"⟩, "42", [⟨Table.empty.insert "hits" 1, ⟨"", "", "", "u"⟩⟩],
    Table.empty.insert "a" "x\ny"⟩

/-- All is well over this network. -/
def quietNetwork (_ : Past) : Http.Connection := fun _ => .answered ⟨200, [], none⟩

/-- A request without transactions and one that is not sent, one after the other; the second one is about to be
recorded. -/
def refusals : List (Actor × (Nat ⊕ Task)) :=
  [(.call 0, .inr (.authorize { brokenRequest with transactions := [] })), (.call 0, .inl 0),
    (.call 1, .inr (.authorize brokenRequest)), (.call 1, .inl 0)]

theorem build_quiet : Http.build (.direct "http://a") = .ok () := eq_ok_of_toOption (by decide +kernel)

theorem refuses_quietNetwork :
    let run := system.playIn (Http.tell quietNetwork) [] (.new "http://a" .opened) refusals
    Http.build (.direct "http://a") = .ok () ∧ run.1.length = 4 ∧
      run.2.jobs.keys = [.call 1] ∧ Refuses quietNetwork "http://a" .opened run.1 run.2 := by
  refine ⟨build_quiet, by decide +kernel, by decide +kernel, ?_⟩
  exact refuses_of_run build_quiet (System.run_playIn _ refusals .start)
    (System.told_playIn (Http.through_tell quietNetwork) refusals _ .nil)

/-- **A request that cannot be sent is let through by the open policy**, and its usage is recorded. -/
theorem unsendable_let_through :
    let performed := Http.perform (quietNetwork []) (.authorize "http://a" brokenRequest)
    let run := system.playIn (Http.tell quietNetwork) [] (.new "http://a" .opened)
      [(.call 0, .inr (.authorize brokenRequest)), (.call 0, .inl 0), (.call 0, .inl 0)]
    performed.exchanges = [] ∧
      performed.input = .answered (.error (.transport "builder error: failed to parse header value")) ∧
      run.1.events = [.recorded brokenRequest] ∧
      authorizedIn run.1.outcomes = [brokenRequest] := by
  have hsome : brokenRequest.transactions ≠ [] := nofun
  have hperform := Http.perform_of_unsendable build_quiet (quietNetwork []) .authorize hsome
    (by decide +kernel)
  exact ⟨congrArg Http.Performed.exchanges hperform, congrArg Http.Performed.input hperform,
    by decide +kernel, by decide +kernel⟩

end BufferedBackend

end GatewayAuth
