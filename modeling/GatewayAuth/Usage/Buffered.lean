import GatewayAuth.Policy
import GatewayAuth.Remote
import GatewayAuth.Usage.Buffer

/-!
# `GatewayAuth.Usage.Buffered` — a backend that is asked per request and reported to in batches

Any number of calls work on one buffered backend at the same time. The buffer is locked for one operation at
a time only, so between the answer of the backend and the recording of usage, and between any two reports of
a flush, every other call may take steps.

## Contents
- `BufferedJob`: the phases of an authorization and of a flush; `BufferedBackend`: policy, buffer and jobs.
- `begin?`, `step`: how a job starts, and one step of it.
- `Event`: what the steps of a run record, report and flush.
-/

namespace GatewayAuth

/-- Where a call on a buffered backend stands. -/
inductive BufferedJob where
  /-- The backend has been asked. -/
  | authorizing (request : Wire.Request)
  /-- The request is authorized, its usage not yet in the buffer. -/
  | recording (request : Wire.Request) (response : Wire.Response)
  /-- A flush that is about to empty the buffer. -/
  | draining
  /-- A batch is being reported; more are to follow. -/
  | reporting (batch : Wire.Batch) (rest : List Wire.Batch) (summary : FlushSummary)
  /-- A batch was refused and is about to go back into the buffer. -/
  | requeueing (batch : Wire.Batch) (rest : List Wire.Batch) (summary : FlushSummary)
  deriving DecidableEq, Repr

/-- The batches that a job has taken out of the buffer and not yet got accepted or put back. -/
def BufferedJob.inFlight : BufferedJob → List Wire.Batch
  | .reporting batch rest _ => batch :: rest
  | .requeueing batch rest _ => batch :: rest
  | _ => []

/-- A backend with a buffer in front of it. -/
structure BufferedBackend where
  destination : String
  policy : FailurePolicy
  buffer : UsageBuffer
  jobs : Table Actor BufferedJob
  deriving DecidableEq, Repr

namespace BufferedBackend

/-- What a call asks for. -/
inductive Task where
  | authorize (request : Wire.Request)
  | flush
  deriving DecidableEq, Repr

/-- What a call comes to. -/
inductive Result where
  | response (answer : Except BackendError Wire.Response)
  | flushed (summary : FlushSummary)

/-- What can be seen of a step. -/
inductive Event where
  /-- The usage of a request went into the buffer. -/
  | recorded (request : Wire.Request)
  /-- The backend accepted a batch. -/
  | accepted (batch : Wire.Batch)
  /-- A flush came to its end, with so many keys pending after it. -/
  | flushed (summary : FlushSummary) (pending : Nat)
  deriving DecidableEq, Repr

/-- A backend without usage and without calls. -/
def new (destination : String) (policy : FailurePolicy) : BufferedBackend :=
  ⟨destination, policy, .empty, .empty⟩

/-- Let an actor start a task; `none` if it has one already. -/
def begin? (b : BufferedBackend) (actor : Actor) (task : Task) : Option BufferedBackend :=
  if b.jobs.contains actor then none
  else
    let job := match task with
      | .authorize request => BufferedJob.authorizing request
      | .flush => .draining
    some { b with jobs := b.jobs.insert actor job }

/-- The same backend with an actor's job at another phase. -/
def resume (b : BufferedBackend) (actor : Actor) (job : BufferedJob) : BufferedBackend :=
  { b with jobs := b.jobs.insert actor job }

/-- The same backend without an actor's job. -/
def release (b : BufferedBackend) (actor : Actor) : BufferedBackend :=
  { b with jobs := b.jobs.erase actor }

/-- What a flush does after a batch has been dealt with. -/
def next (b : BufferedBackend) (actor : Actor) (summary : FlushSummary) :
    List Wire.Batch → Progress BufferedBackend Result Event
  | [] => ⟨b.release actor, some (.flushed summary), [.flushed summary b.buffer.size]⟩
  | batch :: rest => .quiet (b.resume actor (.reporting batch rest summary))

/-- The response that the open policy gives in place of the backend's. -/
def openResponse (e : BackendError) : Wire.Response := ⟨true, none, none, e.raw?⟩

/-- One step of an actor's job; `none` if the input is not what it waits for. -/
def step (b : BufferedBackend) (actor : Actor) (input : Input) :
    Option (Progress BufferedBackend Result Event) :=
  match b.jobs.find? actor, input with
  | some (.authorizing request), .answered (.ok response) =>
    if response.authorized then some (.quiet (b.resume actor (.recording request response)))
    else some (.done (b.release actor) (.response (.ok response)))
  | some (.authorizing request), .answered (.error e) =>
    if b.policy.allows e then
      some (.quiet (b.resume actor (.recording request (openResponse e))))
    else some (.done (b.release actor) (.response (.error e)))
  | some (.recording request response), .turn =>
    let b := { b with buffer := b.buffer.record request }
    some ⟨b.release actor, some (.response (.ok response)), [.recorded request]⟩
  | some .draining, .turn =>
    let (batches, buffer) := b.buffer.drain
    some (({ b with buffer } : BufferedBackend).next actor .zero batches)
  | some (.reporting batch rest summary), .reported (.ok ()) =>
    let p := b.next actor { summary with reported := summary.reported + 1 } rest
    some { p with events := .accepted batch :: p.events }
  | some (.reporting batch rest summary), .reported (.error _) =>
    some (.quiet (b.resume actor (.requeueing batch rest summary)))
  | some (.requeueing batch rest summary), .turn =>
    let b := { b with buffer := b.buffer.merge batch }
    some (b.next actor { summary with requeued := summary.requeued + 1 } rest)
  | _, _ => none

/-- What an actor's job waits for. -/
def want (b : BufferedBackend) (actor : Actor) : Want :=
  match b.jobs.find? actor with
  | some (.authorizing request) => .reply (.authorize b.destination request)
  | some (.reporting batch _ _) => .reply (.report b.destination batch)
  | some (.recording _ _) => .turn
  | some .draining => .turn
  | some (.requeueing _ _ _) => .turn
  | none => .nothing

end BufferedBackend

end GatewayAuth
