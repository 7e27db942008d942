import GatewayAuth.Usage.Buffered

/-!
# `GatewayAuth.Registry` — one buffered backend per destination, each with its flush loop

## Contents
- `Cell`, `FlushLoop`, `Slot`, `Registry`: which destinations have a backend, and where its loop stands.
- `RegistryJob`: the phases of acquiring a backend, of using one and of shutting the registry down.
- `Registry.begin?`, `Registry.step`: how a job starts, and one step of a job or of a flush loop.

A cell admits one builder at a time and stays vacant when building fails. The handles of the loops are taken
exactly once; from then on no backend is created.
-/

namespace GatewayAuth

/-- The place of a destination's backend. -/
inductive Cell where
  | vacant
  /-- An actor is building the backend. -/
  | claimed (owner : Actor)
  /-- The backend is in this slot. -/
  | filled (slot : Nat)
  deriving DecidableEq, Repr

/-- Whether a cell holds a backend. -/
def Cell.isFilled : Cell → Bool
  | .filled _ => true
  | _ => false

/-- Where a flush loop stands. -/
inductive FlushLoop where
  /-- Waiting for the next tick or for the signal to stop. -/
  | idle (due : Nat)
  /-- In a periodic flush; the next tick is due then. -/
  | flushing (due : Nat)
  /-- In the final flush. -/
  | draining
  | exited
  deriving DecidableEq, Repr

/-- A backend and its loop. -/
structure Slot where
  backend : BufferedBackend
  loop : FlushLoop
  deriving DecidableEq, Repr

/-- Where a call on the registry stands. -/
inductive RegistryJob where
  /-- About to look whether the registry is shut down. -/
  | checking (destination : String)
  /-- About to find or make the cell. -/
  | entering (destination : String)
  /-- At the cell. -/
  | waiting (destination : String)
  /-- The builder has been asked. -/
  | building (destination : String)
  /-- About to start the loop of the backend just built. -/
  | registering (destination : String)
  /-- At work on the backend of a slot. -/
  | using (slot : Nat)
  /-- A shutdown that is about to take the handles of the loops. -/
  | taking
  /-- A shutdown that is about to signal the loops. -/
  | signalling (handles : List Nat)
  /-- A shutdown that waits for the loops. -/
  | joining (handles : List Nat)
  deriving DecidableEq, Repr

/-- The buffered backends of a manager. -/
structure Registry where
  policy : FailurePolicy
  /-- Milliseconds between two ticks of a flush loop. -/
  flushEvery : Nat
  cells : Table String Cell
  slots : List Slot
  /-- The loops to wait for at shutdown; `none` once they have been taken. -/
  handles : Option (List Nat)
  /-- Whether the loops have been told to stop. -/
  stopping : Bool
  jobs : Table Actor RegistryJob
  deriving DecidableEq, Repr

namespace Registry

/-- What a call asks for. -/
inductive Task where
  | acquire (destination : String)
  | use (slot : Nat) (task : BufferedBackend.Task)
  | shutdown
  deriving DecidableEq, Repr

/-- What a call comes to. -/
inductive Result where
  | acquired (slot : Except AuthorizerError Nat)
  | used (result : BufferedBackend.Result)
  | stopped

/-- What can be seen of a step: what happens at the backend of a slot. -/
inductive Event where
  | atSlot (slot : Nat) (event : BufferedBackend.Event)
  deriving DecidableEq, Repr

/-- A registry without backends. -/
def new (policy : FailurePolicy) (flushEvery : Nat) : Registry :=
  ⟨policy, flushEvery, .empty, [], some [], false, .empty⟩

/-! ## Views -/

/-- Whether the handles of the loops have been taken. -/
def isShutDown (r : Registry) : Bool := r.handles.isNone

/-- The number of destinations with a backend. -/
def size (r : Registry) : Nat := (r.cells.values.filter Cell.isFilled).length

/-- The destination of the backend in a slot. -/
def destinationOf (r : Registry) (slot : Nat) : String :=
  match r.slots[slot]? with
  | some s => s.backend.destination
  | none => ""

/-- Why no backend can be had during a shutdown. -/
def shuttingDown (destination : String) : AuthorizerError :=
  .backendCreation destination "manager is shutting down"

/-- A failure to build, as a failure to create the backend of a destination. -/
def creationError (destination : String) : AuthorizerError → AuthorizerError
  | .backendCreation d reason => .backendCreation d reason
  | e => .backendCreation destination e.message

/-- When a loop ticks next, after a tick that was due at `due` and came at `now`: a late tick delays those
after it. -/
def nextTick (period due now : Nat) : Nat := if due + 5 < now then now + period else due + period

/-! ## Changes -/

/-- Replace the slot at an index. -/
def setSlot (r : Registry) (slot : Nat) (s : Slot) : Registry :=
  { r with slots := r.slots.set slot s }

/-- The same registry with an actor's job at another phase. -/
def resume (r : Registry) (actor : Actor) (job : RegistryJob) : Registry :=
  { r with jobs := r.jobs.insert actor job }

/-- The same registry without an actor's job. -/
def release (r : Registry) (actor : Actor) : Registry := { r with jobs := r.jobs.erase actor }

/-- The same registry with a cell changed. -/
def setCell (r : Registry) (destination : String) (cell : Cell) : Registry :=
  { r with cells := r.cells.insert destination cell }

/-- A new slot with a backend for a destination and its loop, whose first tick is one period away. -/
def openSlot (r : Registry) (now : Nat) (handles : List Nat) (destination : String) : Registry :=
  let slot := r.slots.length
  { r with
    slots := r.slots ++ [⟨.new destination r.policy, .idle (now + r.flushEvery)⟩]
    handles := some (handles ++ [slot])
    cells := r.cells.insert destination (.filled slot) }

/-- Whether the loop of a slot has exited. -/
def hasExited (r : Registry) (slot : Nat) : Bool :=
  match r.slots[slot]? with
  | some s => s.loop == .exited
  | none => true

/-! ## Steps -/

/-- Let an actor start a task; `none` if it has one already, or if the slot does not exist. -/
def begin? (r : Registry) (actor : Actor) (task : Task) : Option Registry :=
  if r.jobs.contains actor then none
  else
    match task with
    | .acquire destination => some (r.resume actor (.checking destination))
    | .shutdown => some (r.resume actor .taking)
    | .use slot task =>
      match r.slots[slot]? with
      | some s =>
        match s.backend.begin? actor task with
        | some backend => some ((r.setSlot slot { s with backend }).resume actor (.using slot))
        | none => none
      | none => none

/-- One step of an actor's job at the backend of a slot. -/
def stepSlot (r : Registry) (slot : Nat) (actor : Actor) (input : Input) :
    Option (Progress Registry BufferedBackend.Result Event) :=
  match r.slots[slot]? with
  | some s =>
    match s.backend.step actor input with
    | some p =>
      some ⟨r.setSlot slot { s with backend := p.state }, p.result?, p.events.map (.atSlot slot)⟩
    | none => none
  | none => none

/-- One step of a call. -/
def stepCall (r : Registry) (now : Nat) (actor : Actor) (input : Input) :
    Option (Progress Registry Result Event) :=
  match r.jobs.find? actor, input with
  | some (.checking destination), .turn =>
    match r.handles with
    | none => some (.done (r.release actor) (.acquired (.error (shuttingDown destination))))
    | some _ => some (.quiet (r.resume actor (.entering destination)))
  | some (.entering destination), .turn =>
    let r := if r.cells.contains destination then r else r.setCell destination .vacant
    some (.quiet (r.resume actor (.waiting destination)))
  | some (.waiting destination), .turn =>
    match r.cells.find? destination with
    | some (.filled slot) => some (.done (r.release actor) (.acquired (.ok slot)))
    | some .vacant =>
      some (.quiet ((r.setCell destination (.claimed actor)).resume actor (.building destination)))
    | _ => none
  | some (.building destination), .built (.ok ()) =>
    some (.quiet (r.resume actor (.registering destination)))
  | some (.building destination), .built (.error e) =>
    some (.done ((r.setCell destination .vacant).release actor)
      (.acquired (.error (creationError destination e))))
  | some (.registering destination), .turn =>
    match r.handles with
    | none =>
      some (.done ((r.setCell destination .vacant).release actor)
        (.acquired (.error (shuttingDown destination))))
    | some handles =>
      some (.done ((r.openSlot now handles destination).release actor)
        (.acquired (.ok r.slots.length)))
  | some (.using slot), _ =>
    match r.stepSlot slot actor input with
    | some ⟨r, some result, events⟩ => some ⟨r.release actor, some (.used result), events⟩
    | some ⟨r, none, events⟩ => some ⟨r, none, events⟩
    | none => none
  | some .taking, .turn =>
    match r.handles with
    | none => some (.done (r.release actor) .stopped)
    | some handles =>
      some (.quiet ({ r with handles := none }.resume actor (.signalling handles)))
  | some (.signalling handles), .turn =>
    some (.quiet ({ r with stopping := true }.resume actor (.joining handles)))
  | some (.joining handles), .turn =>
    if handles.all r.hasExited then some (.done (r.release actor) .stopped) else none
  | _, _ => none

/-- Start a flush by the loop of a slot, which goes on as `loop` after it. -/
def startFlush (r : Registry) (slot : Nat) (s : Slot) (loop : FlushLoop) : Option Registry :=
  match s.backend.begin? (.flushLoop slot) .flush with
  | some backend => some (r.setSlot slot ⟨backend, loop⟩)
  | none => none

/-- Where a loop stands after a flush. -/
def afterFlush : FlushLoop → FlushLoop
  | .flushing due => .idle due
  | .draining => .exited
  | loop => loop

/-- One step of the flush loop of a slot. With a tick overdue and the signal to stop given, either may come
first. -/
def stepLoop (r : Registry) (now : Nat) (slot : Nat) (input : Input) :
    Option (Progress Registry Result Event) :=
  match r.slots[slot]? with
  | none => none
  | some s =>
    match s.loop, input with
    | .idle due, .tick =>
      if due ≤ now then
        (r.startFlush slot s (.flushing (nextTick r.flushEvery due now))).map Progress.quiet
      else none
    | .idle _, .turn =>
      if r.stopping then (r.startFlush slot s .draining).map Progress.quiet else none
    | .idle _, _ => none
    | .exited, _ => none
    | loop, _ =>
      match r.stepSlot slot (.flushLoop slot) input with
      | some ⟨r, some _, events⟩ =>
        match r.slots[slot]? with
        | some s => some ⟨r.setSlot slot { s with loop := afterFlush loop }, none, events⟩
        | none => none
      | some ⟨r, none, events⟩ => some ⟨r, none, events⟩
      | none => none

/-- One step of an actor; `none` if the input is not what it waits for. -/
def step (r : Registry) (now : Nat) (actor : Actor) (input : Input) :
    Option (Progress Registry Result Event) :=
  match actor with
  | .flushLoop slot => r.stepLoop now slot input
  | _ => r.stepCall now actor input

/-- What an actor waits for. -/
def want (r : Registry) (actor : Actor) : Want :=
  match actor with
  | .flushLoop slot =>
    match r.slots[slot]? with
    | none => .nothing
    | some s =>
      match s.loop with
      | .idle due => if r.stopping then .turn else .tick due
      | .exited => .nothing
      | _ => s.backend.want actor
  | _ =>
    match r.jobs.find? actor with
    | none => .nothing
    | some (.waiting destination) =>
      match r.cells.find? destination with
      | some (.claimed _) => .nothing
      | _ => .turn
    | some (.building destination) => .client (.buffered destination)
    | some (.using slot) =>
      match r.slots[slot]? with
      | some s => s.backend.want actor
      | none => .nothing
    | some (.joining handles) => if handles.all r.hasExited then .turn else .nothing
    | some _ => .turn

/-- All actors with something to do, calls first. -/
def actors (r : Registry) : List Actor :=
  r.jobs.keys ++ (List.range r.slots.length).map Actor.flushLoop

end Registry

end GatewayAuth
