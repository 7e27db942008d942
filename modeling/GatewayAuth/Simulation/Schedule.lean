import GatewayAuth.Manager.Step

/-!
# `GatewayAuth.Simulation.Schedule` — running a state machine on a virtual clock

A schedule fixes one of the many interleavings of a machine's actors: at each instant every actor goes on
until it waits, in the order in which the machine lists them, and then the clock moves to the next instant at
which an actor waits for something.

## Contents
- `Machine`: the steps of a system of actors; `Outside`: what answers its remote calls.
- `Schedule`: the state of a run: clock, machine, outside, calls on their way, results, observations.
- `settle`, `wait`, `await`, `change`: the moves of a schedule.
-/

namespace GatewayAuth.Simulation

/-- A system of actors. -/
structure Machine (σ ω ε : Type) where
  actors : σ → List Actor
  want : σ → Actor → Want
  step : σ → Nat → Actor → Input → Option (Progress σ ω ε)

/-- What answers the remote calls of a system; a call on its way is described by a `τ`. -/
structure Outside (ρ τ : Type) where
  /-- Build a client. -/
  build : ρ → Client → Except AuthorizerError Unit × ρ
  /-- Begin a call: how many milliseconds it takes. -/
  start : ρ → RemoteCall → Nat × τ × ρ
  /-- End a call: what its actor is told. -/
  finish : ρ → RemoteCall → τ → Input × ρ

/-- A call on its way: when it ends, and what is known of it. Its actor waits for it until then, so that the call
itself is what the actor waits for. -/
structure Pending (τ : Type) where
  due : Nat
  ticket : τ

/-- The state of a run. -/
structure Schedule (σ ω ε ρ τ : Type) where
  now : Nat
  state : σ
  outside : ρ
  pending : Table Actor (Pending τ)
  /-- What completed calls have come to. -/
  results : Table Nat ω
  /-- What has been seen of all steps, in order. -/
  events : List ε

namespace Schedule

variable {σ ω ε ρ τ : Type}

/-- A run that begins at instant zero. -/
def new (state : σ) (outside : ρ) : Schedule σ ω ε ρ τ := ⟨0, state, outside, .empty, .empty, []⟩

/-- Record what a step of an actor leads to. -/
def apply (s : Schedule σ ω ε ρ τ) (actor : Actor) (p : Progress σ ω ε) : Schedule σ ω ε ρ τ :=
  { s with
    state := p.state
    events := s.events ++ p.events
    results := match actor, p.result? with
      | .call id, some result => s.results.insert id result
      | _, _ => s.results }

/-- Let an actor take a step, if it can go on now. -/
def act? (m : Machine σ ω ε) (o : Outside ρ τ) (s : Schedule σ ω ε ρ τ) (actor : Actor) :
    Option (Schedule σ ω ε ρ τ) :=
  let take (s : Schedule σ ω ε ρ τ) (input : Input) : Option (Schedule σ ω ε ρ τ) :=
    (m.step s.state s.now actor input).map (s.apply actor)
  match m.want s.state actor with
  | .nothing => none
  | .turn => take s .turn
  | .tick due => if due ≤ s.now then take s .tick else none
  | .client client =>
    let (result, outside) := o.build s.outside client
    take { s with outside } (.built result)
  | .reply call =>
    match s.pending.find? actor with
    | none =>
      let (delay, ticket, outside) := o.start s.outside call
      some { s with outside, pending := s.pending.insert actor ⟨s.now + delay, ticket⟩ }
    | some p =>
      if p.due ≤ s.now then
        let (input, outside) := o.finish s.outside call p.ticket
        take { s with outside, pending := s.pending.erase actor } input
      else none

/-- Let the first actor that can go on take a step. -/
def actFirst? (m : Machine σ ω ε) (o : Outside ρ τ) (s : Schedule σ ω ε ρ τ) :
    Option (Schedule σ ω ε ρ τ) :=
  (m.actors s.state).findSome? (s.act? m o)

/-- Let actors take steps until none can go on, or `fuel` is used up. -/
def settleWithin (m : Machine σ ω ε) (o : Outside ρ τ) :
    Nat → Schedule σ ω ε ρ τ → Schedule σ ω ε ρ τ
  | 0, s => s
  | fuel + 1, s =>
    match s.actFirst? m o with
    | some s => settleWithin m o fuel s
    | none => s

/-- More steps than any system takes at one instant. -/
def stepsPerInstant : Nat := 10000000

/-- Let everything happen that can happen at the present instant. -/
def settle (m : Machine σ ω ε) (o : Outside ρ τ) (s : Schedule σ ω ε ρ τ) : Schedule σ ω ε ρ τ :=
  settleWithin m o stepsPerInstant s

/-- The instants that actors wait for. -/
def timers (m : Machine σ ω ε) (s : Schedule σ ω ε ρ τ) : List Nat :=
  s.pending.values.map (·.due) ++
    (m.actors s.state).filterMap fun actor =>
      match m.want s.state actor with
      | .tick due => some due
      | _ => none

/-- The next instant after the present one that an actor waits for. -/
def nextTimer? (m : Machine σ ω ε) (s : Schedule σ ω ε ρ τ) : Option Nat :=
  ((s.timers m).filter (s.now < ·)).min?

/-- Move the clock to `target`, letting everything happen on the way; `fuel` bounds the number of stops. -/
def advanceWithin (m : Machine σ ω ε) (o : Outside ρ τ) (target : Nat) :
    Nat → Schedule σ ω ε ρ τ → Schedule σ ω ε ρ τ
  | 0, s => s
  | fuel + 1, s =>
    match s.nextTimer? m with
    | some due =>
      if due ≤ target then
        advanceWithin m o target fuel (({ s with now := due } : Schedule σ ω ε ρ τ).settle m o)
      else ({ s with now := target } : Schedule σ ω ε ρ τ).settle m o
    | none => ({ s with now := target } : Schedule σ ω ε ρ τ).settle m o

/-- Let `ms` milliseconds pass. -/
def wait (m : Machine σ ω ε) (o : Outside ρ τ) (ms : Nat) (s : Schedule σ ω ε ρ τ) :
    Schedule σ ω ε ρ τ :=
  advanceWithin m o (s.now + ms) (ms + 1) (s.settle m o)

/-- Let time pass until a call is completed; `fuel` bounds the number of stops. -/
def awaitWithin (m : Machine σ ω ε) (o : Outside ρ τ) (id : Nat) :
    Nat → Schedule σ ω ε ρ τ → Schedule σ ω ε ρ τ
  | 0, s => s
  | fuel + 1, s =>
    if s.results.contains id then s
    else
      match s.nextTimer? m with
      | some due => awaitWithin m o id fuel (({ s with now := due } : Schedule σ ω ε ρ τ).settle m o)
      | none => s

/-- More stops than any wait for a call makes. -/
def stopsPerCall : Nat := 100000000

/-- Let time pass until a call is completed. -/
def await (m : Machine σ ω ε) (o : Outside ρ τ) (id : Nat) (s : Schedule σ ω ε ρ τ) :
    Schedule σ ω ε ρ τ :=
  awaitWithin m o id stopsPerCall (s.settle m o)

/-- Change the machine's state from outside, and let everything happen that follows at once. -/
def change (m : Machine σ ω ε) (o : Outside ρ τ) (f : σ → σ) (s : Schedule σ ω ε ρ τ) :
    Schedule σ ω ε ρ τ :=
  ({ s with state := f s.state } : Schedule σ ω ε ρ τ).settle m o

end Schedule

/-! ## Machines -/

/-- A single buffered backend as a machine. -/
def bufferedMachine : Machine BufferedBackend BufferedBackend.Result BufferedBackend.Event :=
  ⟨fun b => b.jobs.keys, BufferedBackend.want, fun b _ actor input => b.step actor input⟩

/-- A registry as a machine. -/
def registryMachine : Machine Registry Registry.Result Registry.Event :=
  ⟨Registry.actors, Registry.want, Registry.step⟩

/-- A manager as a machine. -/
def managerMachine : Machine Manager Manager.Result Manager.Event :=
  ⟨Manager.actors, Manager.want, Manager.step⟩

end GatewayAuth.Simulation
