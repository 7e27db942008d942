import GatewayAuth.Proofs.Http.Exchanged
import GatewayAuth.Simulation.Network

/-!
# `GatewayAuth.Proofs.Simulation.Follows` — a schedule takes one of the runs

A schedule fixes the order in which actors take their steps, and the clock. Whatever it comes to was brought about by steps
that the machine can take, so that there is a run that it follows: the run ends in the state of the schedule, the network
has told the actors what they were told, the exchanges of the schedule are those of the run, and so are its results. What
is true of all runs is thus true of what a program does.

## Contents
- `History.begun`: the tasks that a run was given.
- `Follows`: a schedule over a network, and the run that it has taken.
- `Follows.act`, `Follows.settle`, `Follows.await`, `Follows.begins`: the moves of a schedule go on with the run.
-/

namespace GatewayAuth

/-- The tasks that actors were given, the last one first. -/
def History.begun {σ τ ω ε : Type} : History σ τ ω ε → List (Actor × τ)
  | [] => []
  | .began actor task :: h => (actor, task) :: begun h
  | .stepped _ _ _ _ _ :: h => begun h

theorem History.mem_begun_of_task? {σ τ ω ε : Type} {h : History σ τ ω ε} {actor : Actor} {task : τ}
    (htask : h.task? actor = some task) : (actor, task) ∈ h.begun := by
  induction h with
  | nil => cases htask
  | cons moment h ih =>
      cases moment with
      | stepped s now other input p => exact ih htask
      | began other task' =>
          rw [task?_began] at htask
          split at htask
          · next heq =>
            cases htask
            rw [heq]
            exact List.mem_cons_self
          · exact List.mem_cons_of_mem _ (ih htask)

namespace Simulation

variable {σ τ ω ε : Type}

/-- What completes a call in a run was given to it as a task. -/
def Tasked (S : System σ τ ω ε) (s₀ : σ) : Prop :=
  ∀ h s now id input p, Run S s₀ h s → S.step s now (.call id) input = some p →
    ∃ task, h.task? (.call id) = some task

/-- A schedule over a network has taken a run. -/
structure Follows (S : System σ τ ω ε) (s₀ : σ) (server : Http.Server)
    (s : Schedule σ ω ε NetworkSide Unit) (h : History σ τ ω ε) : Prop where
  run : Run S s₀ h s.state
  told : S.Told (Http.through (Http.network S server)) h
  exchanges : s.outside.exchanges = Http.exchanged S server h
  kept : s.outside.server = server
  /-- The results are those of completed calls. -/
  results : ∀ id result, s.results.find? id = some result →
    ∃ task, (.call id, task) ∈ h.begun ∧ (task, result) ∈ h.outcomes

namespace Follows

variable {S : System σ τ ω ε} {s₀ : σ} {server : Http.Server} {m : Machine σ ω ε}
  {s s' : Schedule σ ω ε NetworkSide Unit} {h : History σ τ ω ε} {actor : Actor}

/-- A schedule that has not begun has taken the run without moments. -/
theorem new (S : System σ τ ω ε) (s₀ : σ) (server : Http.Server) :
    Follows S s₀ server (.new s₀ (.new server)) [] :=
  ⟨.start, .nil, rfl, rfl, fun _ _ h => (by cases h)⟩

/-- The clock and the calls on their way play no part in the run. -/
theorem congr (hf : Follows S s₀ server s h) (hstate : s'.state = s.state)
    (houtside : s'.outside = s.outside) (hresults : s'.results = s.results) :
    Follows S s₀ server s' h := by
  constructor
  case run => rw [hstate]; exact hf.run
  case told => exact hf.told
  case exchanges => rw [houtside]; exact hf.exchanges
  case kept => rw [houtside]; exact hf.kept
  case results => rw [hresults]; exact hf.results

/-- A task that is given from outside is a moment of the run. -/
theorem begins (hf : Follows S s₀ server s h) {task : τ} {state : σ}
    (hbegin : S.begin? s.state actor task = some state) :
    Follows S s₀ server { s with state } (.began actor task :: h) := by
  constructor
  case run => exact .begins hf.run hbegin
  case told => exact .began hf.told
  case exchanges => exact hf.exchanges
  case kept => exact hf.kept
  case results =>
    intro id result hresult
    obtain ⟨task', hbegun, houtcome⟩ := hf.results id result hresult
    exact ⟨task', List.mem_cons_of_mem _ hbegun, houtcome⟩

/-- What came out earlier has come out. -/
theorem mem_outcomes_of_mem {t : σ} {now : Nat} {input : Input} {p : Progress σ ω ε} {task : τ}
    {result : ω} (hmem : (task, result) ∈ h.outcomes) :
    (task, result) ∈ History.outcomes (.stepped t now actor input p :: h) := by
  unfold History.outcomes
  split
  · exact List.mem_cons_of_mem _ hmem
  · exact hmem

/-- A step that an actor takes is a moment of the run, if it is told what the network tells it. -/
theorem steps (hf : Follows S s₀ server s h) (htasked : Tasked S s₀) {input : Input}
    {p : Progress σ ω ε} {outside : NetworkSide} {pending : Table Actor (Pending Unit)}
    (hrule : Http.through (Http.network S server) h actor (S.want s.state actor) input)
    (hexchanges : outside.exchanges = Http.exchanged S server h ++
      Http.exchangedNow (Http.network S server h) (S.want s.state actor))
    (hkept : outside.server = server) (hstep : S.step s.state s.now actor input = some p) :
    ∃ h', h'.begun = h.begun ∧ Follows S s₀ server
      (({ s with outside, pending } : Schedule σ ω ε NetworkSide Unit).apply actor p) h' := by
  refine ⟨.stepped s.state s.now actor input p :: h, rfl, ?_⟩
  have hold : ∀ id result, s.results.find? id = some result →
      ∃ task, (.call id, task) ∈ h.begun ∧
        (task, result) ∈ History.outcomes (.stepped s.state s.now actor input p :: h) := by
    intro id result hresult
    obtain ⟨task, hbegun, houtcome⟩ := hf.results id result hresult
    exact ⟨task, hbegun, mem_outcomes_of_mem houtcome⟩
  constructor
  case run => exact .steps hf.run hstep
  case told => exact .stepped hrule hf.told
  case exchanges => exact hexchanges
  case kept => exact hkept
  case results =>
    intro id result hresult
    unfold Schedule.apply at hresult
    dsimp only at hresult
    split at hresult
    · next own new hnew =>
      rw [Table.find?_insert] at hresult
      split at hresult
      · next heq =>
        -- it is this call that has just been completed
        cases heq
        cases hresult
        obtain ⟨task, htask⟩ := htasked h s.state s.now id input p hf.run hstep
        refine ⟨task, History.mem_begun_of_task? htask, ?_⟩
        rw [History.outcomes_stepped_of_some hnew htask]
        exact List.mem_cons_self
      · exact hold id result hresult
    · exact hold id result hresult

/-- A step that ends no call leaves the network as it is. -/
theorem steps_alone (hf : Follows S s₀ server s h) (htasked : Tasked S s₀) {input : Input}
    {p : Progress σ ω ε} (hwant : ∀ call, S.want s.state actor ≠ .reply call)
    (hrule : ∀ client, S.want s.state actor = .client client → input = .built (Http.build client))
    (hstep : S.step s.state s.now actor input = some p) :
    ∃ h', h'.begun = h.begun ∧ Follows S s₀ server (s.apply actor p) h' := by
  refine hf.steps htasked ⟨hrule, fun call heq => absurd heq (hwant call)⟩ ?_ hf.kept hstep
  have hnow : Http.exchangedNow (Http.network S server h) (S.want s.state actor) = [] := by
    unfold Http.exchangedNow
    split
    · next call heq => exact absurd heq (hwant call)
    · rfl
  rw [hnow, List.append_nil]
  exact hf.exchanges

/-- **A step of a schedule goes on with the run**, or leaves it where it is. -/
theorem act (hf : Follows S s₀ server s h) (htasked : Tasked S s₀) (hwant : m.want = S.want)
    (hstep : m.step = S.step) (hact : s.act? m networked actor = some s') :
    ∃ h', h'.begun = h.begun ∧ Follows S s₀ server s' h' := by
  unfold Schedule.act? at hact
  dsimp only at hact
  rw [hwant, hstep] at hact
  cases hwaits : S.want s.state actor with
  | nothing =>
      rw [hwaits] at hact
      cases hact
  | turn =>
      rw [hwaits] at hact
      obtain ⟨p, hp, rfl⟩ := Option.map_eq_some_iff.1 hact
      exact hf.steps_alone htasked (by rw [hwaits]; nofun) (by rw [hwaits]; nofun) hp
  | tick due =>
      rw [hwaits] at hact
      dsimp only at hact
      split at hact
      · obtain ⟨p, hp, rfl⟩ := Option.map_eq_some_iff.1 hact
        exact hf.steps_alone htasked (by rw [hwaits]; nofun) (by rw [hwaits]; nofun) hp
      · cases hact
  | client client =>
      rw [hwaits] at hact
      obtain ⟨p, hp, rfl⟩ := Option.map_eq_some_iff.1 hact
      have hrule : ∀ client', S.want s.state actor = .client client' →
          Input.built (Http.build client) = .built (Http.build client') := by
        intro client' heq
        rw [hwaits] at heq
        cases heq
        rfl
      exact hf.steps_alone htasked (by rw [hwaits]; nofun) hrule hp
  | reply call =>
      rw [hwaits] at hact
      dsimp only at hact
      split at hact
      · -- the call has only just been made
        cases hact
        exact ⟨h, rfl, hf.congr rfl rfl rfl⟩
      · split at hact
        · obtain ⟨p, hp, rfl⟩ := Option.map_eq_some_iff.1 hact
          have hconnection : s.outside.server s.outside.exchanges = Http.network S server h := by
            rw [hf.kept, hf.exchanges]
            rfl
          refine hf.steps htasked ?_ ?_ hf.kept hp
          · rw [hwaits]
            refine ⟨nofun, fun call' heq => ?_⟩
            cases heq
            show (Http.perform (s.outside.server s.outside.exchanges) call).input = _
            rw [hconnection]
          · rw [hwaits]
            show s.outside.exchanges ++
              (Http.perform (s.outside.server s.outside.exchanges) call).exchanges = _
            rw [hconnection, hf.exchanges]
            rfl
        · cases hact

/-- Steps at one instant go on with the run, by induction on the number of steps. -/
theorem settleWithin (htasked : Tasked S s₀) (hwant : m.want = S.want) (hstep : m.step = S.step)
    (fuel : Nat) : ∀ {s : Schedule σ ω ε NetworkSide Unit} {h : History σ τ ω ε},
      Follows S s₀ server s h →
        ∃ h', h'.begun = h.begun ∧ Follows S s₀ server (s.settleWithin m networked fuel) h' := by
  induction fuel with
  | zero => exact fun hf => ⟨_, rfl, hf⟩
  | succ fuel ih =>
      intro s h hf
      unfold Schedule.settleWithin
      split
      · next s' hfirst =>
        obtain ⟨actor, -, hact⟩ := List.exists_of_findSome?_eq_some hfirst
        obtain ⟨h₁, hbegun₁, hf₁⟩ := hf.act htasked hwant hstep hact
        obtain ⟨h₂, hbegun₂, hf₂⟩ := ih hf₁
        exact ⟨h₂, hbegun₂.trans hbegun₁, hf₂⟩
      · exact ⟨h, rfl, hf⟩

/-- So does the wait for a call, by induction on the number of stops. -/
theorem awaitWithin (htasked : Tasked S s₀) (hwant : m.want = S.want) (hstep : m.step = S.step)
    (id fuel : Nat) : ∀ {s : Schedule σ ω ε NetworkSide Unit} {h : History σ τ ω ε},
      Follows S s₀ server s h →
        ∃ h', h'.begun = h.begun ∧ Follows S s₀ server (s.awaitWithin m networked id fuel) h' := by
  induction fuel with
  | zero => exact fun hf => ⟨_, rfl, hf⟩
  | succ fuel ih =>
      intro s h hf
      unfold Schedule.awaitWithin
      split
      · exact ⟨h, rfl, hf⟩
      · split
        · next due _ =>
          have hlater : Follows S s₀ server { s with now := due } h := hf.congr rfl rfl rfl
          obtain ⟨h₁, hbegun₁, hf₁⟩ := settleWithin htasked hwant hstep Schedule.stepsPerInstant hlater
          obtain ⟨h₂, hbegun₂, hf₂⟩ := ih hf₁
          exact ⟨h₂, hbegun₂.trans hbegun₁, hf₂⟩
        · exact ⟨h, rfl, hf⟩

/-- **The wait for a call goes on with the run**, and gives nobody a task. -/
theorem await (hf : Follows S s₀ server s h) (htasked : Tasked S s₀) (hwant : m.want = S.want)
    (hstep : m.step = S.step) (id : Nat) :
    ∃ h', h'.begun = h.begun ∧ Follows S s₀ server (s.await m networked id) h' := by
  obtain ⟨h₁, hbegun₁, hf₁⟩ := settleWithin htasked hwant hstep Schedule.stepsPerInstant hf
  obtain ⟨h₂, hbegun₂, hf₂⟩ := awaitWithin htasked hwant hstep id Schedule.stopsPerCall hf₁
  exact ⟨h₂, hbegun₂.trans hbegun₁, hf₂⟩

end Follows

end Simulation

end GatewayAuth
