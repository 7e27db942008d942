import GatewayAuth.Remote

/-!
# `GatewayAuth.Proofs.Run` — all interleavings of a system of actors

A schedule of the runtime fixes one order in which actors take their steps. The statements of this theory hold
for every order: a `Run` is any sequence of moments at which some actor is given a task or takes a step that
it can take. What a statement says about a run it says about its `History`, the list of its moments, the last
one first, so that a history grows where a list does and every induction on a run is one on that list.

## Contents
- `System`, `Moment`, `History`, `Run`: runs, and the record of what happened in them; `Run.trans`: a run that goes on;
  `Run.of_mem`: what a run has come through.
- `History.task?`, `History.outcomes`, `History.path`, `History.events`: what was asked of actors, what came of it, the
  steps they took for it, and what could be seen of it; `History.undo`: what is left without them.
- `Moment.rises`, `Run.countP_rises`: what comes about once.
- `System.exchanges`, `System.seen`: what has been asked of the world outside, and what moments show of themselves.
- `System.accepted`, `System.ReportsSucceed`: what backends have accepted.
- `System.Told`: runs in which the world outside keeps to a rule.
- `System.play`: the run that a list of moves leads to, for runs given in full; `System.playIn`: the same where a
  world outside gives the inputs.
-/

namespace GatewayAuth

/-- A system of actors that are given tasks from outside. -/
structure System (σ τ ω ε : Type) where
  begin? : σ → Actor → τ → Option σ
  want : σ → Actor → Want
  step : σ → Nat → Actor → Input → Option (Progress σ ω ε)

/-- What happens at one moment of a run. -/
inductive Moment (σ τ ω ε : Type) where
  /-- An actor is given a task. -/
  | began (actor : Actor) (task : τ)
  /-- An actor takes a step, told `input` in the state `before`. -/
  | stepped (before : σ) (now : Nat) (actor : Actor) (input : Input) (progress : Progress σ ω ε)

/-- The moments of a run, the last one first. -/
abbrev History (σ τ ω ε : Type) := List (Moment σ τ ω ε)

variable {σ τ ω ε : Type}

/-- The state `s` is reached from `s₀` through the moments of a history. -/
inductive Run (S : System σ τ ω ε) (s₀ : σ) : History σ τ ω ε → σ → Prop where
  | start : Run S s₀ [] s₀
  | begins {h : History σ τ ω ε} {s s' : σ} {actor : Actor} {task : τ} (run : Run S s₀ h s)
      (hbegin : S.begin? s actor task = some s') : Run S s₀ (.began actor task :: h) s'
  | steps {h : History σ τ ω ε} {s : σ} {now : Nat} {actor : Actor} {input : Input}
      {p : Progress σ ω ε} (run : Run S s₀ h s) (hstep : S.step s now actor input = some p) :
      Run S s₀ (.stepped s now actor input p :: h) p.state

/-- What goes on from where a run has come to goes on from where that run started. -/
theorem Run.trans {S : System σ τ ω ε} {s₀ s₁ s : σ} {h since : History σ τ ω ε}
    (run : Run S s₀ h s₁) (run' : Run S s₁ since s) : Run S s₀ (since ++ h) s := by
  induction run' with
  | start => exact run
  | begins run' hbegin ih => exact .begins ih hbegin
  | steps run' hstep ih => exact .steps ih hstep

/-- A step of a run was taken in a state that the run has come through. -/
theorem Run.of_mem {S : System σ τ ω ε} {s₀ s s' : σ} {h : History σ τ ω ε} {now : Nat}
    {actor : Actor} {input : Input} {p : Progress σ ω ε} (run : Run S s₀ h s')
    (hmem : .stepped s now actor input p ∈ h) :
    ∃ past, Run S s₀ past s ∧ S.step s now actor input = some p := by
  induction run with
  | start => cases hmem
  | begins run hbegin ih =>
      rcases List.mem_cons.1 hmem with heq | hold
      · cases heq
      · exact ih hold
  | steps run hstep ih =>
      rcases List.mem_cons.1 hmem with heq | hold
      · cases heq
        exact ⟨_, run, hstep⟩
      · exact ih hold

/-! ## What a history tells -/

namespace Moment

/-- The instant at which an actor takes a step; tasks come at no instant of their own. -/
def now? : Moment σ τ ω ε → Option Nat
  | began _ _ => none
  | stepped _ now _ _ _ => some now

/-- A step of one actor. -/
def IsOf (actor : Actor) : Moment σ τ ω ε → Prop
  | began _ _ => False
  | stepped _ _ other _ _ => other = actor

/-- Whether it is at this step that a condition comes to hold. -/
def rises (P : σ → Bool) : Moment σ τ ω ε → Bool
  | began _ _ => false
  | stepped s _ _ _ p => !P s && P p.state

/-- What can be seen of this moment. -/
def events : Moment σ τ ω ε → List ε
  | began _ _ => []
  | stepped _ _ _ _ p => p.events

end Moment

/-- What is not taken back comes about at most once. -/
theorem Run.countP_rises {S : System σ τ ω ε} {s₀ s : σ} {h : History σ τ ω ε} {P : σ → Bool}
    (run : Run S s₀ h s) (hstart : P s₀ = false)
    (hbegins : ∀ s actor task s', S.begin? s actor task = some s' → P s' = P s)
    (hsteps : ∀ s now actor input p, S.step s now actor input = some p → P s = true →
      P p.state = true) :
    h.countP (Moment.rises P) = if P s then 1 else 0 := by
  induction run with
  | start =>
      rw [hstart]
      rfl
  | begins run hbegin ih =>
      rw [hbegins _ _ _ _ hbegin]
      exact (List.countP_cons_of_neg Bool.false_ne_true).trans ih
  | @steps h s now actor input p run hstep ih =>
      rw [List.countP_cons, ih, Moment.rises]
      cases hP : P s with
      | false => cases P p.state <;> rfl
      | true =>
          rw [hsteps s now actor input p hstep hP]
          rfl

namespace History

/-- The task that an actor was given last. -/
def task? (actor : Actor) : History σ τ ω ε → Option τ
  | [] => none
  | .began a task :: h => if a = actor then some task else task? actor h
  | .stepped _ _ _ _ _ :: h => task? actor h

/-- The tasks that have been completed, each with its result, the last one first. -/
def outcomes : History σ τ ω ε → List (τ × ω)
  | [] => []
  | .began _ _ :: h => outcomes h
  | .stepped _ _ actor _ p :: h =>
    match p.result?, task? actor h with
    | some result, some task => (task, result) :: outcomes h
    | _, _ => outcomes h

/-- The steps that an actor has taken since it was given its last task, the last one first. -/
def path (actor : Actor) : History σ τ ω ε → History σ τ ω ε
  | [] => []
  | .began a _ :: h => if a = actor then [] else path actor h
  | .stepped s now a input p :: h =>
    if a = actor then .stepped s now a input p :: path actor h else path actor h

/-- What others have done, and what an actor did before it was given its last task. -/
def undo (actor : Actor) : History σ τ ω ε → History σ τ ω ε
  | [] => []
  | .began a task :: h => if a = actor then h else .began a task :: undo actor h
  | .stepped s now a input p :: h =>
    if a = actor then undo actor h else .stepped s now a input p :: undo actor h

/-- Everything that could be seen of a run. -/
def events (h : History σ τ ω ε) : List ε := h.flatMap Moment.events

@[simp] theorem task?_began (actor a : Actor) (task : τ) (h : History σ τ ω ε) :
    task? actor (.began a task :: h) = if a = actor then some task else task? actor h := rfl

@[simp] theorem task?_stepped (actor a : Actor) (s : σ) (now : Nat) (input : Input)
    (p : Progress σ ω ε) (h : History σ τ ω ε) :
    task? actor (.stepped s now a input p :: h) = task? actor h := rfl

theorem path_began_self (actor : Actor) (task : τ) (h : History σ τ ω ε) :
    path actor (.began actor task :: h) = [] := if_pos rfl

theorem path_began_of_ne {actor a : Actor} (hne : a ≠ actor) (task : τ) (h : History σ τ ω ε) :
    path actor (.began a task :: h) = path actor h := if_neg hne

theorem path_stepped_self (s : σ) (now : Nat) (actor : Actor) (input : Input)
    (p : Progress σ ω ε) (h : History σ τ ω ε) :
    path actor (.stepped s now actor input p :: h) = .stepped s now actor input p :: path actor h :=
  if_pos rfl

theorem path_stepped_of_ne {actor a : Actor} (hne : a ≠ actor) (s : σ) (now : Nat) (input : Input)
    (p : Progress σ ω ε) (h : History σ τ ω ε) :
    path actor (.stepped s now a input p :: h) = path actor h := if_neg hne

theorem undo_began_self (actor : Actor) (task : τ) (h : History σ τ ω ε) :
    undo actor (.began actor task :: h) = h := if_pos rfl

theorem undo_began_of_ne {actor a : Actor} (hne : a ≠ actor) (task : τ) (h : History σ τ ω ε) :
    undo actor (.began a task :: h) = .began a task :: undo actor h := if_neg hne

theorem undo_stepped_self (s : σ) (now : Nat) (actor : Actor) (input : Input)
    (p : Progress σ ω ε) (h : History σ τ ω ε) :
    undo actor (.stepped s now actor input p :: h) = undo actor h := if_pos rfl

theorem undo_stepped_of_ne {actor a : Actor} (hne : a ≠ actor) (s : σ) (now : Nat) (input : Input)
    (p : Progress σ ω ε) (h : History σ τ ω ε) :
    undo actor (.stepped s now a input p :: h) = .stepped s now a input p :: undo actor h :=
  if_neg hne

/-- A task that an actor was given was given at some moment. -/
theorem mem_of_task? {actor : Actor} {task : τ} {h : History σ τ ω ε}
    (htask : h.task? actor = some task) : .began actor task ∈ h := by
  induction h with
  | nil => cases htask
  | cons moment h ih =>
      cases moment with
      | stepped s now a input p => exact List.mem_cons_of_mem _ (ih htask)
      | began a task' =>
          rw [task?_began] at htask
          by_cases ha : a = actor
          · rw [if_pos ha] at htask
            cases htask
            subst ha
            exact List.mem_cons_self
          · rw [if_neg ha] at htask
            exact List.mem_cons_of_mem _ (ih htask)

theorem events_stepped (s : σ) (now : Nat) (actor : Actor) (input : Input) (p : Progress σ ω ε)
    (h : History σ τ ω ε) : events (.stepped s now actor input p :: h) = p.events ++ events h := rfl

theorem outcomes_stepped_of_none {s : σ} {now : Nat} {actor : Actor} {input : Input}
    {p : Progress σ ω ε} {h : History σ τ ω ε} (hp : p.result? = none) :
    outcomes (.stepped s now actor input p :: h) = outcomes h := by
  simp only [outcomes, hp]

theorem outcomes_stepped_of_some {s : σ} {now : Nat} {actor : Actor} {input : Input}
    {p : Progress σ ω ε} {h : History σ τ ω ε} {result : ω} {task : τ}
    (hp : p.result? = some result) (htask : task? actor h = some task) :
    outcomes (.stepped s now actor input p :: h) = (task, result) :: outcomes h := by
  simp only [outcomes, hp, htask]

/-- What comes out at a moment came out before, or is the result of the step taken, for the task of who took it. -/
theorem mem_or_completed {s : σ} {now : Nat} {actor : Actor} {input : Input}
    {p : Progress σ ω ε} {h : History σ τ ω ε} {task : τ} {result : ω}
    (hmem : (task, result) ∈ outcomes (.stepped s now actor input p :: h)) :
    (task, result) ∈ outcomes h ∨ p.result? = some result ∧ task? actor h = some task := by
  unfold outcomes at hmem
  split at hmem
  · next result' task' hresult htask =>
    rcases List.mem_cons.1 hmem with heq | hold
    · cases heq
      exact .inr ⟨hresult, htask⟩
    · exact .inl hold
  · exact .inl hmem

/-- What comes out at a moment came out before, or is the result of the step taken. -/
theorem mem_outcomes_stepped {s : σ} {now : Nat} {actor : Actor} {input : Input}
    {p : Progress σ ω ε} {h : History σ τ ω ε} {task : τ} {result : ω}
    (hmem : (task, result) ∈ outcomes (.stepped s now actor input p :: h)) :
    (task, result) ∈ outcomes h ∨ p.result? = some result := by
  rcases mem_or_completed hmem with hold | hnew
  · exact .inl hold
  · exact .inr hnew.1

end History

namespace System

/-- What an actor has waited for in the world outside, with what it is told of it at a step. -/
def exchange? (S : System σ τ ω ε) : Moment σ τ ω ε → Option (Want × Input)
  | .began _ _ => none
  | .stepped s _ actor input _ =>
    match S.want s actor with
    | .client c => some (.client c, input)
    | .reply call => some (.reply call, input)
    | _ => none

/-- What has been asked of the world outside, with what has come of it, the last one first. -/
def exchanges (S : System σ τ ω ε) (h : History σ τ ω ε) : List (Want × Input) :=
  h.filterMap S.exchange?

section
variable {S : System σ τ ω ε} {s : σ} {now : Nat} {actor : Actor} {input : Input}
  {p : Progress σ ω ε} {h : History σ τ ω ε}

/-- Who waits for nothing outside asks for nothing there. -/
theorem exchanges_of_inside (hclient : ∀ c, S.want s actor ≠ .client c)
    (hreply : ∀ call, S.want s actor ≠ .reply call) :
    S.exchanges (.stepped s now actor input p :: h) = S.exchanges h := by
  refine List.filterMap_cons_none ?_
  cases hwant : S.want s actor with
  | client c => exact absurd hwant (hclient c)
  | reply call => exact absurd hwant (hreply call)
  | nothing | turn | tick => simp only [exchange?, hwant]

theorem exchanges_of_turn (hwant : S.want s actor = .turn) :
    S.exchanges (.stepped s now actor input p :: h) = S.exchanges h := by
  apply exchanges_of_inside
  · intro c hclient
    cases hwant.symm.trans hclient
  · intro call hreply
    cases hwant.symm.trans hreply

theorem exchanges_of_client {c : Client} (hwant : S.want s actor = .client c) :
    S.exchanges (.stepped s now actor input p :: h) = (.client c, input) :: S.exchanges h :=
  List.filterMap_cons_some (by simp only [exchange?, hwant])

theorem exchanges_of_reply {call : RemoteCall} (hwant : S.want s actor = .reply call) :
    S.exchanges (.stepped s now actor input p :: h) = (.reply call, input) :: S.exchanges h :=
  List.filterMap_cons_some (by simp only [exchange?, hwant])

end

/-- What a moment shows of itself: all but the states that it lies between. -/
inductive Seen (τ ω ε : Type) where
  | began (actor : Actor) (task : τ)
  | stepped (now : Nat) (actor : Actor) (want : Want) (input : Input) (result? : Option ω) (events : List ε)

/-- What is seen of a moment. -/
def seen (S : System σ τ ω ε) : Moment σ τ ω ε → Seen τ ω ε
  | .began actor task => .began actor task
  | .stepped s now actor input p => .stepped now actor (S.want s actor) input p.result? p.events

/-- The batch that the backend at a destination accepts when an actor that waits for `want` is told `input`. -/
def acceptedNow (destination : String) (want : Want) : Input → Option Wire.Batch
  | .reported (.ok ()) =>
    match want with
    | .reply (.report d batch) => if d = destination then some batch else none
    | _ => none
  | _ => none

theorem acceptedNow_eq_none {want : Want} (h : ∀ d batch, want ≠ .reply (.report d batch))
    (destination : String) (input : Input) : acceptedNow destination want input = none := by
  unfold acceptedNow
  split
  · split
    · next d batch => exact absurd rfl (h d batch)
    · rfl
  · rfl

/-- The batches that the backend at a destination has accepted. -/
def accepted (S : System σ τ ω ε) (destination : String) : History σ τ ω ε → List Wire.Batch
  | [] => []
  | .began _ _ :: h => accepted S destination h
  | .stepped s _ actor input _ :: h =>
    (acceptedNow destination (S.want s actor) input).toList ++ accepted S destination h

theorem accepted_stepped (S : System σ τ ω ε) (destination : String) (s : σ) (now : Nat)
    (actor : Actor) (input : Input) (p : Progress σ ω ε) (h : History σ τ ω ε) :
    S.accepted destination (.stepped s now actor input p :: h) =
      (acceptedNow destination (S.want s actor) input).toList ++ S.accepted destination h := rfl

/-- Whether an actor that waits for `want` is told by `input` that a report has failed. -/
def refusedNow (want : Want) : Input → Bool
  | .reported (.error _) =>
    match want with
    | .reply (.report _ _) => true
    | _ => false
  | _ => false

/-- Every report that has ended was accepted. -/
def ReportsSucceed (S : System σ τ ω ε) : History σ τ ω ε → Prop
  | [] => True
  | .began _ _ :: h => ReportsSucceed S h
  | .stepped s _ actor input _ :: h =>
    refusedNow (S.want s actor) input = false ∧ ReportsSucceed S h

instance decidableReportsSucceed (S : System σ τ ω ε) :
    (h : History σ τ ω ε) → Decidable (S.ReportsSucceed h)
  | [] => .isTrue trivial
  | .began _ _ :: h => decidableReportsSucceed S h
  | .stepped _ _ _ _ _ :: h => @instDecidableAnd _ _ _ (decidableReportsSucceed S h)

/-- At every step of a history, what the actor is told keeps to a rule, by what has happened before and by what the
actor waits for. -/
inductive Told (S : System σ τ ω ε) (rule : History σ τ ω ε → Actor → Want → Input → Prop) :
    History σ τ ω ε → Prop where
  | nil : Told S rule []
  | began {actor : Actor} {task : τ} {h : History σ τ ω ε} (told : Told S rule h) :
      Told S rule (.began actor task :: h)
  | stepped {s : σ} {now : Nat} {actor : Actor} {input : Input} {p : Progress σ ω ε}
      {h : History σ τ ω ε} (hrule : rule h actor (S.want s actor) input) (told : Told S rule h) :
      Told S rule (.stepped s now actor input p :: h)

namespace Told

variable {S : System σ τ ω ε} {rule rule' : History σ τ ω ε → Actor → Want → Input → Prop}
  {h : History σ τ ω ε}

theorem of_began {actor : Actor} {task : τ} (told : S.Told rule (.began actor task :: h)) :
    S.Told rule h := by
  cases told with
  | began told => exact told

theorem of_stepped {s : σ} {now : Nat} {actor : Actor} {input : Input} {p : Progress σ ω ε}
    (told : S.Told rule (.stepped s now actor input p :: h)) :
    rule h actor (S.want s actor) input ∧ S.Told rule h := by
  cases told with
  | stepped hrule told => exact ⟨hrule, told⟩

/-- A rule that everything keeps to. -/
theorem of_forall (hrule : ∀ h actor want input, rule h actor want input)
    (h : History σ τ ω ε) : S.Told rule h := by
  induction h with
  | nil => exact .nil
  | cons moment h ih =>
      cases moment with
      | began actor task => exact .began ih
      | stepped s now actor input p => exact .stepped (hrule _ _ _ _) ih

theorem imp (told : S.Told rule h)
    (himp : ∀ h actor want input, rule h actor want input → rule' h actor want input) :
    S.Told rule' h := by
  induction told with
  | nil => exact .nil
  | began told ih => exact .began ih
  | stepped hrule told ih => exact .stepped (himp _ _ _ _ hrule) ih

end Told

end System

/-! ## Runs given in full -/

/-- A move in a run: a task for an actor, or a step of one. -/
inductive Move (τ : Type) where
  | begin (actor : Actor) (task : τ)
  | step (now : Nat) (actor : Actor) (input : Input)

namespace System

/-- Go on from a state by moves; a move that is not possible is passed over. -/
def playFrom (S : System σ τ ω ε) :
    History σ τ ω ε → σ → List (Move τ) → History σ τ ω ε × σ
  | h, s, [] => (h, s)
  | h, s, .begin actor task :: moves =>
    match S.begin? s actor task with
    | some s' => playFrom S (.began actor task :: h) s' moves
    | none => playFrom S h s moves
  | h, s, .step now actor input :: moves =>
    match S.step s now actor input with
    | some p => playFrom S (.stepped s now actor input p :: h) p.state moves
    | none => playFrom S h s moves

/-- The history and the state to which moves lead. -/
def play (S : System σ τ ω ε) (s₀ : σ) (moves : List (Move τ)) : History σ τ ω ε × σ :=
  S.playFrom [] s₀ moves

theorem run_playFrom {S : System σ τ ω ε} {s₀ : σ} (moves : List (Move τ)) :
    ∀ {h : History σ τ ω ε} {s : σ}, Run S s₀ h s →
      Run S s₀ (S.playFrom h s moves).1 (S.playFrom h s moves).2 := by
  induction moves with
  | nil => intro h s run; exact run
  | cons move moves ih =>
      intro h s run
      cases move with
      | begin actor task =>
          unfold playFrom
          split
          · next s' hs => exact ih (.begins run hs)
          · exact ih run
      | step now actor input =>
          unfold playFrom
          split
          · next p hp => exact ih (.steps run hp)
          · exact ih run

/-- What came before plays no part in what moves lead to. -/
theorem playFrom_append (S : System σ τ ω ε) (moves : List (Move τ)) :
    ∀ (since before : History σ τ ω ε) (s : σ), S.playFrom (since ++ before) s moves =
      ((S.playFrom since s moves).1 ++ before, (S.playFrom since s moves).2) := by
  induction moves with
  | nil => exact fun since before s => rfl
  | cons move moves ih =>
      intro since before s
      cases move with
      | begin actor task =>
          unfold playFrom
          split
          · next s' hs => exact ih (.began actor task :: since) before s'
          · exact ih since before s
      | step now actor input =>
          unfold playFrom
          split
          · next p hp => exact ih (.stepped s now actor input p :: since) before p.state
          · exact ih since before s

/-- What moves lead to is a run. -/
theorem run_play (S : System σ τ ω ε) (s₀ : σ) (moves : List (Move τ)) :
    Run S s₀ (S.play s₀ moves).1 (S.play s₀ moves).2 := run_playFrom moves .start

/-- Go on from a state by moves whose inputs a world outside gives, by what has happened and by what the actor waits
for. -/
def playIn (S : System σ τ ω ε) (world : History σ τ ω ε → Actor → Want → Input) :
    History σ τ ω ε → σ → List (Actor × (Nat ⊕ τ)) → History σ τ ω ε × σ
  | h, s, [] => (h, s)
  | h, s, (actor, .inr task) :: moves =>
    match S.begin? s actor task with
    | some s' => playIn S world (.began actor task :: h) s' moves
    | none => playIn S world h s moves
  | h, s, (actor, .inl now) :: moves =>
    match S.step s now actor (world h actor (S.want s actor)) with
    | some p =>
      playIn S world (.stepped s now actor (world h actor (S.want s actor)) p :: h) p.state moves
    | none => playIn S world h s moves

/-- What moves lead to is a run. -/
theorem run_playIn {S : System σ τ ω ε} {s₀ : σ} (world : History σ τ ω ε → Actor → Want → Input)
    (moves : List (Actor × (Nat ⊕ τ))) :
    ∀ {h : History σ τ ω ε} {s : σ}, Run S s₀ h s →
      Run S s₀ (S.playIn world h s moves).1 (S.playIn world h s moves).2 := by
  induction moves with
  | nil => exact fun run => run
  | cons move moves ih =>
      intro h s run
      obtain ⟨actor, now | task⟩ := move
      · unfold playIn
        split
        · next p hp => exact ih (.steps run hp)
        · exact ih run
      · unfold playIn
        split
        · next s' hs => exact ih (.begins run hs)
        · exact ih run

/-- It keeps to the rules that the world outside keeps to. -/
theorem told_playIn {S : System σ τ ω ε} {world : History σ τ ω ε → Actor → Want → Input}
    {rule : History σ τ ω ε → Actor → Want → Input → Prop}
    (hworld : ∀ h actor want, rule h actor want (world h actor want))
    (moves : List (Actor × (Nat ⊕ τ))) :
    ∀ {h : History σ τ ω ε} (s : σ), S.Told rule h → S.Told rule (S.playIn world h s moves).1 := by
  induction moves with
  | nil => exact fun s told => told
  | cons move moves ih =>
      intro h s told
      obtain ⟨actor, now | task⟩ := move
      · unfold playIn
        split
        · next p hp => exact ih p.state (.stepped (hworld _ _ _) told)
        · exact ih s told
      · unfold playIn
        split
        · next s' hs => exact ih s' (.began told)
        · exact ih s told

end System

end GatewayAuth
